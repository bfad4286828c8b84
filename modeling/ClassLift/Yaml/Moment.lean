/-!
# Moments in time

A scalar can spell a date, or a date with a time of day and a time zone. The
form alone does not make it a moment: its parts must also be in range.
-/

namespace ClassLift.Yaml

/-- A time of day, with the distance of its zone in minutes if one is written. -/
structure TimeOfDay where
  hour : Nat
  minute : Nat
  second : Nat
  microsecond : Nat
  zone : Option Int
deriving DecidableEq

/-- A date, with a time of day if one is written. -/
structure Moment where
  year : Nat
  month : Nat
  day : Nat
  time : Option TimeOfDay
deriving DecidableEq

/-- Which part of a moment is out of range. -/
inductive MomentFault where
  | year (number : Nat)
  | month
  | day
  | hour
  | minute
  | second
  | zone (minutes : Int)
deriving DecidableEq

namespace MomentFault

/-- A distance in time as whole days and the seconds of a last day. -/
def distanceText (minutes : Int) : String :=
  let days := minutes.fdiv 1440
  let seconds := minutes.fmod 1440 * 60
  let parts := (if days = 0 then [] else ["days=" ++ toString days])
    ++ (if seconds = 0 then [] else ["seconds=" ++ toString seconds])
  "datetime.timedelta(" ++ (if parts.isEmpty then "0" else ", ".intercalate parts) ++ ")"

def message : MomentFault → String
  | .year number => "year " ++ toString number ++ " is out of range"
  | .month => "month must be in 1..12"
  | .day => "day is out of range for month"
  | .hour => "hour must be in 0..23"
  | .minute => "minute must be in 0..59"
  | .second => "second must be in 0..59"
  | .zone minutes =>
      "offset must be a timedelta strictly between -timedelta(hours=24) and timedelta(hours=24), not "
        ++ distanceText minutes ++ "."

end MomentFault

namespace Moment

/-- The number spelled by at least `least` and at most `most` digits, and what follows them. -/
def digits? (least most : Nat) (text : List Char) : Option (Nat × List Char) :=
  let digits := (text.take most).takeWhile Char.isDigit
  if digits.length < least then none
  else
    some (digits.foldl (fun value digit => 10 * value + (digit.toNat - '0'.toNat)) 0,
      text.drop digits.length)

def sign? (expected : Char) : List Char → Option (List Char)
  | character :: rest => if character = expected then some rest else none
  | [] => none

def isGap (character : Char) : Bool :=
  character == ' ' || character == '\t'

/-- A date; month and day have exactly two digits, or at least one. -/
def date? (least : Nat) (text : List Char) : Option (Moment × List Char) := do
  let (year, rest) ← digits? 4 4 text
  let (month, rest) ← digits? least 2 (← sign? '-' rest)
  let (day, rest) ← digits? least 2 (← sign? '-' rest)
  return (⟨year, month, day, none⟩, rest)

/-- The zone at the end of a moment: none, the letter for no distance, or a distance. -/
def zone? (text : List Char) : Option (Option Int) :=
  match text, text.dropWhile isGap with
  | [], _ => some none
  | _, ['Z'] => some (some 0)
  | _, direction :: rest => do
      if direction ≠ '-' ∧ direction ≠ '+' then none
      let (hours, rest) ← digits? 1 2 rest
      let minutes ←
        match rest with
        | [] => some 0
        | _ => do
            let (minutes, rest) ← digits? 2 2 (← sign? ':' rest)
            if rest.isEmpty then some minutes else none
      let distance : Int := 60 * hours + minutes
      return some (if direction = '-' then -distance else distance)
  | _, [] => none

/-- The digits of a fraction of a second, up to the sixth one. -/
def microseconds (fraction : List Char) : Nat :=
  ((fraction ++ List.replicate 6 '0').take 6).foldl
    (fun value digit => 10 * value + (digit.toNat - '0'.toNat)) 0

/-- A time of day; a fraction of a second may follow it before the zone. -/
def time? (text : List Char) : Option TimeOfDay := do
  let (hour, rest) ← digits? 1 2 text
  let (minute, rest) ← digits? 2 2 (← sign? ':' rest)
  let (second, rest) ← digits? 2 2 (← sign? ':' rest)
  let (fraction, rest) :=
    match rest with
    | '.' :: others => (others.takeWhile Char.isDigit, others.dropWhile Char.isDigit)
    | _ => ([], rest)
  return ⟨hour, minute, second, microseconds fraction, ← zone? rest⟩

/-- A letter or a gap between a date and a time. -/
def separator? : List Char → Option (List Char)
  | character :: rest =>
      if character = 'T' ∨ character = 't' then some rest
      else if isGap character then some (rest.dropWhile isGap)
      else none
  | [] => none

/-- Reads a text in the form of a moment; a month or day may have a single digit. -/
def read? (text : List Char) : Option Moment := do
  let (moment, rest) ← date? 1 text
  if rest.isEmpty then return moment
  let time ← time? (← separator? rest)
  return { moment with time := some time }

/-- Whether a text is recognised as a moment: a date alone must have all its digits. -/
def isRecognised (text : List Char) : Bool :=
  match date? 2 text, read? text with
  | some (_, []), _ => true
  | _, some moment => moment.time.isSome
  | _, none => false

def isLeapYear (year : Nat) : Bool :=
  year % 4 == 0 && (year % 100 != 0 || year % 400 == 0)

def daysInMonth (year month : Nat) : Nat :=
  if month = 2 then if isLeapYear year then 29 else 28
  else if [4, 6, 9, 11].contains month then 30
  else 31

/-- What is out of range in a date. -/
def dateFault? (moment : Moment) : Option MomentFault :=
  if moment.year = 0 then some (.year 0)
  else if moment.month = 0 ∨ 12 < moment.month then some .month
  else if moment.day = 0 ∨ daysInMonth moment.year moment.month < moment.day then some .day
  else none

end Moment

namespace TimeOfDay

/-- What is out of range in a time of day, its zone apart. -/
def fault? (time : TimeOfDay) : Option MomentFault :=
  if 23 < time.hour then some .hour
  else if 59 < time.minute then some .minute
  else if 59 < time.second then some .second
  else none

/-- A zone must be less than a day away. -/
def zoneFault? (time : TimeOfDay) : Option MomentFault :=
  (time.zone.filter fun minutes => 1440 ≤ minutes.natAbs).map .zone

end TimeOfDay

/-- The first part of a moment that is out of range: the zone, the date, the time of day. -/
def Moment.fault? (moment : Moment) : Option MomentFault :=
  (moment.time.bind (·.zoneFault?)).or
    (moment.dateFault?.or (moment.time.bind (·.fault?)))

namespace Moment

/-- The parts of a time of day that are shown: seconds and their fractions only if there are any. -/
def shownParts (time : TimeOfDay) : List Nat :=
  [time.hour, time.minute]
    ++ (if time.microsecond ≠ 0 then [time.second, time.microsecond]
      else if time.second ≠ 0 then [time.second] else [])

def zoneText (minutes : Int) : String :=
  if minutes = 0 then "datetime.timezone.utc"
  else "datetime.timezone(" ++ MomentFault.distanceText minutes ++ ")"

/-- The text of a moment inside a message. -/
def display (moment : Moment) : String :=
  let date := [moment.year, moment.month, moment.day]
  let shown (parts : List Nat) : String := ", ".intercalate (parts.map toString)
  match moment.time with
  | none => "datetime.date(" ++ shown date ++ ")"
  | some time =>
      "datetime.datetime(" ++ shown (date ++ shownParts time)
        ++ (time.zone.map (", tzinfo=" ++ zoneText ·)).getD "" ++ ")"

/-- The word that messages use for the kind of a moment. -/
def kindWord (moment : Moment) : String :=
  if moment.time.isSome then "datetime" else "date"

end Moment

end ClassLift.Yaml
