import ClassLift.Member.Table
import ClassLift.Trace

/-!
# Classified members

The entries of a table are split into methods, which are functions, getters and
setters, and data, which is everything else. At most one entry is taken out as
the constructor: the first function that has the constructor's name, unless the
class has a constructor already.
-/

namespace ClassLift

/-- What an entry becomes. -/
inductive MemberRole where
  | classConstructor
  | method
  | data
deriving DecidableEq

/-- The entries of a table by role, each group in table order. -/
structure ClassifiedMembers where
  classConstructor : Option MemberEntry
  methods : List MemberEntry
  data : List MemberEntry
deriving DecidableEq

/-- Whether an entry is a function with the constructor's name. -/
def MemberEntry.isConstructor (entry : MemberEntry) (constructorName : Json) :
    Except Failure Bool := do
  if entry.isAccessor then return false
  if !(← entry.isFunction) then return false
  return (← entry.name).sameValue constructorName

/-- The role of an entry; `found` says that the class has a constructor already. -/
def MemberEntry.role (constructorName : Option Json) (found : Bool) (entry : MemberEntry) :
    Except Failure MemberRole := do
  let isConstructor ←
    match constructorName, found with
    | some name, false => entry.isConstructor name
    | _, _ => pure false
  if isConstructor then return .classConstructor
  let isFunction ← entry.isFunction
  return if isFunction || entry.isAccessor then .method else .data

namespace ClassifiedMembers

def empty : ClassifiedMembers :=
  ⟨none, [], []⟩

/-- Puts an entry in front of the others of its role. -/
def insert (role : MemberRole) (entry : MemberEntry) (rest : ClassifiedMembers) :
    ClassifiedMembers :=
  match role with
  | .classConstructor => { rest with classConstructor := some entry }
  | .method => { rest with methods := entry :: rest.methods }
  | .data => { rest with data := entry :: rest.data }

/-- Splits entries by role; once the constructor is found, later entries are not it. -/
def split (constructorName : Option Json) : Bool → List MemberEntry →
    Except Failure ClassifiedMembers
  | _, [] => .ok empty
  | found, entry :: entries => do
      let role ← entry.role constructorName found
      let rest ← split constructorName (found || role == .classConstructor) entries
      return rest.insert role entry

/-- Classifies the entries of a table. -/
def ofEntries (constructorName : Option Json) (found : Bool) (entries : List MemberEntry) :
    Traced ClassifiedMembers := do
  let classified ← (split constructorName found entries : Except Failure _)
  Traced.record .debug .memberTable
    ("Classified " ++ toString entries.length ++ " member(s): "
      ++ toString classified.methods.length ++ " method(s), "
      ++ toString classified.data.length ++ " data member(s), constructor="
      ++ (if classified.classConstructor.isSome then "yes" else "no"))
  return classified

end ClassifiedMembers

end ClassLift
