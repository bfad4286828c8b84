import ClassLift.Options
import ClassLift.Text.Case

/-!
# Lower case and tags

Tags of targets are read in any case. It is enough to change the letters of ASCII
for that: of all other characters, none has a lower-case form that occurs in a tag.
`Text.lowered_eq_tag_iff` is the same for whole texts.
-/

namespace ClassLift.Text

/-- The characters that occur in tags. -/
def tagCharacters : List Char :=
  Target.all.flatMap (·.tag.toList)

/-- Apart from the letters of ASCII, no run of characters is taken to a character of a tag. -/
theorem distance_of_mem_lowerRuns {run : CaseRun} (isLater : run ∈ lowerRuns.tail) :
    128 ≤ run.first ∧ ∀ character ∈ tagCharacters,
      (character.toNat : Int) < run.first + run.distance ∨
        run.last + run.distance < (character.toNat : Int) := by
  have checked : lowerRuns.tail.all (fun run => decide (128 ≤ run.first) &&
      tagCharacters.all fun character =>
        decide ((character.toNat : Int) < run.first + run.distance) ||
          decide (run.last + run.distance < (character.toNat : Int))) = true := by
    decide +kernel
  have checkedHere := List.all_eq_true.mp checked run isLater
  simpa using checkedHere

theorem toNat_lt_of_mem_tagCharacters {character : Char} (isPlain : character ∈ tagCharacters) :
    0 < character.toNat ∧ character.toNat < 128 := by
  have checked : tagCharacters.all (fun character =>
      decide (0 < character.toNat) && decide (character.toNat < 128)) = true := by decide
  simpa using List.all_eq_true.mp checked character isPlain

theorem lower_of_ascii {character : Char} (isAscii : character.toNat < 128) :
    lower character = [character.toLower] := by
  have checked : ∀ code : Fin 128,
      lower (Char.ofNat code) = [(Char.ofNat code).toLower] := by decide +kernel
  simpa using checked ⟨character.toNat, isAscii⟩

theorem toLower_of_not_ascii {character : Char} (notAscii : 128 ≤ character.toNat) :
    character.toLower = character := by
  have tooLarge : ¬(character.val ≥ 'A'.val ∧ character.val ≤ 'Z'.val) := by
    rintro ⟨_, atMost⟩
    have atMost : character.toNat ≤ 90 := atMost
    omega
  exact dif_neg tooLarge

/-- A number that is no code point gives the null character. -/
theorem toNat_ofNat_cases (code : Nat) :
    (Char.ofNat code).toNat = code ∨ (Char.ofNat code).toNat = 0 := by
  by_cases isValid : code.isValidChar
  · left
    have charIs : Char.ofNat code = Char.ofNatAux code isValid := dif_pos isValid
    rw [charIs]
    rfl
  · right
    have charIs : Char.ofNat code = ⟨0, by decide⟩ := dif_neg isValid
    rw [charIs]
    rfl

/-- The lower-case form of a character beyond ASCII does not begin like a tag. -/
theorem lower_of_not_ascii {character : Char} (notAscii : 128 ≤ character.toNat) :
    ∃ first others, lower character = first :: others ∧ first ∉ tagCharacters := by
  have notPlain : character ∉ tagCharacters := by
    intro isPlain
    have isAscii := (toNat_lt_of_mem_tagCharacters isPlain).2
    omega
  unfold lower
  simp only
  split
  · exact ⟨_, _, rfl, by decide⟩
  split
  · rename_i run isFound
    refine ⟨_, _, rfl, ?_⟩
    have contains := List.find?_some isFound
    have isRun := List.mem_of_find?_eq_some isFound
    simp only [CaseRun.contains, Bool.and_eq_true, decide_eq_true_eq] at contains
    have isLater : run ∈ lowerRuns.tail := by
      have runsAre : lowerRuns = ⟨65, 90, 1, 32⟩ :: lowerRuns.tail := rfl
      rw [runsAre, List.mem_cons] at isRun
      rcases isRun with rfl | isLater
      · simp only at contains
        omega
      · exact isLater
    intro isPlain
    have isAscii := toNat_lt_of_mem_tagCharacters isPlain
    have isOutside := (distance_of_mem_lowerRuns isLater).2 _ isPlain
    rcases toNat_ofNat_cases (character.toNat + run.distance).toNat with codeIs | codeIs
    · rw [codeIs] at isOutside
      omega
    · omega
  · exact ⟨_, _, rfl, notPlain⟩

theorem lower_append_eq_iff {character first : Char} {rest others : List Char}
    (isPlain : first ∈ tagCharacters) :
    lower character ++ rest = first :: others ↔ character.toLower = first ∧ rest = others := by
  by_cases isAscii : character.toNat < 128
  · simp [lower_of_ascii isAscii]
  · have notAscii : 128 ≤ character.toNat := by omega
    have notSame : character ≠ first := by
      rintro rfl
      exact isAscii (toNat_lt_of_mem_tagCharacters isPlain).2
    rcases lower_of_not_ascii notAscii with ⟨begins, ends, lowerIs, notPlain⟩
    rw [lowerIs, toLower_of_not_ascii notAscii]
    constructor
    · intro same
      rw [List.cons_append, List.cons.injEq] at same
      exact absurd (same.1 ▸ isPlain) notPlain
    · rintro ⟨same, _⟩
      exact absurd same notSame

theorem lowered_eq_iff {characters word : List Char} (arePlain : ∀ character ∈ word,
      character ∈ tagCharacters) :
    lowered characters = word ↔ characters.map Char.toLower = word := by
  induction characters generalizing word with
  | nil => simp [lowered]
  | cons character rest ih =>
      have loweredIs : lowered (character :: rest) = lower character ++ lowered rest := rfl
      rw [loweredIs, List.map_cons]
      cases word with
      | nil =>
          have notEmpty : lower character ≠ [] := by
            by_cases isAscii : character.toNat < 128
            · simp [lower_of_ascii isAscii]
            · have notAscii : 128 ≤ character.toNat := by omega
              rcases lower_of_not_ascii notAscii with ⟨begins, ends, lowerIs, _⟩
              simp [lowerIs]
          simp [notEmpty]
      | cons first others =>
          rcases List.forall_mem_cons.mp arePlain with ⟨firstPlain, othersPlain⟩
          rw [lower_append_eq_iff firstPlain, List.cons.injEq, ih othersPlain]

/-- A text in lower case is a tag exactly if it is one with the letters of ASCII in lower case. -/
theorem lowered_eq_tag_iff {text : String} {target : Target} :
    lowered text.toList = target.tag.toList ↔ Target.ofTag? text.toLower = some target := by
  have arePlain : ∀ character ∈ target.tag.toList, character ∈ tagCharacters := by
    intro character isThere
    exact List.mem_flatMap.mpr ⟨target, by cases target <;> decide, isThere⟩
  have isTag_iff : Target.ofTag? text.toLower = some target ↔ text.toLower = target.tag := by
    unfold Target.ofTag?
    constructor
    · intro isFound
      have found := List.find?_some isFound
      exact (beq_iff_eq.mp found).symm
    · intro isTag
      rw [isTag]
      cases target <;> decide
  have lowerIs : text.toLower.toList = text.toList.map Char.toLower := String.toList_map
  rw [lowered_eq_iff arePlain, isTag_iff, ← String.toList_inj, lowerIs]

end ClassLift.Text
