import ClassLift.Json.Access

/-!
# Paths in a tree

A path leads from a tree to something inside it. Each of its steps goes to the
value of a key of an object, or to an item of a list.
-/

namespace ClassLift.Json

/-- One step into a tree. -/
inductive Step where
  | key (name : String)
  | index (position : Nat)
deriving DecidableEq

/-- What a step leads to, if the tree has such a part. -/
def part? (tree : Json) : Step → Option Json
  | .key name => tree.field? name
  | .index position =>
      match tree with
      | .arr items => items[position]?
      | _ => none

/-- What a path leads to. -/
def follow? : Json → List Step → Option Json
  | tree, [] => some tree
  | tree, step :: rest => (tree.part? step).bind (follow? · rest)

theorem follow?_cons {tree part : Json} {step : Step} (isPart : tree.part? step = some part)
    (rest : List Step) : tree.follow? (step :: rest) = part.follow? rest := by
  rw [follow?, isPart, Option.bind_some]

theorem part?_of_follow? {tree found : Json} {step : Step} {rest : List Step}
    (leads : tree.follow? (step :: rest) = some found) :
    ∃ part, tree.part? step = some part ∧ part.follow? rest = some found := by
  rw [follow?] at leads
  exact Option.bind_eq_some_iff.mp leads

theorem follow?_append {tree part : Json} {path : List Step} (leads : tree.follow? path = some part)
    (rest : List Step) : tree.follow? (path ++ rest) = part.follow? rest := by
  induction path generalizing tree with
  | nil =>
      rw [follow?, Option.some.injEq] at leads
      rw [leads, List.nil_append]
  | cons step path ih =>
      rcases part?_of_follow? leads with ⟨inner, isPart, leads⟩
      rw [List.cons_append, follow?_cons isPart, ih leads]

theorem eq_of_follow?_str {text : String} {path : List Step} {found : Json}
    (leads : (Json.str text).follow? path = some found) : found = .str text := by
  cases path with
  | nil => exact (Option.some.inj leads).symm
  | cons step rest =>
      rcases part?_of_follow? leads with ⟨part, isPart, _⟩
      cases step with
      | key name => simp [part?, field?] at isPart
      | index position => simp [part?] at isPart

end ClassLift.Json
