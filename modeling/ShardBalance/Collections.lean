/-!
The collections a caller asks for, checked against those that exist.
-/

namespace ShardBalance.Collections

/-- Each name once, where it comes first. -/
def distinct : List String → List String
  | [] => []
  | c :: l => c :: (distinct l).filter (· ≠ c)

@[simp] theorem mem_distinct {c : String} {l : List String} : c ∈ distinct l ↔ c ∈ l := by
  induction l with
  | nil => rfl
  | cons d l ih => by_cases h : c = d <;> simp [distinct, ih, h]

/-- The names asked for, each once, or those of them that do not exist; all names where none were asked
for. -/
def select (asked : Option (List String)) (existing : List String) : Except (List String) (List String) :=
  match asked with
  | none => .ok existing
  | some names =>
    match (distinct names).filter (· ∉ existing) with
    | [] => .ok (distinct names)
    | missing => .error missing

end ShardBalance.Collections
