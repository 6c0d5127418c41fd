/-!
Finding one text inside another.
-/

namespace ShardBalance.Text

def occursIn (part : List Char) : List Char → Bool
  | [] => part.isEmpty
  | c :: s => part.isPrefixOf (c :: s) || occursIn part s

theorem occursIn_iff {part s : List Char} : occursIn part s = true ↔ part <:+: s := by
  induction s with
  | nil => simp [occursIn]
  | cons c s ih => simp [occursIn, ih, List.infix_cons_iff]

/-- What follows `head` in `s`, if `s` starts with it. -/
def after? : (head s : List Char) → Option (List Char)
  | [], s => some s
  | _ :: _, [] => none
  | h :: head, c :: s => if h = c then after? head s else none

theorem after?_eq_some_iff {head s rest : List Char} :
    after? head s = some rest ↔ s = head ++ rest := by
  induction head generalizing s with
  | nil => simp [after?]
  | cons h head ih =>
    cases s with
    | nil => simp [after?]
    | cons c s => by_cases hc : h = c <;> grind [after?]

end ShardBalance.Text
