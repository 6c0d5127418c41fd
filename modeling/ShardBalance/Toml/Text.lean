import ShardBalance.Text.Hex
import ShardBalance.Toml.Basic

/-!
Texts in TOML: between quotation marks with escapes or between apostrophes without, on one line or between
three of either on several.
-/

namespace ShardBalance.Toml

def letterEscapes : List (Char × Char) :=
  [('b', '\x08'), ('t', '\t'), ('n', '\n'), ('f', '\x0c'), ('r', '\r'), ('"', '"'), ('\\', '\\')]

def scalar? (digits : List Char) : Option Char := do
  let n ← Text.hexNumber? digits
  if n.isValidChar then some (Char.ofNat n) else none

/-- The character that an escape stands for, after the backslash. -/
def escape? : Reader Char
  | 'u' :: a :: b :: c :: d :: s => (scalar? [a, b, c, d]).map (·, s)
  | 'U' :: a :: b :: c :: d :: e :: f :: g :: h :: s => (scalar? [a, b, c, d, e, f, g, h]).map (·, s)
  | c :: s => (letterEscapes.lookup c).map (·, s)
  | [] => none

theorem length_of_escape? {s rest : List Char} {c : Char} (h : escape? s = some (c, rest)) :
    rest.length < s.length := by
  unfold escape? at h
  split at h
  case h_4 => simp at h
  all_goals
    simp only [Option.map_eq_some_iff, Prod.mk.injEq] at h
    obtain ⟨-, -, -, rfl⟩ := h
    simp only [List.length_cons]
    omega

def basicText : Reader (List Char)
  | '"' :: s => some ([], s)
  | '\\' :: s =>
    match _h : escape? s with
    | some (c, rest) => (basicText rest).map fun r => (c :: r.1, r.2)
    | none => none
  | c :: s => if isPlain c then (basicText s).map fun r => (c :: r.1, r.2) else none
  | [] => none
termination_by s => s.length
decreasing_by
  · have := length_of_escape? _h
    simp only [List.length_cons]
    omega
  · simp

def literalText : Reader (List Char)
  | '\'' :: s => some ([], s)
  | c :: s => if isPlain c then (literalText s).map fun r => (c :: r.1, r.2) else none
  | [] => none

/-- Three marks close a text, and up to two more before them belong to it. -/
def closing? (mark : Char) (s : List Char) : Option (List Char × List Char) :=
  let run := min 5 (s.takeWhile (· == mark)).length
  if run < 3 then none else some (List.replicate (run - 3) mark, s.drop run)

/-- The blanks and line breaks that a backslash at the end of a line takes away. -/
def joinLines? (s : List Char) : Option (List Char) :=
  match skipBlank s with
  | '\n' :: _ => some (s.dropWhile fun c => isBlank c || c = '\n')
  | _ => none

theorem length_of_joinLines? {s rest : List Char} (h : joinLines? s = some rest) :
    rest.length ≤ s.length := by
  unfold joinLines? at h
  split at h
  · cases h
    exact (List.dropWhile_sublist _).length_le
  · simp at h

/-- After the three opening quotation marks and a line break that follows them. -/
def basicLines (s : List Char) : Option (List Char × List Char) :=
  match closing? '"' s with
  | some found => some found
  | none =>
    match s with
    | '\\' :: s =>
      match _h : joinLines? s with
      | some rest => basicLines rest
      | none =>
        match _e : escape? s with
        | some (c, rest) => (basicLines rest).map fun r => (c :: r.1, r.2)
        | none => none
    | c :: s =>
      if isPlain c || c = '\n' then (basicLines s).map fun r => (c :: r.1, r.2) else none
    | [] => none
termination_by s.length
decreasing_by
  · have := length_of_joinLines? _h
    simp only [List.length_cons]
    omega
  · have := length_of_escape? _e
    simp only [List.length_cons]
    omega
  · simp

/-- After the three opening apostrophes and a line break that follows them. -/
def literalLines (s : List Char) : Option (List Char × List Char) :=
  match closing? '\'' s with
  | some found => some found
  | none =>
    match s with
    | c :: s =>
      if isPlain c || c = '\n' then (literalLines s).map fun r => (c :: r.1, r.2) else none
    | [] => none

def dropLineBreak : List Char → List Char
  | '\n' :: s => s
  | s => s

def text? : Reader (List Char)
  | '"' :: '"' :: '"' :: s => basicLines (dropLineBreak s)
  | '"' :: s => basicText s
  | '\'' :: '\'' :: '\'' :: s => literalLines (dropLineBreak s)
  | '\'' :: s => literalText s
  | _ => none

end ShardBalance.Toml
