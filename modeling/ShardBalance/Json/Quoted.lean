import ShardBalance.Text.Hex

/-!
The inside of a quoted JSON text, escapes included. Every text has such a form (`text?_ofText`); the
converse fails, since an escape may name half of a surrogate pair.
-/

namespace ShardBalance.Json

/-- What stands between the quotation marks. -/
structure Quoted where
  chars : List Char
  deriving DecidableEq, Repr

namespace Quoted

/-- The characters that a letter after a backslash stands for. -/
def letterEscapes : List (Char × Char) :=
  [('"', '"'), ('\\', '\\'), ('/', '/'), ('b', '\x08'), ('f', '\x0c'), ('n', '\n'), ('r', '\r'), ('t', '\t')]

def isHigh (n : Nat) : Bool := 0xd800 ≤ n && n < 0xdc00

def isLow (n : Nat) : Bool := 0xdc00 ≤ n && n < 0xe000

/-- The character outside the basic plane that a surrogate pair stands for. -/
def pair (high low : Nat) : Char := Char.ofNat (0x10000 + (high - 0xd800) * 0x400 + (low - 0xdc00))

def escapeChar (c : Char) : List Char :=
  if c = '"' then ['\\', '"']
  else if c = '\\' then ['\\', '\\']
  else if c = '\n' then ['\\', 'n']
  else if c = '\r' then ['\\', 'r']
  else if c = '\t' then ['\\', 't']
  else if c = '\x08' then ['\\', 'b']
  else if c = '\x0c' then ['\\', 'f']
  else if c.toNat < 0x20 then
    ['\\', 'u', '0', '0', (c.toNat / 16).digitChar, (c.toNat % 16).digitChar]
  else [c]

def escape (s : List Char) : List Char := s.flatMap escapeChar

/-- The text that escaped characters stand for, unless one of them names half of a surrogate pair alone. -/
def unescape : List Char → Option (List Char)
  | [] => some []
  | '\\' :: 'u' :: a :: b :: c :: d :: rest =>
    match Text.hexNumber? [a, b, c, d] with
    | none => none
    | some n =>
      if isHigh n then
        match rest with
        | '\\' :: 'u' :: e :: f :: g :: h :: rest =>
          match Text.hexNumber? [e, f, g, h] with
          | some m => if isLow m then (unescape rest).map (pair n m :: ·) else none
          | none => none
        | _ => none
      else if isLow n then none
      else (unescape rest).map (Char.ofNat n :: ·)
  | '\\' :: c :: rest =>
    match letterEscapes.lookup c with
    | some d => (unescape rest).map (d :: ·)
    | none => none
  | '\\' :: [] => none
  | c :: rest => (unescape rest).map (c :: ·)

theorem unescape_escapeChar (c : Char) (rest : List Char) :
    unescape (escapeChar c ++ rest) = (unescape rest).map (c :: ·) := by
  unfold escapeChar
  repeat' split
  all_goals first
    | (subst_vars; rfl)
    | skip
  · rename_i h
    have key : ∀ n < 32, unescape ('\\' :: 'u' :: '0' :: '0' :: (n / 16).digitChar :: (n % 16).digitChar :: rest) =
        (unescape rest).map (Char.ofNat n :: ·) := by
      intro n hn
      have hv : Text.hexNumber? ['0', '0', (n / 16).digitChar, (n % 16).digitChar] = some n := by
        have : ∀ m < 32, Text.hexNumber? ['0', '0', (m / 16).digitChar, (m % 16).digitChar] = some m := by
          decide
        exact this n hn
      have h1 : isHigh n = false := by simp [isHigh]; omega
      have h2 : isLow n = false := by simp [isLow]; omega
      rw [unescape, hv]
      simp [h1, h2]
    simpa [Char.ofNat_toNat] using key c.toNat h
  · simp only [List.cons_append, List.nil_append]
    rw [unescape]
    all_goals simp_all

theorem unescape_escape (s : List Char) : unescape (escape s) = some s := by
  induction s with
  | nil => rfl
  | cons c s ih => simp only [escape, List.flatMap_cons] at ih ⊢; rw [unescape_escapeChar, ih]; rfl

def ofText (s : String) : Quoted := ⟨escape s.toList⟩

def text? (q : Quoted) : Option String := (unescape q.chars).map String.ofList

@[simp] theorem text?_ofText (s : String) : (ofText s).text? = some s := by
  simp [ofText, text?, unescape_escape]

end Quoted
end ShardBalance.Json
