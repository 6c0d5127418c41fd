import ShardBalance.Json.Basic

/-!
JSON texts cut into tokens. Blanks between tokens are the space, the tab and the ends of lines.
-/

namespace ShardBalance.Json

def isBlank (c : Char) : Bool := c = ' ' || c = '\n' || c = '\t' || c = '\r'

namespace Quoted

/-- The inside of a text up to its closing quotation mark; it holds no control character and only known
escapes. -/
def read? : List Char → Option (List Char × List Char)
  | '"' :: rest => some ([], rest)
  | '\\' :: 'u' :: a :: b :: c :: d :: rest =>
    if [a, b, c, d].all Text.isHex then
      (read? rest).map fun r => ('\\' :: 'u' :: a :: b :: c :: d :: r.1, r.2)
    else none
  | '\\' :: c :: rest =>
    if (letterEscapes.lookup c).isSome then (read? rest).map fun r => ('\\' :: c :: r.1, r.2) else none
  | c :: rest => if c.toNat < 0x20 then none else (read? rest).map fun r => (c :: r.1, r.2)
  | [] => none

theorem length_of_read? {s t rest : List Char} (h : read? s = some (t, rest)) :
    rest.length < s.length := by
  fun_induction read? s generalizing t rest with
  | case1 r => grind
  | case2 a b c d r hex ih =>
    obtain ⟨⟨t', r'⟩, h', he⟩ := Option.map_eq_some_iff.1 h
    have := ih h'
    grind
  | case3 => simp at h
  | case4 c r _ esc ih =>
    obtain ⟨⟨t', r'⟩, h', he⟩ := Option.map_eq_some_iff.1 h
    have := ih h'
    grind
  | case5 => simp at h
  | case6 => simp at h
  | case7 c r _ _ _ ctl ih =>
    obtain ⟨⟨t', r'⟩, h', he⟩ := Option.map_eq_some_iff.1 h
    have := ih h'
    grind
  | case8 => simp at h

end Quoted

namespace Numeral

theorem length_spanDigits (s : List Char) : (spanDigits s).2.length ≤ s.length :=
  (List.dropWhile_sublist _).length_le

theorem length_spanDigits_lt {s : List Char} (h : (spanDigits s).1 ≠ []) :
    (spanDigits s).2.length < s.length := by
  cases s with
  | nil => simp [spanDigits] at h
  | cons c s =>
    have hc : c.isDigit = true := by
      cases hc : c.isDigit <;> simp_all [spanDigits]
    have := (List.dropWhile_sublist (l := s) Char.isDigit).length_le
    simp [spanDigits, hc]
    omega

theorem length_of_readFraction {s t rest : List Char} (h : readFraction s = some (t, rest)) :
    rest.length ≤ s.length := by
  unfold readFraction at h
  split at h
  · rename_i s
    have := length_spanDigits s
    split at h <;> grind
  · grind

theorem length_readSign (s : List Char) : (readSign s).2.length ≤ s.length := by
  unfold readSign
  split <;> simp

theorem length_of_readExponent {s rest : List Char} {e : Option Exponent}
    (h : readExponent s = some (e, rest)) : rest.length ≤ s.length := by
  unfold readExponent at h
  split at h
  · rename_i c s
    split at h
    · have h1 := length_readSign s
      have h2 := length_spanDigits (readSign s).2
      split at h
      grind
    · grind
  · grind

theorem length_of_readUnsigned {neg : Bool} {s rest : List Char} {n : Numeral}
    (h : readUnsigned neg s = some (n, rest)) : rest.length < s.length := by
  unfold readUnsigned at h
  delta guard at h
  simp only [Option.bind_eq_bind, Option.bind_eq_some_iff] at h
  obtain ⟨_, hg, ⟨f, r₁⟩, hf, ⟨e, r₂⟩, he, hr⟩ := h
  have hw : (spanDigits s).1 ≠ [] := by
    intro hw
    simp [hw] at hg
  have h1 := length_spanDigits_lt hw
  have h2 := length_of_readFraction hf
  have h3 := length_of_readExponent he
  dsimp only at h3
  simp only [pure, Option.some.injEq, Prod.mk.injEq] at hr
  obtain ⟨-, rfl⟩ := hr
  omega

theorem length_of_read? {s rest : List Char} {n : Numeral} (h : read? s = some (n, rest)) :
    rest.length < s.length := by
  unfold read? at h
  split at h
  · have := length_of_readUnsigned h
    simp only [List.length_cons]
    omega
  · exact length_of_readUnsigned h

end Numeral

namespace Token

/-- The token at the head of a text that starts with no blank. -/
def read? : List Char → Option (Token × List Char)
  | '[' :: rest => some (openArray, rest)
  | ']' :: rest => some (closeArray, rest)
  | '\x7b' :: rest => some (openObject, rest)
  | '\x7d' :: rest => some (closeObject, rest)
  | ',' :: rest => some (comma, rest)
  | ':' :: rest => some (colon, rest)
  | 'n' :: 'u' :: 'l' :: 'l' :: rest => some (null, rest)
  | 't' :: 'r' :: 'u' :: 'e' :: rest => some (bool true, rest)
  | 'f' :: 'a' :: 'l' :: 's' :: 'e' :: rest => some (bool false, rest)
  | '"' :: rest => (Quoted.read? rest).map fun r => (string ⟨r.1⟩, r.2)
  | s => (Numeral.read? s).map fun r => (number r.1, r.2)

theorem length_of_read? {s rest : List Char} {t : Token} (h : read? s = some (t, rest)) :
    rest.length < s.length := by
  unfold read? at h
  split at h
  case h_10 r =>
    obtain ⟨⟨q, r'⟩, h', he⟩ := Option.map_eq_some_iff.1 h
    have := Quoted.length_of_read? h'
    grind
  case h_11 =>
    obtain ⟨⟨q, r'⟩, h', he⟩ := Option.map_eq_some_iff.1 h
    have := Numeral.length_of_read? h'
    grind
  all_goals grind

end Token

/-- The tokens at the head of a text, and the rest from where no token begins. -/
def scan (s : List Char) : List Token × List Char :=
  match _hs : s.dropWhile isBlank with
  | [] => ([], [])
  | c :: cs =>
    match _ht : Token.read? (c :: cs) with
    | none => ([], c :: cs)
    | some (t, rest) =>
      let (ts, rest) := scan rest
      (t :: ts, rest)
termination_by s.length
decreasing_by
  have h1 := Token.length_of_read? _ht
  have h2 := (List.dropWhile_sublist (l := s) isBlank).length_le
  rw [_hs] at h2
  omega

def lex (s : List Char) : Option (List Token) :=
  match scan s with
  | (ts, []) => some ts
  | _ => none

end ShardBalance.Json
