import Mathlib.Data.List.TakeWhile
import Mathlib.Data.Option.Basic
import ShardBalance.Json.Decode
import ShardBalance.Json.Lexer

/-!
Tokens that are cut out of a text as they were written into it, whatever follows them. Only after a number something
may follow that would go on with it.
-/

namespace ShardBalance.Json

theorem isDigit_toDigits (n : Nat) : ∀ c ∈ Nat.toDigits 10 n, c.isDigit = true := fun _ hc =>
  Nat.isDigit_of_mem_toDigits (by omega) (by omega) hc

theorem ne_of_isDigit {c d : Char} (hc : c.isDigit = true) (hd : d.isDigit = false) : c ≠ d := by
  rintro rfl
  simp [hc] at hd

namespace Quoted

/-- What may stand between quotation marks: it is read up to the second of them. -/
def Closed (q : Quoted) : Prop := ∀ rest, read? (q.chars ++ '"' :: rest) = some (q.chars, rest)

theorem read?_cons {c : Char} (quote : c ≠ '"') (backslash : c ≠ '\\') (control : ¬ c.toNat < 0x20) (s : List Char) :
    read? (c :: s) = (read? s).map fun r => (c :: r.1, r.2) := by
  rw [read?, if_neg control]
  all_goals simp_all

theorem read?_escapeChar (c : Char) (s : List Char) :
    read? (escapeChar c ++ s) = (read? s).map fun r => (escapeChar c ++ r.1, r.2) := by
  unfold escapeChar
  repeat' split
  all_goals try rfl
  · next control =>
    -- each of the 32 control characters has hexadecimal digits
    have hex : ∀ n < 32, ['0', '0', (n / 16).digitChar, (n % 16).digitChar].all Text.isHex = true := by decide
    simp only [List.cons_append, List.nil_append]
    rw [read?, if_pos (hex c.toNat control)]
  · next quote backslash _ _ _ _ _ control => exact read?_cons quote backslash control s

theorem closed_ofText (s : String) : (ofText s).Closed := by
  intro rest
  unfold ofText
  induction s.toList with
  | nil => rfl
  | cons c l ih =>
    simp only [escape, List.flatMap_cons, List.append_assoc] at ih ⊢
    rw [read?_escapeChar, ih]
    rfl

theorem closed_ofWord64 (w : UInt64) : (ofWord64 w).Closed := by
  have digits := isDigit_toDigits w.toNat
  intro rest
  unfold ofWord64
  generalize Nat.toDigits 10 w.toNat = l at digits
  induction l with
  | nil => rfl
  | cons c l ih =>
    obtain ⟨digit, digits⟩ := List.forall_mem_cons.1 digits
    have control : ¬ c.toNat < 0x20 := by
      simp [Char.isDigit, UInt32.le_iff_toNat_le] at digit
      omega
    rw [List.cons_append, read?_cons (ne_of_isDigit digit rfl) (ne_of_isDigit digit rfl) control, ih digits]
    rfl

end Quoted

namespace Numeral

/-- No number goes on here. -/
def Ends (rest : List Char) : Prop := ∀ c ∈ rest.head?, c.isDigit = false ∧ c ≠ '.' ∧ c ≠ 'e' ∧ c ≠ 'E'

theorem ends_nil : Ends [] := by simp [Ends]

/-- The digits are digits, and there are some where there have to be. -/
structure WellFormed (n : Numeral) : Prop where
  whole_ne_nil : n.whole ≠ []
  whole : ∀ c ∈ n.whole, c.isDigit = true
  leading : n.whole.head? = some '0' → n.whole = ['0']
  fraction : ∀ c ∈ n.fraction, c.isDigit = true
  exponent_ne_nil : ∀ e ∈ n.exponent, e.digits ≠ []
  exponent : ∀ e ∈ n.exponent, ∀ c ∈ e.digits, c.isDigit = true

theorem spanDigits_append {l s : List Char} (digits : ∀ c ∈ l, c.isDigit = true)
    (ends : ∀ c ∈ s.head?, c.isDigit = false) : spanDigits (l ++ s) = (l, s) := by
  have none : s.takeWhile Char.isDigit = [] ∧ s.dropWhile Char.isDigit = s := by
    cases s with
    | nil => simp
    | cons c s => simp_all
  rw [spanDigits, List.takeWhile_append_of_pos digits, List.dropWhile_append_of_pos digits, none.1, none.2,
    List.append_nil]

theorem eq_zero_of_head?_toDigits {n : Nat} (h : (Nat.toDigits 10 n).head? = some '0') : n = 0 := by
  induction n using Nat.strongRecOn with
  | ind n ih =>
    rw [Nat.toDigits_eq_if (by omega)] at h
    split at h
    next small =>
      have zero : ∀ m < 10, m.digitChar = '0' → m = 0 := by decide
      exact zero n small (by simpa using h)
    next large =>
      obtain ⟨c, l, digits⟩ := List.exists_cons_of_ne_nil (Nat.toDigits_ne_nil (n := n / 10) (b := 10))
      have zero := ih (n / 10) (by omega) (by simpa [digits] using h)
      omega

theorem wellFormed_ofNat (n : Nat) : (ofNat n).WellFormed where
  whole_ne_nil := Nat.toDigits_ne_nil
  whole := isDigit_toDigits n
  leading h := by rw [eq_zero_of_head?_toDigits h]; rfl
  fraction := by simp [ofNat]
  exponent_ne_nil := by simp [ofNat]
  exponent := by simp [ofNat]

def fractionChars (l : List Char) : List Char := if l.isEmpty then [] else '.' :: l

def exponentChars : Option Exponent → List Char
  | none => []
  | some e => 'e' :: (if e.negative then ['-'] else []) ++ e.digits

theorem chars_eq (n : Numeral) : n.chars =
    (if n.negative then ['-'] else []) ++ n.whole ++ fractionChars n.fraction ++ exponentChars n.exponent := rfl

theorem readFraction_append {l s : List Char} (digits : ∀ c ∈ l, c.isDigit = true)
    (ends : ∀ c ∈ s.head?, c.isDigit = false ∧ c ≠ '.') : readFraction (fractionChars l ++ s) = some (l, s) := by
  cases l with
  | nil =>
    cases s with
    | nil => rfl
    | cons c s => simp_all [fractionChars, readFraction]
  | cons c l =>
    have span := spanDigits_append digits fun d hd => (ends d hd).1
    rw [List.cons_append] at span
    simp [fractionChars, readFraction, span]

theorem readSign_append {l : List Char} (negative : Bool) (digits : ∀ c ∈ l, c.isDigit = true) (nonempty : l ≠ [])
    (s : List Char) : readSign ((if negative then ['-'] else []) ++ l ++ s) = (negative, l ++ s) := by
  cases negative with
  | true => rfl
  | false =>
    obtain ⟨c, l, rfl⟩ := List.exists_cons_of_ne_nil nonempty
    have digit := digits c List.mem_cons_self
    have minus : c ≠ '-' := ne_of_isDigit digit rfl
    have plus : c ≠ '+' := ne_of_isDigit digit rfl
    simp [readSign, minus, plus]

variable {n : Numeral} {s : List Char}

theorem readExponent_append (h : n.WellFormed) (ends : Ends s) :
    readExponent (exponentChars n.exponent ++ s) = some (n.exponent, s) := by
  cases he : n.exponent with
  | none =>
    cases s with
    | nil => rfl
    | cons c s =>
      obtain ⟨-, -, small, large⟩ := ends c rfl
      simp [exponentChars, readExponent, small, large]
  | some e =>
    have digits := h.exponent e he
    have nonempty := h.exponent_ne_nil e he
    obtain ⟨negative, _ | ⟨c, l⟩⟩ := e
    · exact absurd rfl nonempty
    · have sign := readSign_append negative digits nonempty s
      have span := spanDigits_append digits fun c hc => (ends c hc).1
      rw [List.cons_append] at span
      simp only [exponentChars, readExponent, List.cons_append, true_or, ↓reduceIte, sign, span]

theorem readUnsigned_append (h : n.WellFormed) (ends : Ends s) :
    readUnsigned n.negative (n.whole ++ (fractionChars n.fraction ++ (exponentChars n.exponent ++ s))) =
      some (n, s) := by
  have after : ∀ c ∈ (exponentChars n.exponent ++ s).head?, c.isDigit = false ∧ c ≠ '.' := by
    cases n.exponent with
    | none => exact fun c hc => ⟨(ends c hc).1, (ends c hc).2.1⟩
    | some e => simp [exponentChars]
  have before : ∀ c ∈ (fractionChars n.fraction ++ (exponentChars n.exponent ++ s)).head?, c.isDigit = false := by
    cases n.fraction with
    | nil => exact fun c hc => (after c hc).1
    | cons d l => simp [fractionChars]
  have accepted : (guard (n.whole ≠ [] ∧ (n.whole.head? = some '0' → n.whole = ['0'])) : Option Unit) = some () :=
    if_pos ⟨h.whole_ne_nil, h.leading⟩
  simp only [readUnsigned, spanDigits_append h.whole before, accepted, readFraction_append h.fraction after,
    readExponent_append h ends, Option.bind_eq_bind, Option.bind_some, Option.pure_def]

theorem read?_append (h : n.WellFormed) (ends : Ends s) : read? (n.chars ++ s) = some (n, s) := by
  have unsigned := readUnsigned_append h ends
  rw [chars_eq, List.append_assoc, List.append_assoc, List.append_assoc]
  cases sign : n.negative with
  | true => simpa [read?, sign] using unsigned
  | false =>
    obtain ⟨c, l, cons⟩ := List.exists_cons_of_ne_nil h.whole_ne_nil
    have minus : c ≠ '-' := ne_of_isDigit (h.whole c (by simp [cons])) rfl
    rw [sign, cons] at unsigned
    simpa [read?, cons, minus] using unsigned

end Numeral

namespace Token

def WellFormed : Token → Prop
  | number n => n.WellFormed
  | string q => q.Closed
  | _ => True

/-- Where `s` follows, a token comes to its end. -/
def EndsBefore (s : List Char) : Token → Prop
  | number _ => Numeral.Ends s
  | _ => True

theorem read?_number {c : Char} (h : c = '-' ∨ c.isDigit = true) (s : List Char) :
    read? (c :: s) = (Numeral.read? (c :: s)).map fun r => (number r.1, r.2) := by
  rw [read?.eq_def]
  split <;> simp_all

theorem exists_chars_eq_cons {n : Numeral} (h : n.WellFormed) :
    ∃ c s, n.chars = c :: s ∧ (c = '-' ∨ c.isDigit = true) := by
  obtain ⟨c, l, whole⟩ := List.exists_cons_of_ne_nil h.whole_ne_nil
  have digit := h.whole c (by simp [whole])
  cases sign : n.negative with
  | true => simp [Numeral.chars_eq, sign]
  | false => simp [Numeral.chars_eq, sign, whole, digit]

variable {t : Token} {s : List Char}

theorem read?_append (h : t.WellFormed) (ends : t.EndsBefore s) : read? (t.chars ++ s) = some (t, s) := by
  cases t with
  | number n =>
    obtain ⟨c, l, cons, first⟩ := exists_chars_eq_cons h
    have number := Numeral.read?_append h ends
    simp only [chars, cons, List.cons_append] at number ⊢
    rw [read?_number first, number]
    rfl
  | string q =>
    have closed := h s
    simp [chars, read?, closed]
  | bool b => cases b <;> simp [chars, read?]
  | _ => simp [chars, read?]

theorem exists_chars (h : t.WellFormed) : ∃ c s, t.chars = c :: s ∧ isBlank c = false := by
  cases t with
  | number n =>
    obtain ⟨c, s, cons, first⟩ := exists_chars_eq_cons h
    refine ⟨c, s, cons, ?_⟩
    rcases first with rfl | digit
    · rfl
    · simp [isBlank, ne_of_isDigit digit]
  | bool b => cases b <;> simp [chars, isBlank]
  | _ => simp [chars, isBlank]

end Token

theorem scan_nil : scan [] = ([], []) := by
  rw [scan]
  rfl

theorem scan_append {t : Token} {s : List Char} (h : t.WellFormed) (ends : t.EndsBefore s) :
    scan (t.chars ++ s) = (t :: (scan s).1, (scan s).2) := by
  obtain ⟨c, l, cons, blank⟩ := Token.exists_chars h
  have dropped : (t.chars ++ s).dropWhile isBlank = c :: (l ++ s) := by simp [cons, blank]
  have found : Token.read? (c :: (l ++ s)) = some (t, s) := by
    rw [← Token.read?_append h ends, cons, List.cons_append]
  rw [scan]
  split
  next none =>
    rw [dropped] at none
    cases none
  next d m some =>
    obtain ⟨rfl, rfl⟩ := List.cons.inj (some.symm.trans dropped)
    split
    next none =>
      rw [found] at none
      cases none
    next u rest some =>
      rw [found] at some
      cases some
      rfl

end ShardBalance.Json
