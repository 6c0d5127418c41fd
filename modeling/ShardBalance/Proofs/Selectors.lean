import Mathlib.Data.List.DropRight
import ShardBalance.Peer.Selector

/-!
How selectors are written. Blanks at the ends of a text do not count, a mark at its head says whether a number or an
address follows, and without a mark a text of digits is a number if there is such a number, and a part of an address
otherwise.
-/

namespace ShardBalance

namespace Text

variable {s t : List Char}

/-- `t` is what is left of `s` without the blanks at its ends. -/
structure Trims (s t : List Char) : Prop where
  between : ∃ before after, s = before ++ t ++ after ∧ (∀ c ∈ before, isBlank c = true) ∧
    ∀ c ∈ after, isBlank c = true
  head : ∀ c ∈ t.head?, isBlank c = false
  last : ∀ c ∈ t.getLast?, isBlank c = false

theorem dropEndWhile_eq (p : Char → Bool) (s : List Char) : dropEndWhile p s = s.rdropWhile p := rfl

theorem getLast?_dropEndWhile {p : Char → Bool} : ∀ c ∈ (dropEndWhile p s).getLast?, p c = false := by
  intro c hc
  obtain ⟨some, rfl⟩ := List.mem_getLast?_eq_getLast hc
  exact Bool.eq_false_iff.2 (List.rdropWhile_last_not p s some)

theorem dropEndWhile_eq_self_iff {p : Char → Bool} : dropEndWhile p s = s ↔ ∀ c ∈ s.getLast?, p c = false := by
  constructor
  · intro same
    rw [← same]
    exact getLast?_dropEndWhile
  · intro last
    refine List.rdropWhile_eq_self_iff.2 fun some => ?_
    simpa using last _ (List.getLast?_eq_getLast_of_ne_nil some)

theorem dropEndWhile_append {p : Char → Bool} (dropped : ∀ c ∈ t, p c = true) :
    dropEndWhile p (s ++ t) = dropEndWhile p s := by
  have dropped : ∀ c ∈ t.reverse, p c = true := fun c hc => dropped c (List.mem_reverse.1 hc)
  rw [dropEndWhile, List.reverse_append, List.dropWhile_append_of_pos dropped]
  rfl

theorem trims_trim (s : List Char) : Trims s (trim s) where
  between := by
    refine ⟨s.takeWhile isBlank, (s.dropWhile isBlank).rtakeWhile isBlank, ?_, ?_, ?_⟩
    · rw [trim, dropEndWhile_eq, List.append_assoc, List.rdropWhile_append_rtakeWhile, List.takeWhile_append_dropWhile]
    · exact fun c hc => List.mem_takeWhile_imp hc
    · exact fun c hc => List.mem_rtakeWhile_imp hc
  head := by
    intro c hc
    obtain ⟨rest, start⟩ : trim s <+: s.dropWhile isBlank := List.rdropWhile_prefix _ _
    have first : c ∈ (s.dropWhile isBlank).head? := by
      rw [← start]
      exact List.mem_head?_append_of_mem_head? hc
    have unblank := List.head?_dropWhile_not isBlank s
    rwa [Option.mem_def.1 first] at unblank
  last := getLast?_dropEndWhile

theorem trims_append (start : Trims s s) (some : s ≠ []) (t : List Char) :
    Trims (s ++ t) (s ++ dropEndWhile isBlank t) where
  between := by
    refine ⟨[], t.rtakeWhile isBlank, ?_, by simp, fun c hc => List.mem_rtakeWhile_imp hc⟩
    rw [dropEndWhile_eq, List.nil_append, List.append_assoc, List.rdropWhile_append_rtakeWhile]
  head := by
    rw [List.head?_append_of_ne_nil _ some]
    exact start.head
  last := by
    by_cases none : dropEndWhile isBlank t = []
    · rw [none, List.append_nil]
      exact start.last
    · rw [List.getLast?_append_of_ne_nil _ none]
      exact getLast?_dropEndWhile

theorem Trims.eq (h : Trims s t) : t = trim s := by
  obtain ⟨before, after, rfl, blank, blank'⟩ := h.between
  have kept : dropEndWhile isBlank t = t := dropEndWhile_eq_self_iff.2 h.last
  rw [trim, List.append_assoc, List.dropWhile_append_of_pos blank]
  cases t with
  | nil => simp [List.dropWhile_eq_nil_iff.2 blank', dropEndWhile]
  | cons c t =>
    have head : isBlank c = false := h.head c rfl
    rw [List.cons_append, List.dropWhile_cons_of_neg (by simp [head]), ← List.cons_append,
      dropEndWhile_append blank', kept]

theorem trims_iff : Trims s t ↔ t = trim s := by
  refine ⟨Trims.eq, ?_⟩
  rintro rfl
  exact trims_trim s

/-- Decimal digits, at least one, that stand for a number below 2⁶⁴. -/
structure Numeral (s : List Char) (n : UInt64) : Prop where
  some : s ≠ []
  digits : ∀ c ∈ s, c.isDigit = true
  value : Nat.ofDigitChars 10 s 0 = n.toNat

theorem word64?_eq_some_iff {n : Nat} {w : UInt64} : word64? n = some w ↔ n = w.toNat := by
  constructor
  · intro h
    unfold word64? at h
    split at h
    next small =>
      cases h
      exact (UInt64.toNat_ofNat_of_lt small).symm
    next => cases h
  · rintro rfl
    exact word64?_toNat w

theorem digits?_word64?_eq_some_iff {w : UInt64} : (digits? s).bind word64? = some w ↔ Numeral s w := by
  rw [Option.bind_eq_some_iff]
  constructor
  · rintro ⟨n, read, small⟩
    unfold digits? at read
    split at read
    next all =>
      cases read
      exact ⟨all.1, List.all_eq_true.1 all.2, word64?_eq_some_iff.1 small⟩
    next => cases read
  · intro h
    refine ⟨w.toNat, ?_, word64?_toNat w⟩
    rw [digits?, if_pos ⟨h.some, List.all_eq_true.2 h.digits⟩, h.value]

/-- A numeral after a plus sign or none. -/
def PlusNumeral (s : List Char) (n : UInt64) : Prop := ∃ digits, (s = digits ∨ s = '+' :: digits) ∧ Numeral digits n

theorem plusDigits?_word64?_eq_some_iff {w : UInt64} : (plusDigits? s).bind word64? = some w ↔ PlusNumeral s w := by
  unfold plusDigits?
  split
  next digits =>
    rw [digits?_word64?_eq_some_iff]
    refine ⟨fun h => ⟨digits, .inr rfl, h⟩, ?_⟩
    rintro ⟨digits', rfl | same, h⟩
    · cases h.digits '+' List.mem_cons_self
    · cases same
      exact h
  next unsigned =>
    rw [digits?_word64?_eq_some_iff]
    refine ⟨fun h => ⟨s, .inl rfl, h⟩, ?_⟩
    rintro ⟨digits, rfl | rfl, h⟩
    · exact h
    · exact absurd rfl (unsigned digits)

theorem numeral_repr (n : UInt64) : Numeral n.toNat.repr.toList n := by
  refine digits?_word64?_eq_some_iff.1 ?_
  rw [digits?_repr]
  exact word64?_toNat n

theorem isBlank_of_isDigit {c : Char} (h : c.isDigit = true) : isBlank c = false := by
  have bounds : 48 ≤ c.toNat ∧ c.toNat ≤ 57 := by
    simpa [Char.isDigit, UInt32.le_iff_toNat_le] using h
  simp only [isBlank, Bool.or_eq_false_iff, Bool.and_eq_false_iff, decide_eq_false_iff_not]
  omega

theorem Numeral.trims {n : UInt64} (h : Numeral s n) : Trims s s where
  between := ⟨[], [], by simp⟩
  head := fun c hc => isBlank_of_isDigit (h.digits c (List.mem_of_mem_head? hc))
  last := fun c hc => isBlank_of_isDigit (h.digits c (List.mem_of_mem_getLast? hc))

theorem Numeral.after?_eq_none {n : UInt64} (h : Numeral s n) {c : Char} {mark : List Char} (other : c.isDigit = false) :
    after? (c :: mark) s = none := by
  cases read : after? (c :: mark) s with
  | none => rfl
  | some rest =>
    rw [after?_eq_some_iff] at read
    have digit := h.digits c (read ▸ List.mem_cons_self)
    rw [other] at digit
    cases digit

end Text

namespace Selector

open Text (Trims Numeral PlusNumeral)

/-- What a text says that has no blanks at its ends. -/
inductive Says : List Char → Except Malformed Selector → Prop
  | marked {rest number : List Char} {n : PeerId} (bare : Trims rest number) (numeral : PlusNumeral number n) :
      Says ("id:".toList ++ rest) (.ok (.id n))
  | malformed {rest number : List Char} (bare : Trims rest number) (none : ∀ n, ¬ PlusNumeral number n) :
      Says ("id:".toList ++ rest) (.error ⟨String.ofList number⟩)
  | address (part : List Char) : Says ("addr:".toList ++ part) (.ok (.address (String.ofList part)))
  | number {t : List Char} {n : PeerId} (numeral : Numeral t n) : Says t (.ok (.id n))
  | unmarked {t : List Char} (noId : ¬ "id:".toList <+: t) (noAddress : ¬ "addr:".toList <+: t)
      (none : ∀ n, ¬ Numeral t n) : Says t (.ok (.address (String.ofList t)))

theorem markedId_of_plusNumeral {s number : List Char} {n : PeerId} (bare : Trims s number)
    (numeral : PlusNumeral number n) : markedId s = .ok (.id n) := by
  simp only [markedId, ← bare.eq, Text.plusDigits?_word64?_eq_some_iff.2 numeral]

theorem markedId_of_not_plusNumeral {s number : List Char} (bare : Trims s number)
    (none : ∀ n, ¬ PlusNumeral number n) : markedId s = .error ⟨String.ofList number⟩ := by
  have unread : (Text.plusDigits? number).bind Text.word64? = .none :=
    Option.eq_none_iff_forall_ne_some.2 fun n read => none n (Text.plusDigits?_word64?_eq_some_iff.1 read)
  simp only [markedId, ← bare.eq, unread]

theorem not_isPrefix_of_after?_eq_none {mark t : List Char} (h : Text.after? mark t = none) : ¬ mark <+: t := by
  rintro ⟨rest, rfl⟩
  cases h.symm.trans (Text.after?_eq_some_iff.2 rfl)

theorem after?_eq_none_of_not_isPrefix {mark t : List Char} (h : ¬ mark <+: t) : Text.after? mark t = none :=
  Option.eq_none_iff_forall_ne_some.2 fun rest found => h ⟨rest, (Text.after?_eq_some_iff.1 found).symm⟩

theorem says_ofChars {s t : List Char} (bare : Trims s t) : Says t (ofChars s) := by
  simp only [ofChars, ← bare.eq]
  split
  next rest marked =>
    cases Text.after?_eq_some_iff.1 marked
    by_cases numeral : ∃ n, PlusNumeral (Text.trim rest) n
    · obtain ⟨n, numeral⟩ := numeral
      rw [markedId_of_plusNumeral (Text.trims_trim rest) numeral]
      exact .marked (Text.trims_trim rest) numeral
    · have none : ∀ n, ¬ PlusNumeral (Text.trim rest) n := not_exists.1 numeral
      rw [markedId_of_not_plusNumeral (Text.trims_trim rest) none]
      exact .malformed (Text.trims_trim rest) none
  next noId =>
    split
    next part marked =>
      cases Text.after?_eq_some_iff.1 marked
      exact .address part
    next noAddress =>
      unfold unmarked
      split
      next n read => exact .number (Text.digits?_word64?_eq_some_iff.1 read)
      next unread =>
        refine .unmarked (not_isPrefix_of_after?_eq_none noId) (not_isPrefix_of_after?_eq_none noAddress) ?_
        intro n numeral
        cases unread.symm.trans (Text.digits?_word64?_eq_some_iff.2 numeral)

theorem ofChars_of_says {s t : List Char} {o : Except Malformed Selector} (bare : Trims s t) (h : Says t o) :
    ofChars s = o := by
  simp only [ofChars, ← bare.eq]
  cases h with
  | @marked rest number n bareNumber numeral =>
    have marked : Text.after? idMark ("id:".toList ++ rest) = some rest := Text.after?_eq_some_iff.2 rfl
    simp only [marked, markedId_of_plusNumeral bareNumber numeral]
  | @malformed rest number bareNumber none =>
    have marked : Text.after? idMark ("id:".toList ++ rest) = some rest := Text.after?_eq_some_iff.2 rfl
    simp only [marked, markedId_of_not_plusNumeral bareNumber none]
  | address part =>
    have noId : Text.after? idMark ("addr:".toList ++ part) = none := rfl
    have marked : Text.after? addressMark ("addr:".toList ++ part) = some part := Text.after?_eq_some_iff.2 rfl
    simp only [noId, marked]
  | number numeral =>
    have noId : Text.after? idMark t = none := numeral.after?_eq_none rfl
    have noAddress : Text.after? addressMark t = none := numeral.after?_eq_none rfl
    simp only [noId, noAddress, unmarked, Text.digits?_word64?_eq_some_iff.2 numeral]
  | unmarked noId noAddress none =>
    have noId : Text.after? idMark t = .none := after?_eq_none_of_not_isPrefix noId
    have noAddress : Text.after? addressMark t = .none := after?_eq_none_of_not_isPrefix noAddress
    have unread : (Text.digits? t).bind Text.word64? = .none :=
      Option.eq_none_iff_forall_ne_some.2 fun n read => none n (Text.digits?_word64?_eq_some_iff.1 read)
    simp only [noId, noAddress, Selector.unmarked, unread]

theorem parse_eq_iff {s : String} {t : List Char} {o : Except Malformed Selector} (bare : Trims s.toList t) :
    parse s = o ↔ Says t o := by
  constructor
  · rintro rfl
    exact says_ofChars bare
  · exact ofChars_of_says bare

theorem parse_text (n : PeerId) : parse (id n).text = .ok (id n) := by
  have numeral := Text.numeral_repr n
  exact (parse_eq_iff numeral.trims).2 (.number numeral)

theorem parse_marked_text (n : PeerId) : parse ("id:" ++ (id n).text) = .ok (id n) := by
  have numeral : Numeral (id n).text.toList n := Text.numeral_repr n
  have start : Trims "id:".toList "id:".toList := Text.trims_iff.2 (by decide)
  have trims := Text.trims_append start (by decide) (id n).text.toList
  rw [Text.dropEndWhile_eq_self_iff.2 numeral.trims.last, ← String.toList_append] at trims
  refine (parse_eq_iff trims).2 ?_
  rw [String.toList_append]
  exact .marked numeral.trims ⟨_, .inl rfl, numeral⟩

theorem parse_address (a : String) :
    parse ("addr:" ++ a) = .ok (address (String.ofList (Text.dropEndWhile Text.isBlank a.toList))) := by
  have start : Trims "addr:".toList "addr:".toList := Text.trims_iff.2 (by decide)
  have trims := Text.trims_append start (by decide) a.toList
  rw [← String.toList_append] at trims
  exact (parse_eq_iff trims).2 (.address _)

/-- Every text without blanks at its ends says one thing, which is what parsing comes to. Numbers are read back with and
without their mark, and marked addresses unless a blank ends them. -/
theorem selectors_read_by_grammar :
    (∀ s : String, ∃ t, (∀ u, Trims s.toList u ↔ u = t) ∧ ∀ o, parse s = o ↔ Says t o) ∧
      (∀ n : PeerId, parse (id n).text = .ok (id n) ∧ parse ("id:" ++ (id n).text) = .ok (id n)) ∧
      ∀ a : String, parse ("addr:" ++ a) = .ok (address a) ↔ ∀ c ∈ a.toList.getLast?, Text.isBlank c = false := by
  refine ⟨fun s => ?_, fun n => ⟨parse_text n, parse_marked_text n⟩, fun a => ?_⟩
  · exact ⟨Text.trim s.toList, fun u => Text.trims_iff, fun o => parse_eq_iff (Text.trims_trim _)⟩
  · rw [parse_address, ← Text.dropEndWhile_eq_self_iff, Except.ok.injEq, address.injEq]
    constructor
    · intro same
      simpa using congrArg String.toList same
    · intro same
      rw [same, String.ofList_toList]

end Selector
end ShardBalance
