import Mathlib.Data.List.Basic
import ShardBalance.Url.Path

/-!
Percent-encoding read back. Where the percent sign itself is encoded, every text comes back from what it is encoded to, and
no other encoded character but the percent sign and the hexadecimal digits is left.
-/

namespace ShardBalance.Url.Percent

variable {p : Char → Bool} {s t : List Char}

theorem hexValue?_hexDigit : ∀ n < 16, Text.hexValue? (hexDigit n) = some n := by decide

theorem hexNumber?_hexDigits (b : UInt8) :
    Text.hexNumber? [hexDigit (b.toNat / 16), hexDigit (b.toNat % 16)] = some b.toNat := by
  have small : b.toNat < 256 := b.toNat_lt
  have high := hexValue?_hexDigit (b.toNat / 16) (by omega)
  have low := hexValue?_hexDigit (b.toNat % 16) (by omega)
  simp only [Text.hexNumber?, List.foldlM_cons, List.foldlM_nil, high, low, Option.map_some, Option.bind_eq_bind,
    Option.bind_some, Option.pure_def, Option.some.injEq]
  omega

theorem decodeBytes_encodeByte (b : UInt8) (rest : List Char) :
    decodeBytes (encodeByte b ++ rest) = b :: decodeBytes rest := by
  simp [encodeByte, decodeBytes, hexNumber?_hexDigits]

theorem decodeBytes_encodeBytes (l : List UInt8) (rest : List Char) :
    decodeBytes (l.flatMap encodeByte ++ rest) = l ++ decodeBytes rest := by
  induction l with
  | nil => rfl
  | cons b l ih => rw [List.flatMap_cons, List.append_assoc, decodeBytes_encodeByte, ih, List.cons_append]

theorem decodeBytes_cons {c : Char} (other : c ≠ '%') (rest : List Char) :
    decodeBytes (c :: rest) = String.utf8EncodeChar c ++ decodeBytes rest := by
  rw [decodeBytes]
  intro a b rest' same
  exact absurd same other

theorem decodeBytes_encode (percent : p '%' = true) (s : List Char) :
    decodeBytes (encode p s) = s.flatMap String.utf8EncodeChar := by
  induction s with
  | nil => rfl
  | cons c s ih =>
    have split : encode p (c :: s) = encodeChar p c ++ encode p s := rfl
    rw [split, List.flatMap_cons, ← ih, encodeChar]
    cases encoded : p c with
    | true => exact decodeBytes_encodeBytes _ _
    | false =>
      refine decodeBytes_cons ?_ _
      rintro rfl
      cases percent.symm.trans encoded

theorem decode?_of_decodeBytes (h : decodeBytes s = t.flatMap String.utf8EncodeChar) : decode? s = some t := by
  have valid : (t.utf8Encode).IsValidUTF8 := ByteArray.isValidUTF8_utf8Encode
  have read : String.fromUTF8? t.utf8Encode = some (String.ofList t) := dif_pos valid
  rw [decode?, h]
  exact (congrArg (Option.map String.toList) read).trans (congrArg some String.toList_ofList)

theorem decode?_encode (percent : p '%' = true) (s : List Char) : decode? (encode p s) = some s :=
  decode?_of_decodeBytes (decodeBytes_encode percent s)

theorem not_mem_encode {c : Char} (encoded : p c = true) (percent : c ≠ '%') (digit : ∀ n < 16, hexDigit n ≠ c) :
    c ∉ encode p s := by
  intro found
  obtain ⟨d, -, found⟩ := List.mem_flatMap.1 found
  unfold encodeChar at found
  split at found
  next =>
    obtain ⟨b, -, found⟩ := List.mem_flatMap.1 found
    have small : b.toNat < 256 := b.toNat_lt
    simp only [encodeByte, List.mem_cons, List.not_mem_nil, or_false] at found
    rcases found with same | same | same
    · exact percent same
    · exact digit (b.toNat / 16) (by omega) same.symm
    · exact digit (b.toNat % 16) (by omega) same.symm
  next plain =>
    cases List.mem_singleton.1 found
    exact plain encoded

end ShardBalance.Url.Percent
