import ShardBalance.Json.Parser
import ShardBalance.Json.Printer
import ShardBalance.Proofs.Json.Lexing

/-!
JSON trees that are written and read. A tree whose texts and numbers are read as they are written is itself read as it
is written.
-/

namespace ShardBalance.Json

/-- A tree made up of texts and numbers that can be read. -/
inductive WellFormed : Json → Prop where
  | null : WellFormed null
  | bool (b : Bool) : WellFormed (bool b)
  | number {n : Numeral} (h : n.WellFormed) : WellFormed (number n)
  | string {q : Quoted} (h : q.Closed) : WellFormed (string q)
  | array {items : List Json} (h : ∀ v ∈ items, WellFormed v) : WellFormed (array items)
  | object {members : List (Quoted × Json)} (names : ∀ m ∈ members, m.1.Closed)
      (values : ∀ m ∈ members, WellFormed m.2) : WellFormed (object members)

/-- A text starts with the given tokens and goes on with `rest`. -/
def Starts (s : List Char) (ts : List Token) (rest : List Char) : Prop := scan s = (ts ++ (scan rest).1, (scan rest).2)

namespace Starts

variable {s m rest : List Char} {ts us : List Token} {t : Token}

theorem token (h : t.WellFormed) (ends : t.EndsBefore rest) : Starts (t.chars ++ rest) [t] rest := scan_append h ends

theorem append (first : Starts s ts m) (second : Starts m us rest) : Starts s (ts ++ us) rest := by
  rw [Starts] at first second
  simp [Starts, first, second]

theorem cons (h : t.WellFormed) (ends : t.EndsBefore m) (more : Starts m ts rest) :
    Starts (t.chars ++ m) (t :: ts) rest :=
  (token h ends).append more

end Starts

/-- A tree whose tokens are cut out of every text that starts with them and does not go on with a number. -/
def Scans (v : Json) : Prop :=
  ∀ rest, Numeral.Ends rest → Starts (v.tokens.flatMap Token.chars ++ rest) v.tokens rest

theorem ends_moreItemTokens (l : List Json) (rest : List Char) :
    Numeral.Ends ((moreItemTokens l).flatMap Token.chars ++ rest) := by
  cases l <;> simp [moreItemTokens, Token.chars, Numeral.Ends, Char.isDigit]

theorem ends_moreMemberTokens (l : List (Quoted × Json)) (rest : List Char) :
    Numeral.Ends ((moreMemberTokens l).flatMap Token.chars ++ rest) := by
  cases l <;> simp [moreMemberTokens, Token.chars, Numeral.Ends, Char.isDigit]

theorem starts_moreItemTokens {l : List Json} (each : ∀ v ∈ l, v.Scans) (rest : List Char) :
    Starts ((moreItemTokens l).flatMap Token.chars ++ rest) (moreItemTokens l) rest := by
  induction l with
  | nil => exact .token (t := .closeArray) trivial trivial
  | cons v l ih =>
    obtain ⟨first, others⟩ := List.forall_mem_cons.1 each
    simp only [moreItemTokens, List.flatMap_cons, List.flatMap_append, List.append_assoc, List.cons_append]
    exact .cons trivial trivial ((first _ (ends_moreItemTokens l rest)).append (ih others))

theorem starts_itemTokens {l : List Json} (each : ∀ v ∈ l, v.Scans) (rest : List Char) :
    Starts ((itemTokens l).flatMap Token.chars ++ rest) (itemTokens l) rest := by
  cases l with
  | nil => exact .token (t := .closeArray) trivial trivial
  | cons v l =>
    obtain ⟨first, others⟩ := List.forall_mem_cons.1 each
    simp only [itemTokens, List.flatMap_append, List.append_assoc]
    exact (first _ (ends_moreItemTokens l rest)).append (starts_moreItemTokens others rest)

theorem starts_moreMemberTokens {l : List (Quoted × Json)} (names : ∀ m ∈ l, m.1.Closed) (each : ∀ m ∈ l, m.2.Scans)
    (rest : List Char) : Starts ((moreMemberTokens l).flatMap Token.chars ++ rest) (moreMemberTokens l) rest := by
  induction l with
  | nil => exact .token (t := .closeObject) trivial trivial
  | cons m l ih =>
    obtain ⟨name, names⟩ := List.forall_mem_cons.1 names
    obtain ⟨first, others⟩ := List.forall_mem_cons.1 each
    simp only [moreMemberTokens, List.flatMap_cons, List.flatMap_append, List.append_assoc, List.cons_append]
    exact .cons trivial trivial (.cons name trivial (.cons trivial trivial
      ((first _ (ends_moreMemberTokens l rest)).append (ih names others))))

theorem starts_memberTokens {l : List (Quoted × Json)} (names : ∀ m ∈ l, m.1.Closed) (each : ∀ m ∈ l, m.2.Scans)
    (rest : List Char) : Starts ((memberTokens l).flatMap Token.chars ++ rest) (memberTokens l) rest := by
  cases l with
  | nil => exact .token (t := .closeObject) trivial trivial
  | cons m l =>
    obtain ⟨name, names⟩ := List.forall_mem_cons.1 names
    obtain ⟨first, others⟩ := List.forall_mem_cons.1 each
    simp only [memberTokens, List.flatMap_cons, List.flatMap_append, List.append_assoc, List.cons_append]
    exact .cons name trivial (.cons trivial trivial
      ((first _ (ends_moreMemberTokens l rest)).append (starts_moreMemberTokens names others rest)))

theorem scans_of_singleton {v : Json} {t : Token} (only : v.tokens = [t]) (h : t.WellFormed)
    (ends : ∀ rest, Numeral.Ends rest → t.EndsBefore rest) : v.Scans := by
  intro rest after
  simp only [only, List.flatMap_singleton]
  exact .token h (ends rest after)

theorem WellFormed.scans {v : Json} (h : v.WellFormed) : v.Scans := by
  induction h with
  | null => exact scans_of_singleton rfl trivial fun _ _ => trivial
  | bool b => exact scans_of_singleton rfl trivial fun _ _ => trivial
  | number h => exact scans_of_singleton rfl h fun _ after => after
  | string h => exact scans_of_singleton rfl h fun _ _ => trivial
  | array h ih =>
    intro rest _
    simp only [tokens, List.flatMap_cons, List.append_assoc]
    exact .cons trivial trivial (starts_itemTokens ih rest)
  | object names values ih =>
    intro rest _
    simp only [tokens, List.flatMap_cons, List.append_assoc]
    exact .cons trivial trivial (starts_memberTokens names ih rest)

theorem lex_render {v : Json} (h : v.WellFormed) : lex v.render.toList = some v.tokens := by
  have scanned := h.scans [] Numeral.ends_nil
  rw [Starts, scan_nil, List.append_nil, List.append_nil] at scanned
  simp [lex, render, scanned]

open Progress

/-- A tree that is put together from its tokens, wherever it stands. -/
def Builds (v : Json) : Prop :=
  ∀ stack ts, (v.tokens ++ ts).foldlM step (value stack) = ts.foldlM step (plug v stack)

theorem foldlM_cons {p q : Progress} {t : Token} {ts : List Token} (h : p.step t = some q) :
    (t :: ts).foldlM step p = ts.foldlM step q := by
  rw [List.foldlM_cons, h]
  rfl

theorem foldlM_firstItem (v : Json) (stack : List Frame) (ts : List Token) :
    (v.tokens ++ ts).foldlM step (firstItem stack) = (v.tokens ++ ts).foldlM step (value (.items [] :: stack)) := by
  -- only a closing bracket is read differently here, and no value starts with one
  cases v <;> rfl

theorem foldlM_moreItemTokens {l : List Json} (each : ∀ v ∈ l, v.Builds) (before : List Json) (stack : List Frame)
    (ts : List Token) : (moreItemTokens l ++ ts).foldlM step (afterItem before stack) =
      ts.foldlM step (plug (.array (before.reverse ++ l)) stack) := by
  induction l generalizing before with
  | nil => simp [moreItemTokens, step]
  | cons v l ih =>
    obtain ⟨first, others⟩ := List.forall_mem_cons.1 each
    simp only [moreItemTokens, List.cons_append, List.append_assoc]
    rw [foldlM_cons rfl, first, plug, ih others]
    simp

theorem foldlM_itemTokens {l : List Json} (each : ∀ v ∈ l, v.Builds) (stack : List Frame) (ts : List Token) :
    (itemTokens l ++ ts).foldlM step (firstItem stack) = ts.foldlM step (plug (.array l) stack) := by
  cases l with
  | nil => rfl
  | cons v l =>
    obtain ⟨first, others⟩ := List.forall_mem_cons.1 each
    rw [itemTokens, List.append_assoc, foldlM_firstItem, first, plug, foldlM_moreItemTokens others]
    rfl

theorem foldlM_moreMemberTokens {l : List (Quoted × Json)} (each : ∀ m ∈ l, m.2.Builds)
    (before : List (Quoted × Json)) (stack : List Frame) (ts : List Token) :
    (moreMemberTokens l ++ ts).foldlM step (afterMember before stack) =
      ts.foldlM step (plug (.object (before.reverse ++ l)) stack) := by
  induction l generalizing before with
  | nil => simp [moreMemberTokens, step]
  | cons m l ih =>
    obtain ⟨first, others⟩ := List.forall_mem_cons.1 each
    simp only [moreMemberTokens, List.cons_append, List.append_assoc]
    rw [foldlM_cons rfl, foldlM_cons rfl, foldlM_cons rfl, first, plug, ih others]
    simp

theorem foldlM_memberTokens {l : List (Quoted × Json)} (each : ∀ m ∈ l, m.2.Builds) (stack : List Frame)
    (ts : List Token) :
    (memberTokens l ++ ts).foldlM step (firstName stack) = ts.foldlM step (plug (.object l) stack) := by
  cases l with
  | nil => rfl
  | cons m l =>
    obtain ⟨first, others⟩ := List.forall_mem_cons.1 each
    simp only [memberTokens, List.cons_append, List.append_assoc]
    rw [foldlM_cons rfl, foldlM_cons rfl, first, plug, foldlM_moreMemberTokens others]
    rfl

theorem WellFormed.builds {v : Json} (h : v.WellFormed) : v.Builds := by
  intro stack ts
  induction h generalizing stack ts with
  | null => rfl
  | bool b => rfl
  | number h => rfl
  | string h => rfl
  | array h ih =>
    rw [tokens, List.cons_append, foldlM_cons rfl]
    exact foldlM_itemTokens ih stack ts
  | object names values ih =>
    rw [tokens, List.cons_append, foldlM_cons rfl]
    exact foldlM_memberTokens ih stack ts

theorem ofTokens?_tokens {v : Json} (h : v.WellFormed) : ofTokens? v.tokens = some v := by
  have built := h.builds [] []
  rw [List.append_nil] at built
  rw [ofTokens?, built]
  rfl

theorem parse_of_tokens {s : String} {v : Json} (tokens : lex s.toList = some v.tokens)
    (built : ofTokens? v.tokens = some v) : parse s = some v := by
  rw [parse, tokens]
  exact built

theorem parse_render {v : Json} (h : v.WellFormed) : parse v.render = some v := by
  rw [parse, lex_render h]
  exact ofTokens?_tokens h

end ShardBalance.Json
