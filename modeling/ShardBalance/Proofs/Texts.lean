import ShardBalance.Proofs.Previews

/-!
Transfers by their texts. The name of a collection stands in a text as it is, whatever characters it has. But what stands
in front of it and behind it are words without blanks, so a text can be read from both its ends up to the name, and no two
transfers have the same text.
-/

namespace ShardBalance

namespace Text

variable {v w s t : List Char}

theorem first_word_eq (unbroken : ' ' ∉ v) (unbroken' : ' ' ∉ w) (same : v ++ ' ' :: s = w ++ ' ' :: t) :
    v = w ∧ s = t := by
  have first {v : List Char} (unbroken : ' ' ∉ v) (s : List Char) : (v ++ ' ' :: s).takeWhile (· ≠ ' ') = v := by
    have within : ∀ c ∈ v, decide (c ≠ ' ') = true := fun c hc => decide_eq_true fun blank => unbroken (blank ▸ hc)
    rw [List.takeWhile_append_of_pos within]
    simp
  obtain rfl : v = w := by rw [← first unbroken s, same, first unbroken' t]
  exact ⟨rfl, (List.cons.inj (List.append_cancel_left same)).2⟩

theorem last_word_eq (unbroken : ' ' ∉ v) (unbroken' : ' ' ∉ w) (same : s ++ ' ' :: v = t ++ ' ' :: w) :
    s = t ∧ v = w := by
  have backwards : v.reverse ++ ' ' :: s.reverse = w.reverse ++ ' ' :: t.reverse := by
    simpa using congrArg List.reverse same
  obtain ⟨words, rest⟩ := first_word_eq (by simpa using unbroken) (by simpa using unbroken') backwards
  exact ⟨List.reverse_inj.1 rest, List.reverse_inj.1 words⟩

theorem isDigit_of_mem_repr {n : Nat} {c : Char} (h : c ∈ n.repr.toList) : c.isDigit = true := by
  rw [Nat.toList_repr] at h
  exact Nat.isDigit_of_mem_toDigits (by decide) (by decide) h

theorem blank_not_mem_repr (n : Nat) : ' ' ∉ n.repr.toList := fun blank => nomatch isDigit_of_mem_repr blank

theorem repr_inj {m n : Nat} (same : m.repr.toList = n.repr.toList) : m = n := by
  have read := congrArg digits? same
  rw [digits?_repr, digits?_repr] at read
  exact Option.some.inj read

end Text

theorem TransferKind.blank_not_mem_name (k : TransferKind) : ' ' ∉ k.name.toList := by cases k <;> decide

theorem TransferKind.name_inj {k l : TransferKind} (same : k.name.toList = l.name.toList) : k = l := by
  cases k <;> cases l
  · rfl
  · simp [name] at same
  · simp [name] at same
  · rfl

namespace TransferMethod

/-- The word at the end of the text of a transfer. -/
def closing (m : TransferMethod) : List Char := '(' :: (m.name.toList ++ [')'])

theorem blank_not_mem_closing (m : TransferMethod) : ' ' ∉ m.closing := by cases m <;> decide

theorem closing_inj {m n : TransferMethod} (same : m.closing = n.closing) : m = n := by
  have names : m.name = n.name := String.toList_inj.1 (List.append_cancel_right (List.cons.inj same).2)
  have read := congrArg ofName? names
  rw [ofName?_name, ofName?_name] at read
  exact Option.some.inj read

end TransferMethod

namespace Transfer

/-- A text up to the peer that gives, but for what stands in front of the name of the collection. -/
def start (t : Transfer) : List Char := t.collection.toList ++ "' from peer".toList ++ ' ' :: t.source.toNat.repr.toList

/-- A text without its last word. -/
def front (t : Transfer) : List Char :=
  t.kind.name.toList ++ ' ' :: ("shard ".toList ++ (t.shard.toNat.repr.toList ++ ' ' :: ("of '".toList ++
    (t.start ++ " to peer".toList ++ ' ' :: t.target.toNat.repr.toList))))

theorem toList_text (t : Transfer) : t.text.toList = t.front ++ ' ' :: t.method.closing := by
  simp [text, front, start, TransferMethod.closing, ToString.toString]

theorem start_inj {t u : Transfer} (same : t.start = u.start) : t.collection = u.collection ∧ t.source = u.source := by
  obtain ⟨names, sources⟩ := Text.last_word_eq (Text.blank_not_mem_repr _) (Text.blank_not_mem_repr _) same
  exact ⟨String.toList_inj.1 (List.append_cancel_right names), UInt64.toNat_inj.1 (Text.repr_inj sources)⟩

theorem front_inj {t u : Transfer} (same : t.front = u.front) :
    t.kind = u.kind ∧ t.shard = u.shard ∧ t.start = u.start ∧ t.target = u.target := by
  obtain ⟨kinds, rest⟩ := Text.first_word_eq t.kind.blank_not_mem_name u.kind.blank_not_mem_name same
  obtain ⟨shards, rest⟩ := Text.first_word_eq (Text.blank_not_mem_repr _) (Text.blank_not_mem_repr _)
    (List.append_cancel_left rest)
  obtain ⟨starts, targets⟩ := Text.last_word_eq (Text.blank_not_mem_repr _) (Text.blank_not_mem_repr _)
    (List.append_cancel_left rest)
  exact ⟨TransferKind.name_inj kinds, UInt32.toNat_inj.1 (Text.repr_inj shards), List.append_cancel_right starts,
    UInt64.toNat_inj.1 (Text.repr_inj targets)⟩

theorem text_injective : Function.Injective text := by
  intro t u same
  have chars : t.front ++ ' ' :: t.method.closing = u.front ++ ' ' :: u.method.closing := by
    rw [← toList_text, ← toList_text, same]
  obtain ⟨fronts, methods⟩ :=
    Text.last_word_eq t.method.blank_not_mem_closing u.method.blank_not_mem_closing chars
  obtain ⟨kind, shard, starts, target⟩ := front_inj fronts
  obtain ⟨collection, source⟩ := start_inj starts
  have method := TransferMethod.closing_inj methods
  cases t
  cases u
  congr

end Transfer

namespace Failure

/-- What stands between a transfer and the status where the transfer failed. -/
def lead : Failure → String
  | client (.refused code _) => ": Client error: API error (status " ++ code.repr ++ "): "
  | cancelled => ": Operation "
  | _ => ": "

theorem lead_append_status (f : Failure) : f.lead ++ f.status = ": " ++ f.message := by
  cases f with
  | client cause =>
    cases cause with
    | refused code m =>
      show ": " ++ "Client error: " ++ "API error (status " ++ code.repr ++ "): " ++ m =
        ": " ++ ("Client error: " ++ ("API error (status " ++ code.repr ++ "): " ++ m))
      simp only [String.append_assoc]
    | _ => rfl
  | _ => rfl

theorem exists_last_word (f : Failure) (t : Transfer) :
    ∃ s w, t.text.toList ++ f.lead.toList = s ++ ' ' :: w ++ [' '] ∧ ' ' ∉ w ∧
      (s = t.front ∧ w = t.method.closing ++ [':'] ∨
        (∃ code : Nat, s = t.text.toList ++ ": Client error: API error (status".toList ∧
          w = code.repr.toList ++ "):".toList) ∨
        s = t.text.toList ++ ":".toList ∧ w = "Operation".toList) := by
  have plain : t.text.toList ++ ": ".toList = t.front ++ ' ' :: (t.method.closing ++ [':']) ++ [' '] := by
    simp [t.toList_text]
  have unbroken : ' ' ∉ t.method.closing ++ [':'] := by simp [t.method.blank_not_mem_closing]
  cases f with
  | client cause =>
    cases cause with
    | refused code m =>
      have lead : (client (.refused code m)).lead = ": Client error: API error (status " ++ code.repr ++ "): " := rfl
      refine ⟨_, _, ?_, fun blank => ?_, .inr (.inl ⟨code, rfl, rfl⟩)⟩
      · simp [lead]
      · exact (List.mem_append.1 blank).elim (Text.blank_not_mem_repr code) (by decide)
    | _ => exact ⟨_, _, plain, unbroken, .inl ⟨rfl, rfl⟩⟩
  | cancelled =>
    have lead : cancelled.lead = ": Operation " := rfl
    exact ⟨_, _, by simp [lead], by decide, .inr (.inr ⟨rfl, rfl⟩)⟩
  | _ => exact ⟨_, _, plain, unbroken, .inl ⟨rfl, rfl⟩⟩

theorem lead_inj {f g : Failure} {t u : Transfer}
    (same : t.text.toList ++ f.lead.toList = u.text.toList ++ g.lead.toList) : t.text.toList = u.text.toList := by
  obtain ⟨s, w, split, unbroken, kind⟩ := f.exists_last_word t
  obtain ⟨s', w', split', unbroken', kind'⟩ := g.exists_last_word u
  rw [split, split'] at same
  obtain ⟨rfl, rfl⟩ := Text.last_word_eq unbroken unbroken' (List.append_cancel_right same)
  have opened (v : Transfer) : '(' ∈ v.method.closing ++ [':'] := List.mem_cons_self
  have coded (code : Nat) : '(' ∉ code.repr.toList ++ "):".toList ∧ ')' ∈ code.repr.toList ++ "):".toList := by
    refine ⟨fun h => (List.mem_append.1 h).elim (fun digit => nomatch Text.isDigit_of_mem_repr digit) (by decide), ?_⟩
    exact List.mem_append_right _ (by decide)
  have bare : '(' ∉ "Operation".toList ∧ ')' ∉ "Operation".toList := by decide
  -- the brackets of the last word tell which of the three it is
  rcases kind with ⟨front, word⟩ | ⟨code, front, word⟩ | ⟨front, word⟩
  · rcases kind' with ⟨front', word'⟩ | ⟨code, -, word'⟩ | ⟨-, word'⟩
    · rw [t.toList_text, u.toList_text, ← front, ← front', List.append_cancel_right (word.symm.trans word')]
    · exact absurd (word'.symm.trans word ▸ opened t) (coded code).1
    · exact absurd (word'.symm.trans word ▸ opened t) bare.1
  · rcases kind' with ⟨-, word'⟩ | ⟨code', front', -⟩ | ⟨-, word'⟩
    · exact absurd (word.symm.trans word' ▸ opened u) (coded code).1
    · exact List.append_cancel_right (front.symm.trans front')
    · exact absurd (word'.symm.trans word ▸ (coded code).2) bare.2
  · rcases kind' with ⟨-, word'⟩ | ⟨code', -, word'⟩ | ⟨front', -⟩
    · exact absurd (word.symm.trans word' ▸ opened u) bare.1
    · exact absurd (word.symm.trans word' ▸ (coded code').2) bare.2
    · exact List.append_cancel_right (front.symm.trans front')

end Failure

namespace Rebalance.Stop

/-- What a detail says in front of the transfer. -/
def opening : Stop → String
  | rejected _ => "Cluster did not acknowledge "
  | cancelled true => "Cancelled while waiting for "
  | cancelled false => "Cancelled before "
  | failed _ => "Failed to "

/-- What a detail says behind the transfer. -/
def ending : Stop → String
  | rejected status => ": " ++ status
  | cancelled true => "; its outcome is unknown"
  | cancelled false => ""
  | failed f => f.lead ++ f.status

theorem detail_eq (x : Stop) (t : Transfer) : x.detail t = x.opening ++ t.text ++ x.ending := by
  cases x with
  | rejected status => exact String.append_assoc
  | cancelled sent =>
    cases sent with
    | true => rfl
    | false => exact String.append_empty.symm
  | failed f =>
    show "Failed to " ++ t.text ++ ": " ++ f.message = "Failed to " ++ t.text ++ (f.lead ++ f.status)
    rw [f.lead_append_status, String.append_assoc]

def openings : List String :=
  ["Cluster did not acknowledge ", "Cancelled while waiting for ", "Cancelled before ", "Failed to "]

theorem opening_mem (x : Stop) : x.opening ∈ openings := by
  cases x with
  | cancelled sent => cases sent <;> simp [opening, openings]
  | _ => simp [opening, openings]

theorem opening_inj {x y : Stop} {s t : List Char} (same : x.opening.toList ++ s = y.opening.toList ++ t) :
    x.opening = y.opening ∧ s = t := by
  have apart : ∀ a ∈ openings, ∀ b ∈ openings, a.toList <+: b.toList ∨ b.toList <+: a.toList → a = b := by decide
  have begun : y.opening.toList <+: x.opening.toList ++ s := same ▸ List.prefix_append ..
  have openings := apart _ x.opening_mem _ y.opening_mem (List.prefix_or_prefix_of_prefix (List.prefix_append ..) begun)
  exact ⟨openings, List.append_cancel_left (openings ▸ same)⟩

theorem texts_eq {x y : Stop} {t u : Transfer} (status : x.status = y.status) (openings : x.opening = y.opening)
    (same : t.text.toList ++ x.ending.toList = u.text.toList ++ y.ending.toList) : t.text.toList = u.text.toList := by
  cases x with
  | rejected s =>
    cases y with
    | rejected s' =>
      obtain rfl : s = s' := status
      exact List.append_cancel_right same
    | cancelled sent => cases sent <;> simp [opening] at openings
    | failed g => simp [opening] at openings
  | cancelled sent =>
    cases y with
    | rejected s' => cases sent <;> simp [opening] at openings
    | cancelled sent' =>
      cases sent <;> cases sent'
      · exact List.append_cancel_right same
      · simp [opening] at openings
      · simp [opening] at openings
      · exact List.append_cancel_right same
    | failed g => cases sent <;> simp [opening] at openings
  | failed f =>
    cases y with
    | rejected s' => simp [opening] at openings
    | cancelled sent => cases sent <;> simp [opening] at openings
    | failed g =>
      have status : f.status = g.status := status
      have ends : t.text.toList ++ (f.lead ++ f.status).toList = u.text.toList ++ (g.lead ++ g.status).toList := same
      rw [String.toList_append, String.toList_append, ← List.append_assoc, ← List.append_assoc, status] at ends
      exact Failure.lead_inj (List.append_cancel_right ends)

end Rebalance.Stop

namespace Rebalance

/-- No two transfers have the same text, whatever their collections are called. So the texts of a plan determine its
transfers, as does what a dry run says would be done, on whatever backend. The detail of a failure does so for its transfer
together with the status of the outcome, since a refusal may be worded like the end of a text. -/
theorem texts_determine_transfers :
    (∀ t u : Transfer, t.text = u.text → t = u) ∧
      (∀ p q : Plan, p.transfers.map Transfer.text = q.transfers.map Transfer.text →
        p.transfers = q.transfers ∧ (p.goal = q.goal → p = q)) ∧
      (∀ (σ τ : Type) (b : Backend σ) (c : Backend τ) (s : Session σ) (s' : Session τ) (settings settings' : TransferSettings)
        (r r' : Request) (p q : Plan), ((r.plan settings).run.run b s).value = .ok p →
          ((r'.plan settings').run.run c s').value = .ok q →
            ((r.run settings true).run b s).journal.previews = ((r'.run settings' true).run c s').journal.previews →
              p.transfers = q.transfers) ∧
      ∀ (x y : Stop) (t u : Transfer), x.status = y.status → x.detail t = y.detail u → t = u := by
  have lists : Function.Injective (List.map Transfer.text) := List.map_injective_iff.2 Transfer.text_injective
  refine ⟨fun _ _ same => Transfer.text_injective same, fun p q same => ?_, ?_, fun x y t u status same => ?_⟩
  · refine ⟨lists same, fun goals => ?_⟩
    obtain ⟨goal, transfers⟩ := p
    obtain rfl : goal = q.goal := goals
    exact congrArg (Plan.mk q.goal) (lists same)
  · intro σ τ b c s s' settings settings' r r' p q planned planned' same
    rw [previews_dry_of_planned planned, previews_dry_of_planned planned'] at same
    exact lists same
  · have chars : x.opening.toList ++ (t.text.toList ++ x.ending.toList) =
        y.opening.toList ++ (u.text.toList ++ y.ending.toList) := by
      simpa [x.detail_eq, y.detail_eq] using congrArg String.toList same
    obtain ⟨openings, rest⟩ := Stop.opening_inj chars
    exact Transfer.text_injective (String.toList_inj.1 (Stop.texts_eq status openings rest))

/-- A name may hold what a text goes on with behind a name. -/
example :
    (⟨"a' from peer 1 to peer 2 (snapshot)", 0, 3, 4, .snapshot, .move⟩ : Transfer).text =
      "move shard 0 of 'a' from peer 1 to peer 2 (snapshot)' from peer 3 to peer 4 (snapshot)" := by decide

end Rebalance
end ShardBalance
