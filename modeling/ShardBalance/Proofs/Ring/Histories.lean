import ShardBalance.Proofs.Ring

/-!
Rings over any history of use. A ring hands out its peers in turn from its last reset on, to whoever asks, and a sweep
refuses from a full turn without a peer taken until one is taken.
-/

namespace ShardBalance.Ring

/-- Whether a sweep over the ring is under way. While one is, the ring moves through it alone. -/
inductive Mode where
  | free
  | swept

/-- What can be used in a mode. -/
abbrev Mode.Holder : Mode → Type
  | free => Ring
  | swept => Sweep

def Mode.ring : {m : Mode} → m.Holder → Ring
  | free, r => r
  | swept, s => Sweep.ring s

/-- What can be done with a ring, or with a sweep over it. A search whose test changes on the way is `ask` as often as the
test fails, and then `take`. -/
inductive Use : Mode → Mode → Type where
  | next : Use .free .free
  | reset : Use .free .free
  | start : Use .free .swept
  | ask : Use .swept .swept
  | take : Use .swept .swept
  | find (test : PeerId → Bool) : Use .swept .swept
  | stop : Use .swept .free

inductive Reply where
  | done
  | peer (p : PeerId)
  /-- A refusal, with the number of peers there are. -/
  | exhausted (candidates : Nat)
  deriving DecidableEq

structure Effect (m : Mode) where
  /-- The peers handed out, the ones that a search passes over included. -/
  handed : List PeerId
  reply : Reply
  holder : m.Holder

namespace Use

variable {m n : Mode}

def effect : {m n : Mode} → Use m n → m.Holder → Effect n
  | _, _, next, r => ⟨[current r], .peer (current r), advance r⟩
  | _, _, reset, r => ⟨[], .done, Ring.reset r⟩
  | _, _, start, r => ⟨[], .done, sweep r⟩
  | _, _, ask, s =>
    match Sweep.next? s with
    | some (p, t) => ⟨[p], .peer p, t⟩
    | none => ⟨[], .exhausted (Sweep.size s), s⟩
  | _, _, take, s => ⟨[], .done, Sweep.take s⟩
  | _, _, find test, s =>
    let f := Sweep.find test s
    ⟨f.asked, (f.peer.map .peer).getD (.exhausted (Sweep.size s)), f.sweep⟩
  | _, _, stop, s => ⟨[], .done, Sweep.ring s⟩

def resets : Use m n → Bool
  | reset => true
  | _ => false

end Use

/-- What was done with a ring since it was new, the last use at the end. -/
inductive History : Mode → Type where
  | new : History .free
  | and {m n : Mode} (h : History m) (u : Use m n) : History n

namespace History

variable (r : Ring)

def holder : {m : Mode} → History m → m.Holder
  | _, new => r
  | _, and h u => (u.effect (holder h)).holder

/-- The peers handed out since the ring was new or last reset. -/
def handed : {m : Mode} → History m → List PeerId
  | _, new => []
  | _, and h u => if u.resets then [] else handed h ++ (u.effect (h.holder r)).handed

/-- The peers handed out by the sweep under way, since it was started or last took one. -/
def pending : {m : Mode} → History m → List PeerId
  | _, and h .ask => pending h ++ (Use.ask.effect (h.holder r)).handed
  | _, and h (.find test) =>
    match ((Use.find test).effect (h.holder r)).reply with
    | .peer _ => []
    | _ => pending h ++ ((Use.find test).effect (h.holder r)).handed
  | _, _ => []

/-- The histories that go on from one with nothing but further searches. -/
inductive Insists (h : History .swept) : History .swept → Prop
  | here : Insists h h
  | ask {g : History .swept} (before : Insists h g) : Insists h (g.and .ask)
  | find {g : History .swept} (before : Insists h g) (test : PeerId → Bool) : Insists h (g.and (.find test))

end History

/-- What a use comes to that finds the ring at visit `v` and goes on from there. -/
structure Effect.Continues {m : Mode} (e : Effect m) (r : Ring) (v : Nat) : Prop where
  handed : e.handed = (List.range' v e.handed.length).map r.visited
  ring : Mode.ring e.holder = r.visit (v + e.handed.length)

/-- The peer of visit `v` is handed out, and is the answer. -/
def Effect.Gives {m : Mode} (e : Effect m) (peers : List PeerId) (v : Nat) : Prop :=
  ∃ p, peers[v % peers.length]? = some p ∧ e.handed = [p] ∧ e.reply = .peer p

/-- What the caller gets from a use of a ring of `peers` at visit `v`. -/
def Effect.Answers {m n : Mode} (e : Effect n) (peers : List PeerId) (v : Nat) : Use m n → Prop
  | .next => e.Gives peers v
  | .ask => e.Gives peers v ∨ e.handed = [] ∧ e.reply = .exhausted peers.length
  | .find test =>
    (∃ before p, e.handed = before ++ [p] ∧ (∀ q ∈ before, test q = false) ∧ test p = true ∧ e.reply = .peer p) ∨
      (∀ q ∈ e.handed, test q = false) ∧ e.reply = .exhausted peers.length
  | .reset | .start | .take | .stop => e.handed = [] ∧ e.reply = .done

namespace Use

variable {m n : Mode} {r : Ring} {v : Nat}

theorem continues {u : Use m n} {x : m.Holder} (kept : u.resets = false) (reached : Mode.ring x = r.visit v) :
    (u.effect x).Continues r v := by
  cases u with
  | next =>
    have reached : x = r.visit v := reached
    subst reached
    exact ⟨rfl, advance_visit r v⟩
  | reset => cases kept
  | start => exact ⟨rfl, reached⟩
  | ask =>
    simp only [effect]
    split
    next p t h =>
      obtain ⟨-, rfl, rfl⟩ := Sweep.next?_eq_some h
      have current : current (Sweep.ring x) = r.visited v := congrArg Ring.current reached
      refine ⟨congrArg (fun p => [p]) current, ?_⟩
      exact (congrArg advance reached).trans (advance_visit r v)
    next => exact ⟨rfl, reached⟩
  | take => exact ⟨rfl, reached⟩
  | find test => exact ⟨Sweep.asked_find test reached, Sweep.ring_find test reached⟩
  | stop => exact ⟨rfl, reached⟩

theorem ask_effect {s : Sweep} (full : s.untaken = s.size) : ask.effect s = ⟨[], .exhausted s.size, s⟩ := by
  have none : s.next? = none := Sweep.next?_eq_none_iff.2 full.ge
  simp only [effect, none]

theorem find_effect {s : Sweep} (test : PeerId → Bool) (full : s.untaken = s.size) :
    (find test).effect s = ⟨[], .exhausted s.size, s⟩ := by
  have none := Sweep.find_of_next?_eq_none test (Sweep.next?_eq_none_iff.2 full.ge)
  simp [effect, none]

theorem ask_refuses_iff {s : Sweep} (within : s.untaken ≤ s.size) :
    (∃ candidates, (ask.effect s).reply = .exhausted candidates) ↔ s.untaken = s.size := by
  constructor
  · rintro ⟨candidates, refused⟩
    refine Nat.le_antisymm within (Nat.le_of_not_lt fun left => ?_)
    simp [effect, Sweep.next?, left] at refused
  · intro full
    exact ⟨s.size, by rw [ask_effect full]⟩

theorem reply_find (s : Sweep) (test : PeerId → Bool) : ((find test).effect s).reply =
    match (s.find test).peer with
    | some p => .peer p
    | none => .exhausted s.size := by
  cases found : (s.find test).peer <;> simp [effect, found]

theorem reply_find_eq_exhausted_iff {s : Sweep} {test : PeerId → Bool} :
    ((find test).effect s).reply = .exhausted s.size ↔ (s.find test).peer = none := by
  rw [reply_find]
  cases (s.find test).peer <;> simp

theorem reply_find_eq_peer_iff {s : Sweep} {test : PeerId → Bool} {p : PeerId} :
    ((find test).effect s).reply = .peer p ↔ (s.find test).peer = some p := by
  rw [reply_find]
  cases (s.find test).peer <;> simp

theorem find_refuses_iff {s : Sweep} {test : PeerId → Bool} :
    (∃ candidates, ((find test).effect s).reply = .exhausted candidates) ↔ (s.find test).peer = none := by
  rw [reply_find]
  cases (s.find test).peer <;> simp

theorem answers {u : Use m n} {x : m.Holder} (reached : Mode.ring x = r.visit v) :
    (u.effect x).Answers r.peers v u := by
  have current : r.peers[v % r.peers.length]? = some (Mode.ring x).current := by
    rw [reached]
    exact getElem?_peers_mod r v
  cases u with
  | next => exact ⟨_, current, rfl, rfl⟩
  | reset | start | take | stop => exact ⟨rfl, rfl⟩
  | ask =>
    have size : Sweep.size x = r.peers.length := Sweep.size_of_visit reached
    simp only [effect]
    split
    next p t h =>
      obtain ⟨-, rfl, -⟩ := Sweep.next?_eq_some h
      exact .inl ⟨_, current, rfl, rfl⟩
    next => exact .inr ⟨rfl, congrArg Reply.exhausted size⟩
  | find test =>
    have size : Sweep.size x = r.peers.length := Sweep.size_of_visit reached
    cases found : (Sweep.find test x).peer with
    | some p =>
      obtain ⟨before, asked, satisfies, fail⟩ := Sweep.asked_of_find_eq_some found
      exact .inl ⟨before, p, asked, fail, satisfies, reply_find_eq_peer_iff.2 found⟩
    | none =>
      have refused := reply_find_eq_exhausted_iff.2 found
      exact .inr ⟨Sweep.asked_of_find_eq_none found, size ▸ refused⟩

end Use

namespace History

variable {r : Ring} {m : Mode}

theorem visits (new : r = r.reset) (h : History m) :
    h.handed r = (List.range (h.handed r).length).map r.visited ∧
      Mode.ring (h.holder r) = r.visit (h.handed r).length := by
  -- a reset starts again with the first visit, any other use goes on where the ring stands
  induction h with
  | new => exact ⟨rfl, new.trans (visit_zero r).symm⟩
  | and h u ih =>
    obtain ⟨handed, reached⟩ := ih
    cases resets : u.resets with
    | true =>
      cases u with
      | reset =>
        have reached : h.holder r = r.visit (h.handed r).length := reached
        have back : (h.holder r).reset = r.reset := by
          rw [reached]
          rfl
        exact ⟨rfl, back.trans (visit_zero r).symm⟩
      | next | start | ask | take | find | stop => cases resets
    | false =>
      obtain ⟨more, ends⟩ := Use.continues resets reached
      have appended : (h.and u).handed r = h.handed r ++ (u.effect (h.holder r)).handed := by
        simp [History.handed, resets]
      rw [appended, List.length_append]
      refine ⟨?_, ends⟩
      rw [List.range_add, List.map_append, ← handed, ← List.range'_eq_map_range, ← more]

theorem size_holder (new : r = r.reset) (h : History .swept) : (h.holder r).size = r.size :=
  Sweep.size_of_visit (visits new h).2

theorem counted : (h : History .swept) →
    (h.holder r).untaken = (h.pending r).length ∧ (h.holder r).untaken ≤ (h.holder r).size
  | .and h .start => ⟨rfl, Nat.zero_le _⟩
  | .and h .take => ⟨rfl, Nat.zero_le _⟩
  | .and h .ask => by
    obtain ⟨count, within⟩ := counted h
    simp only [holder, pending, Use.effect]
    split
    next p t next =>
      obtain ⟨left, -, rfl⟩ := Sweep.next?_eq_some next
      exact ⟨by simp [count], left⟩
    next => exact ⟨by simp [count], within⟩
  | .and h (.find test) => by
    obtain ⟨count, within⟩ := counted h
    have asked := Sweep.untaken_add_asked_le test within
    have untaken := Sweep.untaken_find (s := h.holder r) test
    have size : ((h.holder r).find test).sweep.size = (h.holder r).size := by
      simp [Sweep.size, Ring.size]
    simp only [holder, pending, Use.effect, size, untaken]
    cases found : ((h.holder r).find test).peer with
    | none => exact ⟨by simp [count], asked⟩
    | some p => exact ⟨rfl, Nat.zero_le _⟩

theorem Insists.stuck {h g : History .swept} (insists : Insists h g) (full : (h.holder r).untaken = (h.holder r).size) :
    g.holder r = h.holder r := by
  induction insists with
  | here => rfl
  | ask _ ih =>
    rw [holder, ih, Use.ask_effect full]
  | find _ test ih =>
    rw [holder, ih, Use.find_effect test full]

/-- What a history of a ring of `peers` has come to. -/
structure InTurn (peers : List PeerId) (r : Ring) (h : History m) : Prop where
  handed : ∀ i < (h.handed r).length, (h.handed r)[i]? = peers[i % peers.length]?
  same : (Mode.ring (h.holder r)).peers = peers
  position : (Mode.ring (h.holder r)).position = (h.handed r).length % peers.length
  inside : (Mode.ring (h.holder r)).position < peers.length
  /-- Whatever comes next answers with the peer it hands out, a search with the last one. -/
  answers : ∀ {n : Mode} (u : Use m n), (u.effect (h.holder r)).Answers peers (h.handed r).length u

/-- What a history has come to that leaves a sweep over a ring of `peers` under way. -/
structure Bounded (peers : List PeerId) (r : Ring) (h : History .swept) : Prop where
  counted : (h.holder r).untaken = (h.pending r).length
  within : (h.pending r).length ≤ peers.length
  refuses_iff : (∃ candidates, (Use.ask.effect (h.holder r)).reply = .exhausted candidates) ↔
    (h.pending r).length = peers.length
  /-- A search is refused where asking once more would be. -/
  search_refuses : ∀ test, (∃ candidates, ((Use.find test).effect (h.holder r)).reply = .exhausted candidates) →
    ((h.and (.find test)).pending r).length = peers.length
  /-- A refusal hands out nothing and leaves the sweep as it is, however often one goes on asking. -/
  refuses : ∀ candidates, (Use.ask.effect (h.holder r)).reply = .exhausted candidates →
    ∀ g, Insists h g → Use.ask.effect (g.holder r) = ⟨[], .exhausted peers.length, h.holder r⟩ ∧
      ∀ test, (Use.find test).effect (g.holder r) = ⟨[], .exhausted peers.length, h.holder r⟩

theorem inTurn (new : r = r.reset) (h : History m) : h.InTurn r.peers r := by
  obtain ⟨handed, reached⟩ := visits new h
  have inside := (Mode.ring (h.holder r)).inside
  rw [reached] at inside
  refine ⟨fun i hi => ?_, by rw [reached]; rfl, by rw [reached]; rfl, by rwa [reached], fun _ => Use.answers reached⟩
  have visited : (h.handed r)[i]? = some (r.visited i) := by
    rw [handed, List.getElem?_map, List.getElem?_range hi]
    rfl
  exact visited.trans (getElem?_peers_mod r i).symm

theorem bounded (new : r = r.reset) (h : History .swept) : h.Bounded r.peers r := by
  obtain ⟨count, within⟩ := counted (r := r) h
  have size : (h.holder r).size = r.peers.length := size_holder new h
  have refuses_iff := (Use.ask_refuses_iff within).trans (by rw [count, size])
  refine ⟨count, by rw [← count, ← size]; exact within, refuses_iff, fun test refused => ?_,
    fun candidates refused g insists => ?_⟩
  · have full := (Sweep.turn_of_find_eq_none within (Use.find_refuses_iff.1 refused)).1
    have pending := (counted (r := r) (h.and (.find test))).1
    exact pending.symm.trans (full.trans size)
  have full : (h.holder r).untaken = (h.holder r).size := (Use.ask_refuses_iff within).1 ⟨candidates, refused⟩
  rw [insists.stuck full, ← size]
  exact ⟨Use.ask_effect full, fun test => Use.find_effect test full⟩

/-- Whatever is done with a ring, callers get its peers in turn from the last reset on, and a sweep refuses exactly when it
has handed out as many peers as there are since it was started or took one. -/
theorem peers_in_turn {peers : List PeerId} (nonempty : peers ≠ []) :
    ∃ r, ofPeers? peers = some r ∧ (∀ {m : Mode} (h : History m), h.InTurn peers r) ∧
      ∀ h : History .swept, h.Bounded peers r := by
  cases peers with
  | nil => exact absurd rfl nonempty
  | cons p l =>
    let r : Ring := ⟨p :: l, 0, Nat.zero_lt_succ _⟩
    exact ⟨r, rfl, fun h => inTurn (r := r) rfl h, fun h => bounded (r := r) rfl h⟩

/-- A sweep takes the second of two peers. -/
def secondTaken : History .free := ((new.and .start).and (.find (· = 8))).and .stop

/-- After that the ring moves on by itself, and another sweep takes none for a turn. -/
def turnUntaken : History .swept := (((secondTaken.and .next).and .start).and .ask).and .ask

theorem third_ask_refused : ([7, 8] : List PeerId) ≠ [] ∧ ∃ r, ofPeers? [7, 8] = some r ∧
    ((Use.find (· = 8)).effect ((new.and .start).holder r)).reply = .peer 8 ∧
    (Use.next.effect (secondTaken.holder r)).reply = .peer 7 ∧
    turnUntaken.handed r = [7, 8, 7, 8, 7] ∧
      Use.ask.effect (turnUntaken.holder r) = ⟨[], .exhausted 2, turnUntaken.holder r⟩ := by
  have nonempty : ([7, 8] : List PeerId) ≠ [] := by decide
  obtain ⟨r, made, inTurn, bounded⟩ := peers_in_turn nonempty
  cases made
  have found : ((Use.find (· = 8)).effect ((new.and .start).holder ⟨[7, 8], 0, by decide⟩)).reply = .peer 8 := by
    decide +kernel
  have handed : turnUntaken.handed ⟨[7, 8], 0, by decide⟩ = [7, 8, 7, 8, 7] := by decide +kernel
  obtain ⟨candidates, refused⟩ := (bounded turnUntaken).refuses_iff.2 (by decide +kernel)
  refine ⟨nonempty, _, rfl, found, ?_, handed, ((bounded turnUntaken).refuses candidates refused _ .here).1⟩
  obtain ⟨p, third, -, reply⟩ := (inTurn secondTaken).answers .next
  exact reply.trans (congrArg Reply.peer (Option.some.inj (third.symm.trans (by decide +kernel))))

end History
end ShardBalance.Ring
