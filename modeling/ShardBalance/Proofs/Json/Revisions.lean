import Mathlib.Data.List.Perm.Basic
import ShardBalance.Json.Decode

/-!
Changes to JSON values that a reader lets pass. Members that are not read can be added to an object and changed at will,
all members can change places, and the value of one that is read can change as far as its own reader goes along.
-/

namespace ShardBalance

section

variable {β γ : Type} {f : β → Option γ} {x : β} {l l' front back : List β} {m : List γ}

theorem mapM_cons_eq_some_iff :
    (x :: l).mapM f = some m ↔ ∃ y rest, f x = some y ∧ l.mapM f = some rest ∧ m = y :: rest := by
  rw [List.mapM_cons]
  simp only [Option.bind_eq_bind, Option.bind_eq_some_iff, Option.pure_def, Option.some.injEq]
  exact ⟨fun ⟨y, hy, rest, hrest, same⟩ => ⟨y, rest, hy, hrest, same.symm⟩,
    fun ⟨y, rest, hy, hrest, same⟩ => ⟨y, hy, rest, hrest, same.symm⟩⟩

theorem mapM_append_eq_some_iff :
    (front ++ back).mapM f = some m ↔ ∃ a b, front.mapM f = some a ∧ back.mapM f = some b ∧ m = a ++ b := by
  rw [List.mapM_append]
  simp only [Option.bind_eq_bind, Option.bind_eq_some_iff, Option.pure_def, Option.some.injEq]
  exact ⟨fun ⟨a, ha, b, hb, same⟩ => ⟨a, b, ha, hb, same.symm⟩, fun ⟨a, b, ha, hb, same⟩ => ⟨a, ha, b, hb, same.symm⟩⟩

theorem exists_mem_of_mapM (h : l.mapM f = some m) (hx : x ∈ l) : ∃ y ∈ m, f x = some y := by
  obtain ⟨front, back, rfl⟩ := List.append_of_mem hx
  obtain ⟨a, _, -, later, rfl⟩ := mapM_append_eq_some_iff.1 h
  obtain ⟨y, b, read, -, rfl⟩ := mapM_cons_eq_some_iff.1 later
  exact ⟨y, by simp, read⟩

theorem exists_mapM_of_perm (places : l.Perm l') (h : l.mapM f = some m) : ∃ m', l'.mapM f = some m' ∧ m.Perm m' := by
  induction places generalizing m with
  | nil => exact ⟨m, h, .refl m⟩
  | cons x _ ih =>
    obtain ⟨y, rest, head, tail, rfl⟩ := mapM_cons_eq_some_iff.1 h
    obtain ⟨rest', tail', places⟩ := ih tail
    exact ⟨y :: rest', mapM_cons_eq_some_iff.2 ⟨y, rest', head, tail', rfl⟩, places.cons y⟩
  | swap x y l =>
    obtain ⟨b, _, second, both, rfl⟩ := mapM_cons_eq_some_iff.1 h
    obtain ⟨a, rest, first, tail, rfl⟩ := mapM_cons_eq_some_iff.1 both
    have both' := mapM_cons_eq_some_iff.2 ⟨b, rest, second, tail, rfl⟩
    exact ⟨a :: b :: rest, mapM_cons_eq_some_iff.2 ⟨a, b :: rest, first, both', rfl⟩, .swap a b rest⟩
  | trans _ _ ih₁ ih₂ =>
    obtain ⟨m', h', places⟩ := ih₁ h
    obtain ⟨m'', h'', places'⟩ := ih₂ h'
    exact ⟨m'', h'', places.trans places'⟩

end

/-- Whether what is read from `w` agrees with what is read from `v`. -/
def Json.Follows {α : Type} (read : Json → Option α) (agrees : α → α → Prop) (v w : Json) : Prop :=
  ∀ a, read v = some a → ∃ b, read w = some b ∧ agrees a b

namespace Fields

variable {change : String → Json → Json → Prop} {f g : Fields Json} {n : String} {v w : Json}
  {l m : List (String × Json)} {inOrder : Bool}

/-- Whether two records give the same fields, with values that are the same or changed. -/
def Alike (change : String → Json → Json → Prop) (f g : Fields Json) : Prop :=
  ∀ n, Option.Rel (fun v w => v = w ∨ change n v w) (f.get? n) (g.get? n)

theorem alike_of_eq (h : ∀ n, f.get? n = g.get? n) : f.Alike change g := by
  intro n
  rw [h n]
  cases g.get? n with
  | none => exact .none
  | some v => exact .some (.inl rfl)

theorem Alike.refl (f : Fields Json) : f.Alike change f := alike_of_eq fun _ => rfl

theorem get?_eq_some_iff (once : (l.map (·.1)).Nodup) :
    (⟨l, inOrder⟩ : Fields Json).get? n = some v ↔ (n, v) ∈ l := by
  induction l with
  | nil => simp
  | cons e l ih =>
    obtain ⟨name, w⟩ := e
    obtain ⟨new, once⟩ := List.nodup_cons.1 once
    by_cases same : n = name
    · subst same
      have absent : (n, v) ∉ l := fun h => new (List.mem_map.2 ⟨_, h, rfl⟩)
      simp [absent, eq_comm]
    · simp [same, ih once]

theorem alike_of_perm (places : l.Perm m) (once : (l.map (·.1)).Nodup) :
    (⟨l, inOrder⟩ : Fields Json).Alike change ⟨m, inOrder⟩ := by
  refine alike_of_eq fun n => Option.ext fun v => ?_
  rw [get?_eq_some_iff once, get?_eq_some_iff ((places.map _).nodup_iff.1 once), places.mem_iff]

theorem alike_of_change (changed : change n v w) :
    (⟨l ++ (n, v) :: m, inOrder⟩ : Fields Json).Alike change ⟨l ++ (n, w) :: m, inOrder⟩ := by
  intro x
  induction l with
  | nil =>
    by_cases same : x = n
    · subst same
      simpa using Option.Rel.some (.inr changed)
    · have rest : (⟨m, inOrder⟩ : Fields Json).Alike change ⟨m, inOrder⟩ := .refl _
      simpa [same] using rest x
  | cons e l ih =>
    obtain ⟨name, u⟩ := e
    by_cases same : x = name
    · subst same
      simp only [List.cons_append, get?_cons_self]
      exact .some (.inl rfl)
    · simpa [same] using ih

variable {α : Type} {read : Json → Option α} {agrees : α → α → Prop} {a default : α}

theorem Alike.get?_eq (h : f.Alike change g) (fixed : ∀ v w, ¬change n v w) : g.get? n = f.get? n := by
  have alike := h n
  generalize f.get? n = x at alike ⊢
  generalize g.get? n = y at alike ⊢
  cases alike with
  | none => rfl
  | some values =>
    obtain rfl | changed := values
    · rfl
    · exact absurd changed (fixed _ _)

theorem Alike.required_eq (h : f.Alike change g) (fixed : ∀ v w, ¬change n v w) :
    g.required n read = f.required n read := by
  rw [Fields.required, h.get?_eq fixed, Fields.required]

theorem Alike.orElse_eq (h : f.Alike change g) (fixed : ∀ v w, ¬change n v w) :
    g.orElse n default read = f.orElse n default read := by
  rw [Fields.orElse, h.get?_eq fixed, Fields.orElse]

theorem Alike.required (h : f.Alike change g) (refl : ∀ a, agrees a a)
    (follows : ∀ v w, change n v w → v.Follows read agrees w) (found : f.required n read = some a) :
    ∃ b, g.required n read = some b ∧ agrees a b := by
  have alike := h n
  unfold Fields.required at found ⊢
  generalize f.get? n = x at alike found
  generalize g.get? n = y at alike ⊢
  cases alike with
  | none => cases found
  | some values =>
    obtain rfl | changed := values
    · exact ⟨a, found, refl a⟩
    · exact follows _ _ changed a found

theorem Alike.orElse (h : f.Alike change g) (refl : ∀ a, agrees a a)
    (follows : ∀ v w, change n v w → v.Follows read agrees w) (found : f.orElse n default read = some a) :
    ∃ b, g.orElse n default read = some b ∧ agrees a b := by
  have alike := h n
  unfold Fields.orElse at found ⊢
  generalize f.get? n = x at alike found
  generalize g.get? n = y at alike ⊢
  cases alike with
  | none => exact ⟨a, found, refl a⟩
  | some values =>
    obtain rfl | changed := values
    · exact ⟨a, found, refl a⟩
    · exact follows _ _ changed a found

end Fields

namespace Json

variable {names : List String} {change : String → Json → Json → Prop} {each : Json → Json → Prop} {v w : Json}
  {members : List (Quoted × Json)} {f : Fields Json} {n : String}

/-- One change to an object of which the members under `names` are read: a member under another name is added, the
members change places, or the value of one changes, in a certain way if it is read. -/
inductive Revised (names : List String) (change : String → Json → Json → Prop) : Json → Json → Prop
  | added {front back : List (Quoted × Json)} {k : Quoted} {n : String} (name : k.text? = some n)
      (unread : n ∉ names) (v : Json) :
      Revised names change (.object (front ++ back)) (.object (front ++ (k, v) :: back))
  | permuted {l m : List (Quoted × Json)} (places : l.Perm m) : Revised names change (.object l) (.object m)
  | changed {front back : List (Quoted × Json)} {k : Quoted} {n : String} {v w : Json} (name : k.text? = some n)
      (permitted : n ∈ names → change n v w) :
      Revised names change (.object (front ++ (k, v) :: back)) (.object (front ++ (k, w) :: back))

/-- One change to an item of an array. -/
inductive ItemRevised (each : Json → Json → Prop) : Json → Json → Prop
  | mk {front back : List Json} {v w : Json} (changed : each v w) :
      ItemRevised each (.array (front ++ v :: back)) (.array (front ++ w :: back))

/-- A text that satisfies `old` becomes one that satisfies `new`. -/
inductive Renamed (old new : String → Prop) : Json → Json → Prop
  | mk {q r : Quoted} {s t : String} (before : q.text? = some s) (after : r.text? = some t) (was : old s) (is : new t) :
      Renamed old new (.string q) (.string r)

theorem fields?_object_eq_some_iff : (object members).fields? names = some f ↔
    ∃ named, named? members = some named ∧ ((named.filter (·.1 ∈ names)).map (·.1)).Nodup ∧
      f = ⟨named.filter (·.1 ∈ names), false⟩ := by
  rw [fields?, Option.bind_eq_some_iff]
  refine exists_congr fun named => and_congr_right fun _ => ?_
  rw [Fields.ofMembers?]
  split
  next once => simp [once, eq_comm]
  next twice => simp [twice]

/-- Whether an object has a member of a given name and value. -/
def HasMember (v : Json) (n : String) (w : Json) : Prop :=
  ∃ members k, v = .object members ∧ (k, w) ∈ members ∧ k.text? = some n

theorem HasMember.get? (h : v.HasMember n w) (known : n ∈ names) (given : v.fields? names = some f) :
    f.get? n = some w := by
  obtain ⟨members, k, rfl, member, name⟩ := h
  obtain ⟨named, read, once, rfl⟩ := fields?_object_eq_some_iff.1 given
  obtain ⟨e, he, pair⟩ := exists_mem_of_mapM read member
  obtain rfl : (n, w) = e := by simpa [name] using pair
  exact (Fields.get?_eq_some_iff once).2 (List.mem_filter.2 ⟨he, by simpa using known⟩)

theorem Revised.fields? (h : Revised names change v w) (given : v.fields? names = some f) :
    ∃ g, w.fields? names = some g ∧ f.Alike change g := by
  cases h with
  | @added front back k n name unread u =>
    obtain ⟨named, read, once, rfl⟩ := fields?_object_eq_some_iff.1 given
    obtain ⟨a, b, ha, hb, rfl⟩ := mapM_append_eq_some_iff.1 read
    have read' : named? (front ++ (k, u) :: back) = some (a ++ (n, u) :: b) :=
      mapM_append_eq_some_iff.2 ⟨a, _, ha, mapM_cons_eq_some_iff.2 ⟨_, b, by simp [name], hb, rfl⟩, rfl⟩
    have kept : (a ++ (n, u) :: b).filter (·.1 ∈ names) = (a ++ b).filter (·.1 ∈ names) := by
      simp [List.filter_append, unread]
    refine ⟨_, fields?_object_eq_some_iff.2 ⟨_, read', ?_, rfl⟩, ?_⟩
    · rwa [kept]
    · rw [kept]
      exact .refl _
  | permuted places =>
    obtain ⟨named, read, once, rfl⟩ := fields?_object_eq_some_iff.1 given
    obtain ⟨named', read', places'⟩ := exists_mapM_of_perm places read
    have kept := places'.filter (·.1 ∈ names)
    refine ⟨_, fields?_object_eq_some_iff.2 ⟨named', read', ?_, rfl⟩, Fields.alike_of_perm kept once⟩
    exact (kept.map _).nodup_iff.1 once
  | @changed front back k n u u' name permitted =>
    obtain ⟨named, read, once, rfl⟩ := fields?_object_eq_some_iff.1 given
    obtain ⟨a, _, ha, later, rfl⟩ := mapM_append_eq_some_iff.1 read
    obtain ⟨_, b, hk, hb, rfl⟩ := mapM_cons_eq_some_iff.1 later
    obtain rfl : (n, u) = _ := by simpa [name] using hk
    have read' : named? (front ++ (k, u') :: back) = some (a ++ (n, u') :: b) :=
      mapM_append_eq_some_iff.2 ⟨a, _, ha, mapM_cons_eq_some_iff.2 ⟨_, b, by simp [name], hb, rfl⟩, rfl⟩
    refine ⟨_, fields?_object_eq_some_iff.2 ⟨_, read', ?_, rfl⟩, ?_⟩
    · by_cases known : n ∈ names <;> simpa [known] using once
    · by_cases known : n ∈ names
      · simpa [known] using Fields.alike_of_change (permitted known)
      · simp [known, Fields.Alike.refl]

theorem ItemRevised.follows {α : Type} {read : Json → Option α} {agrees : α → α → Prop} (h : ItemRevised each v w)
    (refl : ∀ a, agrees a a) (follows : ∀ v w, each v w → v.Follows read agrees w) :
    v.Follows (list? read) (List.Forall₂ agrees) w := by
  cases h with
  | @mk front back v w changed =>
    intro items found
    obtain ⟨a, _, ha, later, rfl⟩ := mapM_append_eq_some_iff.1 found
    obtain ⟨x, b, hx, hb, rfl⟩ := mapM_cons_eq_some_iff.1 later
    obtain ⟨y, hy, agree⟩ := follows v w changed x hx
    refine ⟨a ++ y :: b, mapM_append_eq_some_iff.2 ⟨a, _, ha, mapM_cons_eq_some_iff.2 ⟨y, b, hy, hb, rfl⟩, rfl⟩, ?_⟩
    have same (l : List α) : List.Forall₂ agrees l l := List.forall₂_same.2 fun a _ => refl a
    exact List.rel_append (same a) (.cons agree (same b))

end Json
end ShardBalance
