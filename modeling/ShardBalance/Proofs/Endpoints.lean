import ShardBalance.Http.Client
import ShardBalance.Proofs.Percent

/-!
Where the calls about a collection go. The name of a collection makes one segment, behind those of the base URL, that is
decoded to the name again, so no two collections are reached by one path. Names of dots make no segment, and tabs and line
breaks in a name get lost.
-/

namespace ShardBalance

theorem Text.toLower_cases {c d : Char} (h : c.toLower = d) : c = d ∨ c.toNat + 32 = d.toNat ∧ 65 ≤ c.toNat := by
  unfold Char.toLower at h
  split at h
  next capital =>
    have low : 65 ≤ c.toNat := UInt32.le_iff_toNat_le.1 capital.1
    have high : c.toNat ≤ 90 := UInt32.le_iff_toNat_le.1 capital.2
    subst h
    refine .inr ⟨?_, low⟩
    show c.toNat + 32 = (c.val + 32).toNat
    rw [UInt32.toNat_add]
    exact (Nat.mod_eq_of_lt (by omega)).symm
  next => exact .inl h

theorem Text.of_toLower_eq {c d : Char} (h : c.toLower = d) (small : d.toNat < 97) : c = d := by
  rcases toLower_cases h with same | ⟨below, capital⟩
  · exact same
  · omega

theorem Text.of_toLower_eq_e {c : Char} (h : c.toLower = 'e') : c = 'e' ∨ c = 'E' := by
  rcases toLower_cases h with same | ⟨below, -⟩
  · exact .inl same
  · have code : c.toNat = 'E'.toNat := Nat.add_right_cancel (m := 32) below
    exact .inr (Char.toNat_inj.1 code)

namespace Url

open Percent (decode? decodeBytes decode?_of_decodeBytes decode?_encode)

namespace Segments

variable {special file : Bool} {s : List Char} {l : Segments}

/-- A dot, as it is or encoded. -/
def ShowsDot (s : List Char) : Prop := s.map Char.toLower = ['.'] ∨ s.map Char.toLower = ['%', '2', 'e']

theorem ShowsDot.decodeBytes (h : ShowsDot s) (rest : List Char) :
    decodeBytes (s ++ rest) = String.utf8EncodeChar '.' ++ decodeBytes rest := by
  rcases h with h | h
  · obtain ⟨a, rfl, ha⟩ := List.map_eq_singleton_iff.1 h
    cases Text.of_toLower_eq ha (by decide)
    exact Percent.decodeBytes_cons (by decide) rest
  · simp only [List.map_eq_cons_iff, List.map_eq_nil_iff] at h
    obtain ⟨a, _, rfl, ha, b, _, rfl, hb, c, _, rfl, hc, rfl⟩ := h
    cases Text.of_toLower_eq ha (by decide)
    cases Text.of_toLower_eq hb (by decide)
    rcases Text.of_toLower_eq_e hc with rfl | rfl <;> rfl

theorem decode?_of_isDot (h : isDot s = true) : decode? s = some ['.'] := by
  have shows : ShowsDot s := by
    simp only [isDot, Bool.or_eq_true, beq_iff_eq] at h
    rcases h with rfl | h
    · exact .inl rfl
    · exact .inr h
  have bytes := shows.decodeBytes []
  rw [List.append_nil] at bytes
  exact decode?_of_decodeBytes bytes

theorem showsDot_of_isDoubleDot (h : isDoubleDot s = true) : ∃ a b, s = a ++ b ∧ ShowsDot a ∧ ShowsDot b := by
  have parts {x y : List Char} (shown : s.map Char.toLower = x ++ y) := List.map_eq_append_iff.1 shown
  simp only [isDoubleDot, Bool.or_eq_true, beq_iff_eq] at h
  rcases h with ((h | h) | h) | h
  · obtain ⟨a, b, rfl, ha, hb⟩ := parts (x := ['.']) (y := ['.']) h
    exact ⟨a, b, rfl, .inl ha, .inl hb⟩
  · obtain ⟨a, b, rfl, ha, hb⟩ := parts (x := ['%', '2', 'e']) (y := ['.']) h
    exact ⟨a, b, rfl, .inr ha, .inl hb⟩
  · obtain ⟨a, b, rfl, ha, hb⟩ := parts (x := ['.']) (y := ['%', '2', 'e']) h
    exact ⟨a, b, rfl, .inl ha, .inr hb⟩
  · obtain ⟨a, b, rfl, ha, hb⟩ := parts (x := ['%', '2', 'e']) (y := ['%', '2', 'e']) h
    exact ⟨a, b, rfl, .inr ha, .inr hb⟩

theorem decode?_of_isDoubleDot (h : isDoubleDot s = true) : decode? s = some ['.', '.'] := by
  obtain ⟨a, b, rfl, ha, hb⟩ := showsDot_of_isDoubleDot h
  have bytes := hb.decodeBytes []
  rw [List.append_nil] at bytes
  refine decode?_of_decodeBytes ?_
  rw [ha.decodeBytes, bytes]
  rfl

/-- A path that is nothing but a slash has no segments. -/
def rootless (l : Segments) : Segments := if l = [[]] then [] else l

/-- The segments that others are put behind. A slash at the end does not count, so `/` and `//` have none. -/
def stem (l : Segments) : Segments := rootless (if l.getLast? = some [] then l.dropLast else l)

theorem rootless_popIfEmpty (l : Segments) : rootless (popIfEmpty l) = stem l := by
  match l with
  | [] => rfl
  | [s] => by_cases empty : s = [] <;> simp [popIfEmpty, stem, rootless, empty]
  | _ :: _ :: _ => rfl

/-- The path of a file does not begin with an empty segment. -/
def Rooted (file : Bool) (l : Segments) : Prop := file = true → ∀ s ∈ l.head?, s ≠ []

theorem Rooted.append {m : Segments} (h : Rooted file l) (h' : Rooted file m) : Rooted file (l ++ m) := by
  cases l with
  | nil => exact h'
  | cons s l => exact h

theorem trimFile_of_rooted (h : Rooted file l) (some : l ≠ []) : trimFile file l = l := by
  cases file with
  | false => rfl
  | true =>
    cases l with
    | nil => exact absurd rfl some
    | cons s l =>
      have full : s.isEmpty = false := by simpa using h rfl s rfl
      simp [trimFile, full]

theorem add_of_not_dots (noDot : isDot s = false) (noDoubleDot : isDoubleDot s = false)
    (noDrive : l = [] → isDrive s = false) : add file true l s = l ++ [s] := by
  cases l with
  | nil => simp [add, noDot, noDoubleDot, withColon, noDrive rfl]
  | cons t l => simp [add, noDot, noDoubleDot]

theorem push_word {w : List Char} (word : w ∈ ["collections".toList, "cluster".toList])
    (rooted : Rooted file (rootless l)) : push special file l w = rootless l ++ [w] := by
  have noDots : w ≠ ['.'] ∧ w ≠ ['.', '.'] ∧ w ≠ [] := by
    revert w
    decide
  have plain : isDot w = false ∧ isDoubleDot w = false ∧ isDrive w = false := by
    revert w
    decide
  have unencoded : encodeSegment special w = w := by
    revert w
    cases special <;> decide
  rw [push, if_neg (by simp [noDots]), unencoded]
  show trimFile file (add file true (rootless l) w) = rootless l ++ [w]
  rw [add_of_not_dots plain.1 plain.2.1 fun _ => plain.2.2]
  refine trimFile_of_rooted (rooted.append fun _ t ht => ?_) (by simp)
  cases ht
  exact noDots.2.2

/-- Whether a name is kept in a path. -/
structure Plain (name : List Char) : Prop where
  noDot : name ≠ ['.']
  noDoubleDot : name ≠ ['.', '.']
  noBreak : ∀ c ∈ name, isLineBreakOrTab c = false

theorem decode?_encodeSegment (special : Bool) (name : List Char) :
    decode? (encodeSegment special name) = some (name.filter (!isLineBreakOrTab ·)) :=
  decode?_encode (by cases special <;> rfl) _

theorem Plain.decode?_encodeSegment {name : List Char} (h : Plain name) (special : Bool) :
    decode? (encodeSegment special name) = some name := by
  rw [Segments.decode?_encodeSegment, List.filter_eq_self.2 fun c hc => by simp [h.noBreak c hc]]

theorem not_mem_encodeSegment {c : Char} (encoded : Percent.inPath c = true ∨ c = '/') (percent : c ≠ '%')
    (digit : ∀ n < 16, Percent.hexDigit n ≠ c) (special : Bool) (name : List Char) :
    c ∉ encodeSegment special name := by
  refine Percent.not_mem_encode ?_ percent digit
  rcases encoded with encoded | rfl <;> simp [Percent.inSegment, *]

variable {front : Segments} {name : List Char}

/-- The segments in front of a name. -/
def listing (front : Segments) : Segments := front ++ ["collections".toList]

theorem rootless_listing_append (front l : Segments) : rootless (listing front ++ l) = listing front ++ l := by
  refine if_neg ?_
  cases front with
  | nil => simp [listing]
  | cons s front => simp [listing]

theorem rooted_listing_append (rooted : Rooted file front) (l : Segments) : Rooted file (listing front ++ l) := by
  rw [listing, List.append_assoc]
  refine rooted.append fun _ s hs => ?_
  cases hs
  decide

theorem trimFile_listing_append (rooted : Rooted file front) (l : Segments) :
    trimFile file (listing front ++ l) = listing front ++ l :=
  trimFile_of_rooted (rooted_listing_append rooted l) (by simp [listing])

theorem shorten_listing (front : Segments) : shorten (listing front) = front := by
  have last : (listing front).getLast? = some "collections".toList := by simp [listing]
  simp only [shorten, last]
  exact List.dropLast_concat

theorem push_name (noDot : name ≠ ['.']) (noDoubleDot : name ≠ ['.', '.']) :
    push special file (listing front) name = trimFile file (add file true (listing front) (encodeSegment special name)) := by
  rw [push, if_neg (by simp [noDot, noDoubleDot])]
  have kept := rootless_listing_append front []
  rw [List.append_nil] at kept
  exact congrArg (fun l => trimFile file (add file true l _)) kept

theorem push_of_plain (rooted : Rooted file front) (plain : Plain name) :
    push special file (listing front) name = listing front ++ [encodeSegment special name] := by
  have decoded := plain.decode?_encodeSegment special
  have noDot : isDot (encodeSegment special name) = false := by
    refine Bool.eq_false_iff.2 fun dot => plain.noDot ?_
    exact Option.some.inj (decoded.symm.trans (decode?_of_isDot dot))
  have noDoubleDot : isDoubleDot (encodeSegment special name) = false := by
    refine Bool.eq_false_iff.2 fun dots => plain.noDoubleDot ?_
    exact Option.some.inj (decoded.symm.trans (decode?_of_isDoubleDot dots))
  rw [push_name plain.noDot plain.noDoubleDot, add_of_not_dots noDot noDoubleDot (by simp [listing]),
    trimFile_listing_append rooted]

theorem push_of_not_plain (rooted : Rooted file front) (lost : ¬ Plain name) :
    push special file (listing front) name = listing front ∨
      push special file (listing front) name = front ++ [[]] ∨
      ∃ e, push special file (listing front) name = listing front ++ [e] ∧ decode? e ≠ some name := by
  -- no segment, one in place of the segment in front, or one that is not decoded to the name
  by_cases dots : name = ['.'] ∨ name = ['.', '.']
  · exact .inl (if_pos dots)
  obtain ⟨noDot, noDoubleDot⟩ := not_or.1 dots
  have shorter : name.filter (!isLineBreakOrTab ·) ≠ name := by
    intro same
    refine lost ⟨noDot, noDoubleDot, fun c hc => ?_⟩
    simpa using List.filter_eq_self.1 same c hc
  rw [push_name noDot noDoubleDot]
  by_cases doubleDot : isDoubleDot (encodeSegment special name) = true
  · refine .inr (.inl ?_)
    rw [add, if_pos doubleDot, if_pos rfl, shorten_listing]
    cases front with
    | nil => cases file <;> rfl
    | cons s front => exact trimFile_of_rooted (l := s :: (front ++ [[]])) rooted (by simp)
  · refine .inr (.inr ?_)
    by_cases dot : isDot (encodeSegment special name) = true
    · refine ⟨[], ?_, ?_⟩
      · rw [add, if_neg doubleDot, if_pos dot, if_pos rfl, trimFile_listing_append rooted]
      · intro same
        have nil : name = [] := (Option.some.inj same).symm
        exact shorter (by rw [nil]; rfl)
    · refine ⟨encodeSegment special name, ?_, ?_⟩
      · rw [add_of_not_dots (Bool.eq_false_iff.2 dot) (Bool.eq_false_iff.2 doubleDot) (by simp [listing]),
          trimFile_listing_append rooted]
      · rw [decode?_encodeSegment]
        exact fun same => shorter (Option.some.inj same)

/-- What may stand behind the name of a collection. -/
inductive Tail : Segments → Prop
  | nothing : Tail []
  | cluster : Tail ["cluster".toList]

variable {tail : Segments}

theorem Tail.foldl_push (h : Tail tail) (rooted : Rooted file front) (l : Segments) :
    tail.foldl (push special file) (listing front ++ l) = listing front ++ l ++ tail := by
  cases h with
  | nothing => simp
  | cluster =>
    have kept := rootless_listing_append front l
    rw [List.foldl_cons, List.foldl_nil, push_word (by simp), kept]
    rw [kept]
    exact rooted_listing_append rooted l

theorem Tail.length_foldl_push_lt (h : Tail tail) (rooted : Rooted file front) :
    (tail.foldl (push special file) (front ++ [[]])).length < front.length + 2 + tail.length := by
  cases h with
  | nothing => simp
  | cluster =>
    rw [List.foldl_cons, List.foldl_nil]
    cases front with
    | nil =>
      have alone : rootless ([] ++ [[]]) = [] := rfl
      rw [push_word (by simp) (by rw [alone]; exact rooted), alone]
      simp
    | cons s front =>
      have kept : rootless (s :: front ++ [[]]) = s :: front ++ [[]] := if_neg (by simp)
      rw [push_word (by simp) (by rw [kept]; exact rooted), kept]
      simp

/-- The segments with those of a call about a collection behind them. -/
def named (special file : Bool) (l : Segments) (name : List Char) (tail : Segments) : Segments :=
  ("collections".toList :: name :: tail).foldl (push special file) (popIfEmpty l)

theorem named_eq (rooted : Rooted file (stem l)) (name : List Char) (tail : Segments) :
    named special file l name tail = tail.foldl (push special file) (push special file (listing (stem l)) name) := by
  have kept := rootless_popIfEmpty l
  have word : push special file (popIfEmpty l) "collections".toList = listing (stem l) := by
    rw [push_word List.mem_cons_self (by rw [kept]; exact rooted), kept]
    rfl
  exact congrArg (fun l => tail.foldl (push special file) (push special file l name)) word

theorem named_of_plain (rooted : Rooted file (stem l)) (plain : Plain name) (behind : Tail tail) :
    named special file l name tail = listing (stem l) ++ encodeSegment special name :: tail := by
  rw [named_eq rooted, push_of_plain rooted plain, behind.foldl_push rooted, List.append_assoc]
  rfl

theorem plain_of_named (rooted : Rooted file (stem l)) (behind : Tail tail) {e : List Char}
    (path : named special file l name tail = listing (stem l) ++ e :: tail) (decoded : decode? e = some name) :
    Plain name := by
  by_contra lost
  have length : (named special file l name tail).length = (stem l).length + 2 + tail.length := by
    rw [path]
    simp [listing]
    omega
  rw [named_eq rooted] at path length
  rcases push_of_not_plain rooted lost with pushed | pushed | ⟨e', pushed, other⟩
  · rw [pushed, ← List.append_nil (listing _), behind.foldl_push rooted] at length
    simp [listing] at length
    omega
  · rw [pushed] at length
    exact absurd length (Nat.ne_of_lt (behind.length_foldl_push_lt rooted))
  · rw [pushed, behind.foldl_push rooted, List.append_assoc] at path
    have same : e' = e := (List.cons.inj (List.append_cancel_left path)).1
    exact other (same ▸ decoded)

theorem takeWhile_append_text {s : List Char} (noSlash : '/' ∉ s) (l : Segments) :
    (s ++ text l).takeWhile (· ≠ '/') = s := by
  have kept : ∀ c ∈ s, decide (c ≠ '/') = true := by
    intro c hc
    refine decide_eq_true ?_
    rintro rfl
    exact noSlash hc
  rw [List.takeWhile_append_of_pos kept]
  cases l with
  | nil => exact List.append_nil s
  | cons t l => exact List.append_nil s

theorem eq_of_text_cons {s t : List Char} {l m : Segments} (noSlash : '/' ∉ s) (noSlash' : '/' ∉ t)
    (same : text (s :: l) = text (t :: m)) : s = t := by
  have same : s ++ text l = t ++ text m := (List.cons.inj same).2
  rw [← takeWhile_append_text noSlash l, same, takeWhile_append_text noSlash' m]

theorem exists_pathText (hasAuthority : Bool) (front : Segments) :
    ∃ start, ∀ l, pathText hasAuthority (.segments (listing front ++ l)) = start ++ text l := by
  have split (front l : Segments) : text (listing front ++ l) = text (listing front) ++ text l := List.flatMap_append
  match front with
  | [] => exact ⟨text (listing []), fun l => split [] l⟩
  | [[]] =>
    refine ⟨(if hasAuthority then [] else "/.".toList) ++ text (listing [[]]), fun l => ?_⟩
    rw [List.append_assoc, ← split]
    rfl
  | [c :: s] => exact ⟨text (listing [c :: s]), fun l => split [c :: s] l⟩
  | [] :: t :: front =>
    refine ⟨(if hasAuthority then [] else "/.".toList) ++ text (listing ([] :: t :: front)), fun l => ?_⟩
    rw [List.append_assoc, ← split]
    rfl
  | (c :: s) :: t :: front => exact ⟨text (listing ((c :: s) :: t :: front)), fun l => split ((c :: s) :: t :: front) l⟩

end Segments

/-- The URL with other segments for its path. -/
def withSegments (u : Url) (l : Segments) : Url := { u with path := .segments l }

theorem withSegments_inj {u : Url} {l m : Segments} : u.withSegments l = u.withSegments m ↔ l = m := by
  simp [withSegments]

theorem exists_of_bind_eq_ok {ε α β : Type} {x : Except ε α} {f : α → Except ε β} {b : β} (h : x >>= f = .ok b) :
    ∃ a, x = .ok a ∧ f a = .ok b := by
  cases x with
  | error e => cases h
  | ok a => exact ⟨a, rfl, h⟩

theorem path_of_noHost {s : List Char} {h : Head} (read : fileHead.noHost s = .ok h) :
    ∃ l, h.path = .segments (Segments.trimFile true l) := by
  cases read
  exact ⟨_, rfl⟩

theorem path_of_fileHead {s : List Char} {h : Head} (read : fileHead s = .ok h) :
    ∃ l, h.path = .segments (Segments.trimFile true l) := by
  unfold fileHead at read
  split at read
  · dsimp only at read
    split at read
    · split at read
      all_goals
        obtain ⟨host, -, read⟩ := exists_of_bind_eq_ok read
        cases read
        exact ⟨_, rfl⟩
    · exact path_of_noHost read
  · exact path_of_noHost read

theorem path_of_isFile {s : List Char} {u : Url} (h : ofChars s = .ok u) (file : isFile u.scheme = true) :
    ∃ l, u.path = .segments (Segments.trimFile true l) := by
  unfold ofChars at h
  split at h
  · cases h
  next scheme rest found =>
    dsimp only at h
    split at h
    next =>
      obtain ⟨head, read, h⟩ := exists_of_bind_eq_ok h
      cases h
      exact path_of_fileHead read
    next other =>
      split at h
      all_goals
        obtain ⟨head, -, h⟩ := exists_of_bind_eq_ok h
        cases h
        exact absurd file other

namespace Segments

theorem rootless_isPrefix {m : Segments} (h : m <+: l) : rootless m <+: l := by
  unfold rootless
  split
  · exact List.nil_prefix
  · exact h

theorem stem_isPrefix (l : Segments) : stem l <+: l := by
  refine rootless_isPrefix ?_
  split
  · exact List.dropLast_prefix l
  · exact List.prefix_refl l

theorem rooted_stem_trimFile (l : Segments) : Rooted true (stem (trimFile true l)) := by
  intro _ s hs
  have begins : ∀ s ∈ (l.dropWhile List.isEmpty).head?, s ≠ [] := by
    intro s hs
    have full := List.head?_dropWhile_not List.isEmpty l
    rw [Option.mem_def.1 hs] at full
    simpa using full
  unfold trimFile at hs
  rw [if_pos rfl] at hs
  split at hs
  · cases hs
  next m trimmed =>
    obtain ⟨rest, same⟩ := stem_isPrefix (l.dropWhile List.isEmpty)
    refine begins s ?_
    rw [← same]
    exact List.mem_head?_append_of_mem_head? hs

end Segments
end Url

namespace Http.Client

open Url (Segments pathText)
open Url.Segments (stem listing Rooted Plain encodeSegment)

variable {s : ConnectionSettings} {k : Client} {base : Segments}

theorem rooted_of_settings (built : ofSettings s = .ok k) (usable : k.base.path = .segments base) :
    Rooted (Url.isFile k.base.scheme) (stem base) := by
  intro file
  obtain ⟨u, checked, built⟩ := Url.exists_of_bind_eq_ok built
  cases built
  obtain ⟨-, -, parsed⟩ := Url.exists_of_bind_eq_ok checked
  cases read : Url.ofChars (Text.dropEndWhile (· == '/') s.url.toList) with
  | error e =>
    rw [read] at parsed
    cases parsed
  | ok v =>
    rw [read] at parsed
    cases parsed
    obtain ⟨l, trimmed⟩ := Url.path_of_isFile read file
    cases usable.symm.trans trimmed
    exact Url.Segments.rooted_stem_trimFile l rfl

/-- The collection that a call is about, and what stands behind its name in the path. -/
def about? : Call → Option (String × Segments)
  | .collection name => some (name, [])
  | .placement name | .update name _ => some (name, ["cluster".toList])
  | _ => none

/-- One segment of a path that is a name, encoded. -/
structure Spells (e : List Char) (name : String) : Prop where
  one : '/' ∉ e ∧ '?' ∉ e ∧ '#' ∉ e
  decoded : Url.Percent.decode? e = some name.toList

variable {c d : Call} {name other : String} {tail : Segments}

theorem endpoint_of_about? (usable : k.base.path = .segments base) (about : about? c = some (name, tail)) :
    Url.Segments.Tail tail ∧ k.endpoint c = .ok (k.base.withSegments (Url.Segments.named
      (Url.isSpecial k.base.scheme) (Url.isFile k.base.scheme) base name.toList tail)) := by
  have extended (added : List (List Char)) : k.base.extend? added = some (k.base.withSegments
      (added.foldl (Url.Segments.push (Url.isSpecial k.base.scheme) (Url.isFile k.base.scheme))
        (Url.Segments.popIfEmpty base))) := by
    simp only [Url.extend?, usable]
    rfl
  cases c with
  | peers | collections => cases about
  | collection name =>
    cases about
    exact ⟨.nothing, by simp only [endpoint, extended]; rfl⟩
  | placement name | update name o =>
    cases about
    exact ⟨.cluster, by simp only [endpoint, extended]; rfl⟩

theorem spells_encodeSegment (special : Bool) (plain : Plain name.toList) :
    Spells (encodeSegment special name.toList) name where
  one := by
    refine ⟨?_, ?_, ?_⟩
    · exact Url.Segments.not_mem_encodeSegment (.inr rfl) (by decide) (by decide) special _
    · exact Url.Segments.not_mem_encodeSegment (.inl rfl) (by decide) (by decide) special _
    · exact Url.Segments.not_mem_encodeSegment (.inl rfl) (by decide) (by decide) special _
  decoded := plain.decode?_encodeSegment special

/-- Behind the segments of the base URL, the path of a call about a collection has one segment that spells its name, unless
the name is a dot or two or holds a tab or a line break. Paths for two names are never the same. -/
theorem paths_spell_names (built : ofSettings s = .ok k) (usable : k.base.path = .segments base) :
    ∃ e : String → List Char,
      (∀ c name tail, about? c = some (name, tail) → Plain name.toList → Spells (e name) name ∧
        k.endpoint c = .ok (k.base.withSegments (stem base ++ ["collections".toList, e name] ++ tail))) ∧
      (∀ c name tail, about? c = some (name, tail) → ¬ Plain name.toList → ¬ ∃ e', Spells e' name ∧
        k.endpoint c = .ok (k.base.withSegments (stem base ++ ["collections".toList, e'] ++ tail))) ∧
      ∀ c d name other tail tail', about? c = some (name, tail) → about? d = some (other, tail') →
        Plain name.toList → Plain other.toList → name ≠ other → ∀ u v, k.endpoint c = .ok u → k.endpoint d = .ok v →
          pathText u.authority.isSome u.path ≠ pathText v.authority.isSome v.path := by
  have rooted := rooted_of_settings built usable
  have listed (e : List Char) (tail : Segments) :
      stem base ++ ["collections".toList, e] ++ tail = listing (stem base) ++ e :: tail := by simp [listing]
  have named {c : Call} {name : String} {tail : Segments} (about : about? c = some (name, tail))
      (plain : Plain name.toList) : k.endpoint c = .ok (k.base.withSegments
        (listing (stem base) ++ encodeSegment (Url.isSpecial k.base.scheme) name.toList :: tail)) := by
    obtain ⟨behind, goes⟩ := endpoint_of_about? usable about
    rw [goes, Url.Segments.named_of_plain rooted plain behind]
  refine ⟨fun name => encodeSegment (Url.isSpecial k.base.scheme) name.toList, ?_, ?_, ?_⟩
  · intro c name tail about plain
    refine ⟨spells_encodeSegment _ plain, ?_⟩
    rw [named about plain, listed]
  · rintro c name tail about lost ⟨e', spells, goes⟩
    obtain ⟨behind, goes'⟩ := endpoint_of_about? usable about
    have same := Url.withSegments_inj.1 (Except.ok.inj (goes'.symm.trans goes))
    exact lost (Url.Segments.plain_of_named rooted behind (same.trans (listed e' tail)) spells.decoded)
  · intro c d name other tail tail' about about' plain plain' apart u v hu hv same
    cases hu.symm.trans (named about plain)
    cases hv.symm.trans (named about' plain')
    have spells := spells_encodeSegment (Url.isSpecial k.base.scheme) plain
    have spells' := spells_encodeSegment (Url.isSpecial k.base.scheme) plain'
    obtain ⟨start, begins⟩ := Url.Segments.exists_pathText k.base.authority.isSome (stem base)
    have texts := List.append_cancel_left (((begins _).symm.trans same).trans (begins _))
    have segments := Url.Segments.eq_of_text_cons spells.one.1 spells'.one.1 texts
    have decoded := spells.decoded
    rw [segments, spells'.decoded] at decoded
    exact apart (String.toList_inj.1 (Option.some.inj decoded).symm)

/-- A client of a server behind a path. -/
def proxied : Client where
  base := ⟨"http".toList, some ⟨[], [], .ipv6 [0, 0, 0, 0, 0, 0, 0, 1], some 6333⟩, .segments ["vector-db".toList], none,
    none⟩
  apiKey := none

theorem slash_within_name_spelled : ∃ s, ofSettings s = .ok proxied ∧
    proxied.base.path = .segments ["vector-db".toList] ∧
    (∃ e, Spells e "docs/v2" ∧ proxied.endpoint (.placement "docs/v2") = .ok (proxied.base.withSegments
      ["vector-db".toList, "collections".toList, e, "cluster".toList])) ∧
    (proxied.endpoint (.placement "docs/v2")).map Url.text =
      .ok "http://[::1]:6333/vector-db/collections/docs%2Fv2/cluster" ∧
    ¬ ∃ e, Spells e "." ∧ proxied.endpoint (.placement ".") = .ok (proxied.base.withSegments
      ["vector-db".toList, "collections".toList, e, "cluster".toList]) := by
  have built : ofSettings { ConnectionSettings.default with url := "http://[::1]:6333/vector-db/" } = .ok proxied := rfl
  obtain ⟨e, spelled, lost, -⟩ := paths_spell_names built rfl
  have plain : Plain "docs/v2".toList := ⟨by decide, by decide, by simp [Url.Segments.isLineBreakOrTab]⟩
  have dot : ¬ Plain ".".toList := fun plain => plain.noDot rfl
  obtain ⟨spells, goes⟩ := spelled (.placement "docs/v2") _ _ rfl plain
  exact ⟨_, built, rfl, ⟨e "docs/v2", spells, goes⟩, rfl, lost (.placement ".") _ _ rfl dot⟩

end Http.Client
end ShardBalance
