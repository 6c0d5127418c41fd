import ShardBalance.Json.Parser
import ShardBalance.Text.Decimal
import ShardBalance.Wire.Fields

/-!
Reading values of other types out of JSON.
-/

namespace ShardBalance.Json

variable {α : Type}

def text? : Json → Option String
  | .string s => s.text?
  | _ => none

@[simp] theorem text?_text (s : String) : (text s).text? = some s := Quoted.text?_ofText s

def nat? : Json → Option Nat
  | .number n => n.nat?
  | _ => none

def word64? (v : Json) : Option UInt64 := v.nat?.bind Text.word64?

def word32? (v : Json) : Option UInt32 := v.nat?.bind Text.word32?

def word64 (w : UInt64) : Json := nat w.toNat

def word32 (w : UInt32) : Json := nat w.toNat

@[simp] theorem word64?_word64 (w : UInt64) : (word64 w).word64? = some w := by
  simp [word64?, word64, nat, nat?]

@[simp] theorem word32?_word32 (w : UInt32) : (word32 w).word32? = some w := by
  simp [word32?, word32, nat, nat?]

def bool? : Json → Option Bool
  | .bool b => some b
  | _ => none

def float? : Json → Option Float
  | .number n => n.float?
  | _ => none

def option? (read : Json → Option α) : Json → Option (Option α)
  | .null => some none
  | v => (read v).map some

def list? (read : Json → Option α) : Json → Option (List α)
  | .array items => items.mapM read
  | _ => none

def list (write : α → Json) (l : List α) : Json := .array (l.map write)

/-- The members of an object by name; every name must be readable. -/
def named? (members : List (Quoted × Json)) : Option (List (String × Json)) :=
  members.mapM fun m => m.1.text?.map (·, m.2)

/-- A record with the given fields: an object, or an array of their values. -/
def fields? (names : List String) : Json → Option (Fields Json)
  | .object members => (named? members).bind (Fields.ofMembers? names)
  | .array items => Fields.ofItems? names items
  | _ => none

/-- A name out of several: a text, or an object that binds it to `null`. -/
def choice? : Json → Option String
  | .string s => s.text?
  | .object [(name, .null)] => name.text?
  | _ => none

namespace Quoted

/-- A number that is the name of a member. -/
def word64? (q : Quoted) : Option UInt64 :=
  match Numeral.read? q.chars with
  | some (n, []) => n.nat?.bind Text.word64?
  | _ => none

def ofWord64 (w : UInt64) : Quoted := ⟨Nat.toDigits 10 w.toNat⟩

end Quoted

mutual

/-- Whether a value can be read in full: its texts are texts, its numbers are not too large, and its
containers are nested at most `depth` deep. -/
def readable (depth : Nat) : Json → Bool
  | .number n => n.float?.isSome
  | .string s => s.text?.isSome
  | .array items => depth != 0 && itemsReadable (depth - 1) items
  | .object members => depth != 0 && membersReadable (depth - 1) members
  | _ => true

def itemsReadable (depth : Nat) : List Json → Bool
  | [] => true
  | v :: l => readable depth v && itemsReadable depth l

def membersReadable (depth : Nat) : List (Quoted × Json) → Bool
  | [] => true
  | (k, v) :: l => k.text?.isSome && readable depth v && membersReadable depth l

end

end ShardBalance.Json
