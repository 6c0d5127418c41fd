import ShardBalance.Text.Decimal
import ShardBalance.Toml.Parser
import ShardBalance.Wire.Fields

/-!
Reading values of other types out of TOML.
-/

namespace ShardBalance.Toml

def string? : Toml → Option String
  | .text s => some s
  | _ => none

def bool? : Toml → Option Bool
  | .bool b => some b
  | _ => none

def word64? : Toml → Option UInt64
  | .integer (.ofNat n) => Text.word64? n
  | _ => none

/-- A record with the given fields: a table, or an array of their values. A date counts as a table
without any of them. -/
def fields? (names : List String) : Toml → Option (Fields Toml)
  | .table entries => Fields.ofMembers? names entries
  | .array items => Fields.ofItems? names (items.take names.length)
  | .date => Fields.ofMembers? names []
  | _ => none

/-- A name out of several: a text, or a table that binds it to nothing. -/
def choice? : Toml → Option String
  | .text s => some s
  | .table [(name, .table [])] | .table [(name, .array [])] => some name
  | _ => none

end ShardBalance.Toml
