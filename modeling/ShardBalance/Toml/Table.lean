import ShardBalance.Toml.Basic

/-!
Tables as a document builds them. A table is closed once it stands under a header or is written as a
value; tables that only came about on the way to others stay open, those of dotted keys for dotted keys.
A dotted key may lead on through the last table under a repeated header.
-/

namespace ShardBalance.Toml

inductive Origin where
  /-- On the way to a table with a header. -/
  | passing
  /-- Through a dotted key. -/
  | dotted
  | header
  deriving DecidableEq

inductive Node where
  | value (v : Toml)
  | table (origin : Origin) (entries : List (String × Node))
  /-- Tables under a repeated header, the last one first. -/
  | tables (last : List (String × Node)) (before : List Node)

namespace Node

abbrev Entries := List (String × Node)

def set (entries : Entries) (key : String) (n : Node) : Entries :=
  if entries.any (·.1 == key) then entries.map fun e => if e.1 == key then (key, n) else e
  else entries ++ [(key, n)]

/-- Binds a dotted key, given as the keys before the last one and the last. -/
def bindKey? (value : Toml) (key : String) : (path : List String) → Entries → Option Entries
  | [], entries =>
    if (entries.lookup key).isSome then none else some (entries ++ [(key, .value value)])
  | k :: path, entries =>
    match entries.lookup k with
    | none => (bindKey? value key path []).map fun inner => set entries k (.table .dotted inner)
    | some (.table .dotted inner) =>
      (bindKey? value key path inner).map fun inner => set entries k (.table .dotted inner)
    | some (.table .passing inner) =>
      if path.isEmpty then none
      else (bindKey? value key path inner).map fun inner => set entries k (.table .passing inner)
    | some (.tables last before) =>
      if path.isEmpty then none
      else (bindKey? value key path last).map fun last => set entries k (.tables last before)
    | some _ => none

/-- Changes the table at the end of a path, making the tables on the way. -/
def atPath? (change : Entries → Option Entries) : (path : List String) → Entries → Option Entries
  | [], entries => change entries
  | k :: path, entries =>
    match entries.lookup k with
    | none => (atPath? change path []).map fun inner => set entries k (.table .passing inner)
    | some (.table origin inner) =>
      (atPath? change path inner).map fun inner => set entries k (.table origin inner)
    | some (.tables last before) =>
      (atPath? change path last).map fun last => set entries k (.tables last before)
    | some (.value _) => none

def openHeader? (fill : Entries → Option Entries) (key : String) (entries : Entries) : Option Entries :=
  match entries.lookup key with
  | none => (fill []).map fun inner => set entries key (.table .header inner)
  | some (.table .passing inner) => (fill inner).map fun inner => set entries key (.table .header inner)
  | some _ => none

def repeatHeader? (fill : Entries → Option Entries) (key : String) (entries : Entries) : Option Entries :=
  match entries.lookup key with
  | none => (fill []).map fun inner => set entries key (.tables inner [])
  | some (.tables last before) =>
    (fill []).map fun inner => set entries key (.tables inner (.table .header last :: before))
  | some _ => none

mutual

def toToml : Node → Toml
  | .value v => v
  | .table _ entries => .table (entriesToToml entries)
  | .tables last before => .array ((itemsToToml before).reverse ++ [.table (entriesToToml last)])

def entriesToToml : List (String × Node) → List (String × Toml)
  | [] => []
  | (k, n) :: l => (k, toToml n) :: entriesToToml l

def itemsToToml : List Node → List Toml
  | [] => []
  | n :: l => toToml n :: itemsToToml l

end

end Node
end ShardBalance.Toml
