import ShardBalance.Command.Invocation

/-!
Explanations of the commands and their options.
-/

namespace ShardBalance.Help

structure Item where
  usage : String
  purpose : String

def rightpad (width : Nat) (s : String) : String := String.ofList (s.toList.rightpad width ' ')

/-- Whether some purpose does not fit into a hundred columns beside usages that take up more than forty. -/
def isCramped (margin width : Nat) (items : List Item) : Bool :=
  40 < margin + width && items.any fun i => 100 < margin + width + i.purpose.length

/-- Usages with their purposes beside them, or below where that would be cramped. -/
def listing (margin : Nat) (items : List Item) : List String :=
  let width := (items.map (·.usage.length)).foldl max 0
  if isCramped margin width items then items.flatMap fun i => ["  " ++ i.usage, "          " ++ i.purpose]
  else items.map fun i => "  " ++ rightpad (width + 2) i.usage ++ i.purpose

def placeholder (v : Option Verb) : Key → Option String
  | .url => some "<URL>"
  | .apiKey => some "<API_KEY>"
  | .config => some "<CONFIG>"
  | .collections => some "<COLLECTIONS>"
  | .first =>
    match v with
    | some .replicate => some "<TARGET>"
    | some .drain | some .equalize => some "<SOURCE>"
    | some .isEmpty => some "<PEER>"
    | _ => some "<SELECTOR>"
  | .second => some "<EMPTY_TARGET>"
  | _ => none

def optionUsage (k : Key) : String :=
  let short := match k.short? with
    | some c => s!"-{c}, "
    | none => "    "
  short ++ "--" ++ k.long ++ ((placeholder none k).map (" " ++ ·)).getD ""

def selectorPurpose (kind : String) : String :=
  kind ++ " id or address substring (`id:` / `addr:` to force either)"

def purpose (env : Environment) (v : Option Verb) : Key → String
  | .url => "Cluster HTTP API URL (any peer) [env: QUIVER_URL=" ++ env.url.getD "" ++ "]"
  | .apiKey => "API key sent with every request [env: QUIVER_API_KEY]"
  | .config => "Config file (default: ~/.quiver/config.toml)"
  | .help => "Print help"
  | .version => "Print version"
  | .collections =>
    if v = some .equalize then "Collections to equalize (repeatable)"
    else "Limit to these collections (repeatable; default: all)"
  | .respectFactor => "Skip shards that already reached the collection's replication factor"
  | .dryRun => "Only print the planned transfers"
  | .json => if v = some .peer ∨ v = some .peers then "Print as JSON" else "Print the outcome as JSON"
  | .first =>
    match v with
    | some .replicate => selectorPurpose "Target peer"
    | some .drain => selectorPurpose "Source peer"
    | some .equalize => selectorPurpose "Populated peer"
    | _ => selectorPurpose "Peer"
  | .second => selectorPurpose "Empty peer"

def verbPurpose : Verb → String
  | .replicate => "Replicate every shard a peer is missing onto it"
  | .drain => "Move every shard off a peer onto the remaining peers"
  | .equalize => "Replicate shards onto an empty peer until it matches a populated one"
  | .isEmpty => "Check whether a peer holds no shards at all"
  | .peer => "Resolve a peer selector and show the peer table"
  | .peers => "List all peers of the cluster"

def explainPurpose : String := "Print this message or the help of the given subcommand(s)"

/-- Own options and shared ones in turn; of two at the same place, the one that comes first by its letter
or name. -/
def ordered (v : Verb) : List Key :=
  let own := v.options.zipIdx
  let shared := (Verb.shared.filter (· ≠ .help)).zipIdx
  let name (k : Key) : String := (k.short?.map Char.toString).getD k.long
  let before (a b : Key × Nat) : Bool := a.2 < b.2 || (a.2 = b.2 && name a.1 ≤ name b.1)
  ((own ++ shared).mergeSort before).map (·.1) ++ [.help]

def options (env : Environment) (v : Option Verb) (keys : List Key) : List String :=
  "Options:" :: listing 12 (keys.map fun k => ⟨optionUsage k, purpose env v k⟩)

def whole (env : Environment) : List String :=
  let commands := Verb.all.map (fun v => Item.mk v.name (verbPurpose v)) ++ [⟨"help", explainPurpose⟩]
  ["Quiver CLI - shard rebalancing for vector search clusters", "", "Usage: quiver [OPTIONS] <COMMAND>", "",
      "Commands:"] ++
    listing 0 commands ++ [""] ++ options env none [.url, .apiKey, .config, .help, .version]

def explaining : List String :=
  [explainPurpose, "", "Usage: quiver help [COMMAND]...", "", "Arguments:"] ++
    listing 12 [⟨"[COMMAND]...", "Print help for the subcommand(s)"⟩]

/-- How a command is written, with the options that it cannot do without. -/
def usage (v : Verb) : String :=
  let needed := if v = .equalize then " --collection <COLLECTIONS>" else ""
  let operands := v.operands.filterMap (placeholder v)
  s!"Usage: quiver {v.name} [OPTIONS]{needed}" ++ String.join (operands.map (" " ++ ·))

def ofVerb (env : Environment) (v : Verb) : List String :=
  let operands := v.operands.filterMap fun k => (placeholder v k).map (Item.mk · (purpose env v k))
  [verbPurpose v, "", usage v, ""] ++
    (if operands.isEmpty then [] else "Arguments:" :: listing 12 operands ++ [""]) ++
    options env v (ordered v)

def text (env : Environment) (topic : Option (Option Verb)) : String :=
  let lines := match topic with
    | none => whole env
    | some none => explaining
    | some (some v) => ofVerb env v
  String.join (lines.map (· ++ "\n"))

def version : String := "quiver 0.6.5\n"

end ShardBalance.Help
