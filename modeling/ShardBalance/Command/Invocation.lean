import ShardBalance.Arguments.Basic
import ShardBalance.Command.Basic
import ShardBalance.Settings

/-!
Commands as they are written on a command line, and the options that all of them share.
-/

namespace ShardBalance

inductive Key where
  | url | apiKey | config | help | version
  | first | second | collections | respectFactor | dryRun | json
  deriving DecidableEq, Repr

inductive Verb where
  | replicate | drain | equalize | isEmpty | peer | peers
  deriving DecidableEq, Repr

namespace Verb

def all : List Verb := [replicate, drain, equalize, isEmpty, peer, peers]

def name : Verb → String
  | replicate => "replicate"
  | drain => "drain"
  | equalize => "equalize"
  | isEmpty => "is-empty"
  | peer => "peer"
  | peers => "peers"

def ofName? (s : String) : Option Verb := all.find? (·.name = s)

end Verb

namespace Key

open Arguments

/-- The long name of an option; operands are not written with theirs. -/
def long : Key → String
  | url => "url"
  | apiKey => "api-key"
  | config => "config"
  | help => "help"
  | version => "version"
  | collections => "collection"
  | respectFactor => "respect-replication-factor"
  | dryRun => "dry-run"
  | json => "json"
  | first => "first"
  | second => "second"

def short? : Key → Option Char
  | collections => some 'c'
  | help => some 'h'
  | version => some 'V'
  | _ => none

def effect : Key → Effect
  | respectFactor | dryRun | json => .flag
  | collections => .values
  | help => .stop .help
  | version => .stop .version
  | _ => .value

/-- The path of a settings file may not be empty, and operands have to be selectors. -/
def accepts (k : Key) (value : String) : Bool :=
  match k with
  | config => !value.isEmpty
  | first | second => (Selector.parse value).isOk
  | _ => true

def toOpt (k : Key) : Opt Key := ⟨k, k.long, k.short?, k.effect, k.accepts⟩

def toOperand (k : Key) : Operand Key := ⟨k, k.accepts⟩

end Key

namespace Verb

/-- Options that may stand before the command as well as after it. -/
def shared : List Key := [.url, .apiKey, .config, .help]

def options : Verb → List Key
  | replicate => [.collections, .respectFactor, .dryRun, .json]
  | drain | equalize => [.collections, .dryRun, .json]
  | isEmpty => []
  | peer | peers => [.json]

def operands : Verb → List Key
  | equalize => [.first, .second]
  | peers => []
  | _ => [.first]

def shape (v : Verb) : Arguments.Shape Key :=
  ⟨(v.options ++ shared).map Key.toOpt, v.operands.map Key.toOperand⟩

open Arguments

def selector? (g : Given Key) (k : Key) : Option Selector :=
  (g.value? k).bind fun s => (Selector.parse s).toOption

def style (g : Given Key) : Style := if g.has .json then .json else .plain

def conduct (g : Given Key) : Conduct := ⟨g.has .dryRun, style g⟩

/-- The command that was given, unless something is missing. -/
def command? (g : Given Key) : Verb → Option Command
  | replicate => do
    return .replicate (← selector? g .first) (g.values .collections) (g.has .respectFactor) (conduct g)
  | drain => do return .drain (← selector? g .first) (g.values .collections) (conduct g)
  | equalize => do
    let source ← selector? g .first
    let target ← selector? g .second
    guard (g.has .collections)
    return .equalize source target (g.values .collections) (conduct g)
  | isEmpty => do return .isEmpty (← selector? g .first)
  | peer => do return .peer (← selector? g .first) (style g)
  | peers => some (.peers (style g))

end Verb

/-- What a program takes from its surroundings where the command line is silent. -/
structure Environment where
  url : Option String
  apiKey : Option String

structure Invocation where
  url : Option String
  apiKey : Option String
  config : Option String
  command : Command

namespace Invocation

open Arguments

inductive Diversion where
  | misuse
  /-- Explains a command, the command that explains commands, or the whole. -/
  | help (topic : Option (Option Verb))
  | version
  deriving DecidableEq, Repr

/-- The words before a command, or before the word `help`. -/
def topShape : Shape Key := ⟨(Verb.shared ++ [Key.version]).map Key.toOpt, []⟩

/-- The commands, and the one that explains them. -/
def verb? (word : String) : Option (Option Verb) :=
  if word = "help" then some none else (Verb.ofName? word).map some

def Diversion.ofStop (topic : Option (Option Verb)) : Stop → Diversion
  | .misuse => misuse
  | .help => help topic
  | .version => version

def explain : List String → Diversion
  | [] => .help none
  | [word] =>
    match verb? word with
    | some topic => .help (some topic)
    | none => .misuse
  | _ => .misuse

/-- Reads a command line. A value after the command wins over one before it, and the environment comes
last. -/
def read (env : Environment) (words : List String) : Except Diversion Invocation := do
  let (before, verb, rest) ← (readBefore topShape verb? words (.start topShape)).mapError (.ofStop none)
  match verb with
  | none => throw (explain rest)
  | some v =>
    let after ← (Arguments.read v.shape rest).mapError (.ofStop (some (some v)))
    match v.command? after with
    | none => throw .misuse
    | some command =>
      let before ← before.settle.mapError (.ofStop none)
      let value (k : Key) : Option String := after.value? k <|> before.given.value? k
      return ⟨value .url <|> env.url, value .apiKey <|> env.apiKey, value .config, command⟩

end Invocation
end ShardBalance
