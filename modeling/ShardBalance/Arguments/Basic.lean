/-!
The words of a command line, told apart into options and operands. A word is looked at when the next one
begins, so of two mistakes the first one counts, and a request for help after a mistake is too late.
-/

namespace ShardBalance.Arguments

inductive Stop where
  | misuse | help | version
  deriving DecidableEq, Repr

inductive Effect where
  /-- Stands alone, once. -/
  | flag
  /-- Takes a value, once. -/
  | value
  /-- Takes a value each time. -/
  | values
  | stop (s : Stop)
  deriving DecidableEq, Repr

/-- An option; `κ` names what it sets. -/
structure Opt (κ : Type) where
  key : κ
  long : String
  short : Option Char
  effect : Effect
  accepts : String → Bool

/-- A place for a word that belongs to no option. -/
structure Operand (κ : Type) where
  key : κ
  accepts : String → Bool

structure Shape (κ : Type) where
  options : List (Opt κ)
  operands : List (Operand κ)

/-- What was given, in order; a flag gives the empty text. -/
abbrev Given (κ : Type) := List (κ × String)

section

variable {κ : Type} [DecidableEq κ]

namespace Given

def value? (g : Given κ) (key : κ) : Option String := g.lookup key

def values (g : Given κ) (key : κ) : List String := (g.filter (·.1 = key)).map (·.2)

def has (g : Given κ) (key : κ) : Bool := (g.value? key).isSome

end Given

/-- A word that was read and not yet looked at. -/
inductive Pending (κ : Type) where
  | nothing
  /-- An option and its value, if that has come. -/
  | option (o : Opt κ) (value : Option String)
  | operand (o : Operand κ) (value : String)

structure Reading (κ : Type) where
  given : Given κ
  pending : Pending κ
  operands : List (Operand κ)
  /-- Whether two hyphens have ended the options. -/
  literal : Bool

namespace Reading

def start (s : Shape κ) : Reading κ := ⟨[], .nothing, s.operands, false⟩

def awaiting? (r : Reading κ) : Option (Opt κ) :=
  match r.pending with
  | .option o none => some o
  | _ => none

def add (r : Reading κ) (o : Opt κ) (value : String) : Except Stop (Reading κ) :=
  if (o.effect = .values ∨ !r.given.has o.key) ∧ o.accepts value then
    .ok { r with given := r.given ++ [(o.key, value)], pending := .nothing }
  else .error .misuse

/-- Looks at the word that was left pending. -/
def settle (r : Reading κ) : Except Stop (Reading κ) :=
  match r.pending with
  | .nothing => .ok r
  | .option _ none => .error .misuse
  | .option o (some v) => r.add o v
  | .operand o v =>
    if o.accepts v then .ok { r with given := r.given ++ [(o.key, v)], pending := .nothing }
    else .error .misuse

def option (o : Opt κ) (attached : Option String) (r : Reading κ) : Except Stop (Reading κ) :=
  match o.effect, attached with
  | .flag, none => do (← r.settle).add o ""
  | .stop s, none => do
    let _ ← r.settle
    throw s
  | .value, some v | .values, some v => do (← r.settle).add o v
  | .value, none | .values, none => do return { ← r.settle with pending := .option o none }
  | _, some _ => throw .misuse

def splitName (s : List Char) : List Char × Option String :=
  match s.dropWhile (· ≠ '=') with
  | [] => (s, none)
  | _ :: value => (s.takeWhile (· ≠ '='), some (String.ofList value))

def longOption (s : Shape κ) (word : List Char) (r : Reading κ) : Except Stop (Reading κ) :=
  let (name, attached) := splitName word
  match s.options.find? (·.long.toList = name) with
  | some o => r.option o attached
  | none => .error .misuse

def attachedValue : List Char → Option String
  | [] => none
  | '=' :: value => some (String.ofList value)
  | value => some (String.ofList value)

/-- Short options written together; the first that takes a value takes the rest of the word. -/
def shortOptions (s : Shape κ) : List Char → Reading κ → Except Stop (Reading κ)
  | [], r => .ok r
  | c :: rest, r =>
    match s.options.find? (·.short = some c) with
    | none => .error .misuse
    | some o =>
      match o.effect with
      | .value | .values => r.option o (attachedValue rest)
      | _ => do shortOptions s rest (← r.option o none)

def operand (word : String) (r : Reading κ) : Except Stop (Reading κ) :=
  match r.operands with
  | [] => .error .misuse
  | o :: rest => do return { ← r.settle with pending := .operand o word, operands := rest }

/-- A word that is no option: the value of the option before it, or an operand. -/
def plain (word : String) (r : Reading κ) : Except Stop (Reading κ) :=
  match r.awaiting? with
  | some o => .ok { r with pending := .option o (some word) }
  | none => r.operand word

def word (s : Shape κ) (w : String) (r : Reading κ) : Except Stop (Reading κ) :=
  if r.literal then r.operand w
  else
    match w.toList with
    | ['-', '-'] => .ok { r with literal := true }
    | '-' :: '-' :: rest => r.longOption s rest
    | '-' :: c :: rest => r.shortOptions s (c :: rest)
    | _ => r.plain w

/-- Whether a word at this place may be the name of a command. -/
def takesCommand (r : Reading κ) : Bool := !r.literal && r.awaiting?.isNone

end Reading

def read (s : Shape κ) (words : List String) : Except Stop (Given κ) := do
  let r ← words.foldlM (fun r w => r.word s w) (Reading.start s)
  return (← r.settle).given

/-- Reads the words before a command; gives also the command and the words after it. -/
def readBefore {γ : Type} (s : Shape κ) (command? : String → Option γ) :
    List String → Reading κ → Except Stop (Reading κ × γ × List String)
  | [], r => do
    let _ ← r.settle
    throw .misuse
  | w :: rest, r =>
    match (if r.takesCommand then command? w else none) with
    | some c => .ok (r, c, rest)
    | none => do readBefore s command? rest (← r.word s w)

end

end ShardBalance.Arguments
