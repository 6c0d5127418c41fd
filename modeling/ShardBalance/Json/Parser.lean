import ShardBalance.Json.Lexer

/-!
Reading JSON. Tokens are taken one after the other, with the containers that are still open on a stack,
so a value may be nested to any depth.
-/

namespace ShardBalance.Json

/-- A container that waits for a value, with what it holds so far, last first. -/
inductive Frame where
  | items (before : List Json)
  | member (before : List (Quoted × Json)) (name : Quoted)

/-- What may come next, within the containers of a stack. -/
inductive Progress where
  | value (stack : List Frame)
  | firstItem (stack : List Frame)
  | afterItem (items : List Json) (stack : List Frame)
  | firstName (stack : List Frame)
  | name (members : List (Quoted × Json)) (stack : List Frame)
  | afterName (members : List (Quoted × Json)) (name : Quoted) (stack : List Frame)
  | afterMember (members : List (Quoted × Json)) (stack : List Frame)
  | complete (v : Json)

namespace Progress

/-- A value that has come to its end goes into the innermost container. -/
def plug (v : Json) : List Frame → Progress
  | [] => complete v
  | .items before :: stack => afterItem (v :: before) stack
  | .member before k :: stack => afterMember ((k, v) :: before) stack

def begin (stack : List Frame) : Token → Option Progress
  | .null => some (plug .null stack)
  | .bool b => some (plug (.bool b) stack)
  | .number n => some (plug (.number n) stack)
  | .string s => some (plug (.string s) stack)
  | .openArray => some (firstItem stack)
  | .openObject => some (firstName stack)
  | _ => none

def step : Progress → Token → Option Progress
  | value stack, t => begin stack t
  | firstItem stack, .closeArray => some (plug (.array []) stack)
  | firstItem stack, t => begin (.items [] :: stack) t
  | afterItem items stack, .comma => some (value (.items items :: stack))
  | afterItem items stack, .closeArray => some (plug (.array items.reverse) stack)
  | firstName stack, .closeObject => some (plug (.object []) stack)
  | firstName stack, .string k => some (afterName [] k stack)
  | .name members stack, .string k => some (afterName members k stack)
  | afterName members k stack, .colon => some (value (.member members k :: stack))
  | afterMember members stack, .comma => some (name members stack)
  | afterMember members stack, .closeObject => some (plug (.object members.reverse) stack)
  | _, _ => none

/-- How far tokens lead before the first that may not come. -/
def furthest (p : Progress) : List Token → Progress
  | [] => p
  | t :: ts =>
    match p.step t with
    | none => p
    | some q => furthest q ts

/-- The container that encloses all others of a stack, with what has come to an end in it. -/
def enclosing : List Frame → Option Json
  | [] => none
  | [.items before] => some (.array before.reverse)
  | [.member before _] => some (.object before.reverse)
  | _ :: stack => enclosing stack

/-- What has come to an end so far, in the outermost container. -/
def soFar : Progress → Option Json
  | complete v => some v
  | value stack | firstItem stack | firstName stack => enclosing stack
  | afterItem items stack => enclosing (.items items :: stack)
  | .name members stack | afterMember members stack => enclosing (.member members ⟨[]⟩ :: stack)
  | afterName members k stack => enclosing (.member members k :: stack)

end Progress

def ofTokens? (ts : List Token) : Option Json := do
  match ← ts.foldlM Progress.step (.value []) with
  | .complete v => some v
  | _ => none

def parse (s : String) : Option Json := (lex s.toList).bind ofTokens?

/-- The value at the head of a text, or as much of it as stands before the first fault: the items or members
of the outermost container that have come to an end. -/
def parseHead (s : String) : Option Json := ((Progress.value []).furthest (scan s.toList).1).soFar

end ShardBalance.Json
