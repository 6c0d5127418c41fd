import ShardBalance.Json.Decode

/-!
The envelope around every answer of a cluster.
-/

namespace ShardBalance

/-- A plain status, or an error in its place. -/
inductive Status where
  | plain (text : String)
  | error (message : String)
  deriving DecidableEq, Repr

namespace Status

def text : Status → String
  | plain s => s
  | error s => s

def error? : Status → Option String
  | plain _ => none
  | error s => some s

def json : Status → Json
  | plain s => .text s
  | error s => .record [("error", .text s)]

/-- A text, or an object with an error; what else the object holds has to be readable. -/
def ofJson? (depth : Nat) (v : Json) : Option Status :=
  if v.readable depth then
    match v with
    | .string s => s.text?.map plain
    | .object members => do
      let f ← (Json.named? members).bind (Fields.ofMembers? ["error"])
      return error (← f.required "error" Json.text?)
    | _ => none
  else none

end Status

/-- How deep containers may be nested where they are read. -/
def Json.depthLimit : Nat := 127

structure Envelope (α : Type) where
  result : Option α
  status : Status
  /-- Seconds that the cluster needed. -/
  time : Float

namespace Envelope

variable {α : Type}

def ofJson? (read : Json → Option α) (v : Json) : Option (Envelope α) := do
  let f ← v.fields? ["result", "status", "time"]
  return {
    result := ← f.ifNamed "result" (Json.option? read)
    status := ← f.orElse "status" (.plain "ok") (Status.ofJson? (Json.depthLimit - 1))
    time := ← f.orElse "time" 0 Json.float? }

def anyResult? (v : Json) : Option Json :=
  if v.readable (Json.depthLimit - 1) then some v else none

end Envelope
end ShardBalance
