import ShardBalance.Command.Basic
import ShardBalance.Json.Printer
import ShardBalance.Wire.Outcome
import ShardBalance.Wire.Resolved

/-!
What a user gets to read.
-/

namespace ShardBalance

def Goal.title : Goal → String
  | replicate => "Replicate"
  | drain => "Drain"
  | equalize => "Equalize"

def Outcome.lines (o : Outcome) (goal : Goal) (dry : Bool) (elapsed : Duration) : List String :=
  let mark := if dry then "[dry run] " else ""
  let verdict := if o.success then "succeeded" else "failed"
  [s!"{mark}{goal.title} {verdict}: {o.status}", s!"Transfers: {o.planned} planned, {o.issued} issued",
    s!"Elapsed:   {elapsed.hundredths}s"] ++ o.error.toList.map fun e => s!"Error:     {e}"

namespace PeerTable

def ruleLine : String := String.ofList (List.replicate 60 '-')

def row (first second : String) : String := String.ofList (first.toList.rightpad 22 ' ') ++ " " ++ second

/-- The peers and their addresses, with a star after those that are marked. -/
def lines (t : PeerTable) (marked : PeerId → Bool) : List String :=
  row "PEER" "ADDRESS" :: ruleLine ::
    t.entries.map fun e => row (toString e.1) (e.2 ++ if marked e.1 then " *" else "")

end PeerTable

namespace Finding

def lines (elapsed : Duration) : Finding → List String
  | outcome goal o ⟨dry, .plain⟩ => o.lines goal dry elapsed
  | outcome _ o ⟨_, .json⟩ => [(TimedOutcome.mk o elapsed).json.pretty]
  | emptiness b => [if b then "true" else "false"]
  | peer r .plain => s!"Peer {r.peer} at {r.address}" :: "" :: PeerTable.lines r.table (· = r.peer)
  | peer r .json => [r.json.pretty]
  | peers r .plain => PeerTable.lines r.peers (some · = r.reporter)
  | peers r .json => [r.json.pretty]

/-- What makes a run with this finding a failed one. -/
def failure? : Finding → Option String
  | outcome goal o _ => if o.success then none else some s!"{goal.title} failed: {o.status}"
  | _ => none

end Finding

structure Ending where
  output : String
  failure : Option String
  deriving DecidableEq, Repr

/-- How a run ends that took some time and found something, or failed before it could. -/
def Ending.of (elapsed : Duration) : Except Failure Finding → Ending
  | .ok f => ⟨String.join ((f.lines elapsed).map (· ++ "\n")), f.failure?⟩
  | .error e => ⟨"", some e.message⟩

end ShardBalance
