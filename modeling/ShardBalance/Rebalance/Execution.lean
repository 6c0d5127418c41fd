import ShardBalance.Outcome
import ShardBalance.Procedure

/-!
Making the transfers of a plan, one after the other, up to the first that does not succeed.
-/

namespace ShardBalance.Rebalance

inductive Stop where
  /-- The cluster did not take it. -/
  | rejected (status : String)
  /-- `sent` tells whether the cluster may have got it. -/
  | cancelled (sent : Bool)
  | failed (f : Failure)
  deriving DecidableEq, Repr

namespace Stop

def status : Stop → String
  | rejected status => status
  | cancelled _ => Failure.cancelled.status
  | failed f => f.status

def detail (t : Transfer) : Stop → String
  | rejected status => s!"Cluster did not acknowledge {t.text}: {status}"
  | cancelled true => s!"Cancelled while waiting for {t.text}; its outcome is unknown"
  | cancelled false => s!"Cancelled before {t.text}"
  | failed f => s!"Failed to {t.text}: {f.message}"

def reason : Stop → String
  | rejected _ => "rejected"
  | cancelled _ => Failure.cancelled.label
  | failed f => f.label

def sent : Stop → Bool
  | cancelled sent => sent
  | _ => true

def ofAnswer : Except Failure Acknowledgement → Option Stop
  | .ok a => if a.accepted then none else some (rejected a.status)
  | .error .cancelled => some (cancelled true)
  | .error f => some (failed f)

end Stop

/-- Sends one transfer; none if it was taken. -/
def issue (t : Transfer) : Procedure (Option Stop) := do
  if ← Procedure.isCancelled then return some (.cancelled false)
  Procedure.note (.issuing t)
  let answer ← Procedure.call (.update t.collection t.operation)
  Procedure.measure .requestTimed
  match Stop.ofAnswer answer with
  | none =>
    Procedure.measure (.issued t.collection t.kind)
    Procedure.note (.issued t)
    return none
  | some stop =>
    Procedure.measure (.failed t.collection stop.reason)
    return some stop

/-- How many transfers were sent, and where and why it ended before the last. -/
structure Issued where
  count : Nat
  stop : Option (Transfer × Stop)

def issueAll : List Transfer → Procedure Issued
  | [] => return ⟨0, none⟩
  | t :: rest => do
    match ← issue t with
    | none =>
      let more ← issueAll rest
      return { more with count := more.count + 1 }
    | some stop => return ⟨if stop.sent then 1 else 0, some (t, stop)⟩

def dryRun (p : Plan) : Procedure Outcome := do
  Procedure.noteAll (p.transfers.map .wouldMake)
  return .succeeded s!"Dry run: {p.size} transfers planned" p.size 0

def execute (p : Plan) : Procedure Outcome := do
  if p.transfers.isEmpty then
    Procedure.note (.nothingToDo p.goal)
    return .succeeded "No transfers needed" 0 0
  else
    let issued ← issueAll p.transfers
    match issued.stop with
    | none =>
      Procedure.note (.executed issued.count)
      return .succeeded s!"Executed {issued.count} transfers" p.size issued.count
    | some (t, stop) =>
      Procedure.note (.stopped (stop.detail t) issued.count p.size)
      return .failed stop.status (stop.detail t) p.size issued.count

end ShardBalance.Rebalance
