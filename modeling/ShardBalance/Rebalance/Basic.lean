import ShardBalance.Rebalance.Execution
import ShardBalance.Rebalance.Planning

/-!
Compound operations: a plan, and its execution. Failures that any run may meet become outcomes; the
caller's mistakes are raised.
-/

namespace ShardBalance.Rebalance

def carryOut (p : Plan) (dry : Bool) : Procedure Outcome := if dry then dryRun p else execute p

def Request.run (settings : TransferSettings) (dry : Bool) (r : Request) :
    Procedure (Except Failure Outcome) := do
  match ← (r.plan settings).run with
  | .ok plan =>
    Procedure.measure (.planned r.goal plan.size)
    let outcome ← carryOut plan dry
    Procedure.measure (.completed r.goal outcome.success)
    return .ok outcome
  | .error f =>
    if f.isFatal then
      Procedure.measure (.completed r.goal false)
      return .error f
    else
      Procedure.note (.planningFailed r.goal f)
      Procedure.measure (.completed r.goal false)
      return .ok (.failed f.status f.message 0 0)

end ShardBalance.Rebalance
