import ShardBalance.Rebalance.Basic

/-!
What a user can ask for, and what is found out then.
-/

namespace ShardBalance

inductive Style where
  | plain | json
  deriving DecidableEq, Repr

structure Conduct where
  dry : Bool
  style : Style
  deriving DecidableEq, Repr

inductive Command where
  | replicate (target : Selector) (collections : List String) (respectFactor : Bool) (how : Conduct)
  | drain (source : Selector) (collections : List String) (how : Conduct)
  | equalize (source target : Selector) (collections : List String) (how : Conduct)
  | isEmpty (peer : Selector)
  | peer (s : Selector) (style : Style)
  | peers (style : Style)
  deriving DecidableEq, Repr

inductive Finding where
  | outcome (goal : Goal) (o : Outcome) (how : Conduct)
  | emptiness (b : Bool)
  | peer (r : Resolved) (style : Style)
  | peers (r : PeerReport) (style : Style)

namespace Command

/-- No names at all stand for all collections. -/
def filter : List String → Option (List String)
  | [] => none
  | names => some names

def rebalance (settings : Rebalance.TransferSettings) (r : Rebalance.Request) (how : Conduct) :
    Procedure (Except Failure Finding) := do
  return (← r.run settings how.dry).map (.outcome r.goal · how)

/-- The factor is ignored only if neither the user nor the settings respect it. -/
def run (settings : Rebalance.TransferSettings) : Command → Procedure (Except Failure Finding)
  | replicate target collections respectFactor how =>
    let ignoreFactor := !respectFactor && settings.ignoreFactor
    rebalance settings (.replicate target (filter collections) ignoreFactor) how
  | drain source collections how => rebalance settings (.drain source (filter collections)) how
  | equalize source target collections how => rebalance settings (.equalize source target collections) how
  | isEmpty p => (Finding.emptiness <$> Rebalance.isEmpty p).run
  | peer s style => ((Finding.peer · style) <$> Rebalance.resolve s).run
  | peers style => ((Finding.peers · style) <$> Attempt.call .peers).run

end Command
end ShardBalance
