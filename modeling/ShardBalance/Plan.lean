import ShardBalance.Transfer.Basic

/-!
Plans of transfers, in the order in which they are to be made.
-/

namespace ShardBalance

inductive Goal where
  /-- A peer gets the shards it lacks. -/
  | replicate
  /-- A peer gets rid of its shards. -/
  | drain
  /-- A peer gets as many shards as another one has. -/
  | equalize
  deriving DecidableEq, Repr

def Goal.name : Goal → String
  | replicate => "replicate"
  | drain => "drain"
  | equalize => "equalize"

structure Plan where
  goal : Goal
  transfers : List Transfer
  deriving DecidableEq, Repr

def Plan.size (p : Plan) : Nat := p.transfers.length

end ShardBalance
