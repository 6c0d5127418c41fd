import ShardBalance.Procedure
import ShardBalance.Scripted.Cluster

/-!
A cluster in memory that may fail at chosen calls, and remembers all calls.
-/

namespace ShardBalance.Scripted

inductive Endpoint where
  | peers | collections | collection | placement | update
  deriving DecidableEq, Repr

def Endpoint.ofCall : Call → Endpoint
  | .peers => peers
  | .collections => collections
  | .collection _ => collection
  | .placement _ => placement
  | .update .. => update

inductive Action where
  | fail (f : ClientFailure)
  /-- Cancels, and never answers. -/
  | stall
  /-- Cancels, and answers as ever. -/
  | cancel
  /-- Answers an update and leaves everything as it is; other calls are answered as ever. -/
  | acknowledge (a : Acknowledgement)
  /-- What was asked for is done, but its answer is lost: a failure comes instead, or nothing and a cancellation. -/
  | lose (f : Option ClientFailure)
  deriving DecidableEq

/-- An action for the call to an endpoint that comes after `count` others to it. -/
structure Fault where
  endpoint : Endpoint
  count : Nat
  action : Action
  deriving DecidableEq

structure World where
  cluster : Cluster
  faults : List Fault
  calls : List Call

namespace World

/-- The action for the next call to an endpoint: that of the first fault that names it. -/
def action? (w : World) (e : Endpoint) : Option Action :=
  let made := (w.calls.filter (Endpoint.ofCall · = e)).length
  (w.faults.find? fun f => f.endpoint = e ∧ f.count = made).map Fault.action

def record (w : World) (c : Call) : World := { w with calls := w.calls ++ [c] }

def respond (cancels : Bool) (c : Call) (w : World) : Reaction c.Answer × World :=
  let (r, cluster) := Cluster.answer c w.cluster
  (.answered r cancels, { w with cluster := cluster })

/-- The reaction to an update that is only acknowledged. -/
def acknowledge (a : Acknowledgement) : (c : Call) → World → Reaction c.Answer × World
  | .update .., w => (.answered (.ok a) false, w)
  | c, w => respond false c w

/-- The reaction to a call whose answer is lost. -/
def lose (f : Option ClientFailure) (c : Call) (w : World) : Reaction c.Answer × World :=
  let told := match f with
    | some f => .answered (.error f) false
    | none => .abandoned
  (told, (respond false c w).2)

def react : Backend World := fun c w =>
  match w.action? (.ofCall c) with
  | none => respond false c (w.record c)
  | some (.fail f) => (.answered (.error f) false, w.record c)
  | some .stall => (.abandoned, w.record c)
  | some .cancel => respond true c (w.record c)
  | some (.acknowledge a) => acknowledge a c (w.record c)
  | some (.lose f) => lose f c (w.record c)

end World
end ShardBalance.Scripted
