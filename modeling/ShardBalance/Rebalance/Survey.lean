import ShardBalance.Collections
import ShardBalance.Peer.Resolved
import ShardBalance.Procedure

/-!
Looking at a cluster: which peer a selector means, which collections there are, and what a peer holds.
-/

namespace ShardBalance.Rebalance

def resolveIn (t : PeerTable) (s : Selector) : Attempt Resolved := do
  let r ← Attempt.ofExcept (t.resolve s)
  Attempt.note (.resolved s.text r.peer)
  return r

def resolve (s : Selector) : Attempt Resolved := do
  let report ← Attempt.call .peers
  resolveIn report.peers s

/-- The existing collections that were asked for. -/
def selected (asked : Option (List String)) : Attempt (List String) := do
  let existing ← Attempt.call .collections
  match Collections.select asked existing with
  | .ok names => return names
  | .error missing => throw (.unknownCollections missing)

/-- Whether none of some collections shows a replica on a peer; ends at the first that does. -/
def absentFrom (r : Resolved) : List String → Attempt Bool
  | [] => return true
  | c :: rest => do
    let report ← Attempt.call (.placement c)
    if report.showsNone r.peer then absentFrom r rest
    else
      Attempt.note (.notEmpty r.label c)
      return false

/-- Whether no collection has a replica, in whatever state, on the peer. -/
def isEmpty (s : Selector) : Attempt Bool := do
  let r ← resolve s
  let collections ← Attempt.call .collections
  let absent ← absentFrom r collections
  if absent then Attempt.note (.empty r.label collections.length)
  return absent

/-- Where the active replicas of a collection are. -/
def placement (collection : String) : Attempt Placement := do
  let report ← Attempt.call (.placement collection)
  Attempt.noteAll (Placement.skippedNotes true collection report)
  return .ofReport true report

end ShardBalance.Rebalance
