import ShardBalance.Identity
import ShardBalance.Url.Malformed

/-!
What can go wrong, and how it is told.
-/

namespace ShardBalance

/-- A request that brought no answer that could be read. -/
inductive TransportFailure where
  | closed (url : String)
  | unreadable
  | header
  deriving DecidableEq, Repr

def TransportFailure.message : TransportFailure → String
  | closed url => s!"error sending request for url ({url})"
  | unreadable => "error decoding response body"
  | header => "builder error"

inductive ClientFailure where
  | transport (cause : TransportFailure)
  | refused (status : Nat) (message : String)
  | url (cause : Url.Malformed)
  | json (message : String)
  | toml (message : String)
  | io (message : String)
  | config (message : String)
  deriving DecidableEq, Repr

namespace ClientFailure

def message : ClientFailure → String
  | transport cause => s!"HTTP error: {cause.message}"
  | refused status message => s!"API error (status {status}): {message}"
  | url cause => s!"Invalid URL: {cause.message}"
  | json message => s!"JSON error: {message}"
  | toml message => s!"TOML error: {message}"
  | io message => s!"IO error: {message}"
  | config message => s!"Config error: {message}"

def status? : ClientFailure → Option Nat
  | refused status _ => some status
  | _ => none

end ClientFailure

inductive Failure where
  | noPeer (selector : String) (known : List String)
  | ambiguous (selector : String) (candidates : List String)
  | unknownCollections (names : List String)
  /-- No peer of the ring can give or take a shard. -/
  | noQualifyingPeer (collection : String) (shard : ShardId) (candidates : Nat)
  | noOtherPeer (peer : PeerId)
  | client (cause : ClientFailure)
  | cancelled
  deriving DecidableEq, Repr

namespace Failure

def listed (l : List String) : String := String.intercalate ", " l

def message : Failure → String
  | noPeer selector known => s!"No peer matches '{selector}'; known peers: {listed known}"
  | ambiguous selector candidates =>
    s!"Peer selector '{selector}' is ambiguous, it matches: {listed candidates}"
  | unknownCollections names => s!"Collections not found: {listed names}"
  | noQualifyingPeer collection shard candidates =>
    s!"No peer qualifies for shard {shard} of collection '{collection}' after a full cycle over " ++
      s!"{candidates} candidates"
  | noOtherPeer peer => s!"Peer {peer} has no other peers to work with"
  | client cause => s!"Client error: {cause.message}"
  | cancelled => "Operation cancelled"

/-- The kind of a failure as measurements name it. -/
def label : Failure → String
  | noPeer .. => "no_peers_found"
  | ambiguous .. => "ambiguous_peer_selector"
  | unknownCollections _ => "unknown_collections"
  | noQualifyingPeer .. => "no_qualifying_peer"
  | noOtherPeer _ => "empty_peer_set"
  | client _ => "client"
  | cancelled => "cancelled"

/-- Failures that are the caller's or the topology's; the others can come about in any run. -/
def isFatal : Failure → Bool
  | client _ | cancelled => false
  | _ => true

/-- The status of an outcome that failed for this reason: what the cluster said, where it said something. -/
def status : Failure → String
  | client (.refused _ message) => message
  | cancelled => "cancelled"
  | f => f.message

end Failure
end ShardBalance
