import ShardBalance.Url.Domain
import ShardBalance.Url.Ipv4
import ShardBalance.Url.Ipv6
import ShardBalance.Url.Malformed

/-!
The host in a URL.
-/

namespace ShardBalance.Url

inductive Host where
  | name (s : String)
  | ipv4 (address : Nat)
  | ipv6 (pieces : List Nat)
  deriving DecidableEq, Repr

namespace Host

def text : Host → String
  | name s => s
  | ipv4 a => Ipv4.text a
  | ipv6 p => s!"[{Ipv6.text p}]"

def isEmpty (h : Host) : Bool := h = name ""

def bracketed (s : List Char) : Except Malformed Host :=
  match s.getLast?, Ipv6.parse? (s.drop 1).dropLast with
  | some ']', some pieces => .ok (ipv6 pieces)
  | _, _ => .error .ipv6

/-- The host of a URL whose scheme is a special one. -/
def ofChars (s : List Char) : Except Malformed Host :=
  if s.head? = some '[' then bracketed s
  else
    match Domain.ofChars? s with
    | none => .error .domain
    | some [] => .error .emptyHost
    | some d =>
      if Ipv4.endsInNumber d then
        match Ipv4.parse? d with
        | some a => .ok (ipv4 a)
        | none => .error .ipv4
      else .ok (name (String.ofList d))

def isForbidden (c : Char) : Bool :=
  ['\x00', '\t', '\n', '\r', ' ', '#', '/', ':', '<', '>', '?', '@', '[', '\\', ']', '^', '|'].contains c

/-- The host of any other URL. -/
def opaqueOfChars (s : List Char) : Except Malformed Host :=
  if s.head? = some '[' then bracketed s
  else if s.any isForbidden then .error .domainCharacter
  else .ok (name (String.ofList (Percent.encode Percent.isControl s)))

end Host
end ShardBalance.Url
