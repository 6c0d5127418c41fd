/-!
Why a text is no URL.
-/

namespace ShardBalance.Url

inductive Malformed where
  | noScheme | emptyHost | port | ipv4 | ipv6 | domain | domainCharacter
  deriving DecidableEq, Repr

def Malformed.message : Malformed → String
  | noScheme => "relative URL without a base"
  | emptyHost => "empty host"
  | port => "invalid port number"
  | ipv4 => "invalid IPv4 address"
  | ipv6 => "invalid IPv6 address"
  | domain => "invalid international domain name"
  | domainCharacter => "invalid domain character"

end ShardBalance.Url
