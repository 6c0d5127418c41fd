import ShardBalance.Failure
import ShardBalance.Number.Duration
import ShardBalance.Rebalance.Planning
import ShardBalance.Text.Blank
import ShardBalance.Url.Parser

/-!
How to reach a cluster, and how to move shards in it.
-/

namespace ShardBalance

structure ConnectionSettings where
  /-- Where any peer of the cluster listens. -/
  url : String
  apiKey : Option String
  connectMillis : UInt64
  requestMillis : UInt64
  deriving DecidableEq, Repr

namespace ConnectionSettings

def default : ConnectionSettings := ⟨"http://localhost:6333", none, 5000, 30000⟩

/-- What keeps a client from working with the settings. -/
def check (s : ConnectionSettings) : Except ClientFailure Unit :=
  if (Text.trim s.url.toList).isEmpty then .error (.config "url must not be empty")
  else if s.requestMillis = 0 then .error (.config "request_timeout_ms must be greater than zero")
  else
    match Url.parse s.url with
    | .ok _ => .ok ()
    | .error e => .error (.url e)

/-- The URL that requests go to, without the slashes at its end. -/
def baseUrl (s : ConnectionSettings) : Except ClientFailure Url := do
  s.check
  (Url.ofChars (Text.dropEndWhile (· == '/') s.url.toList)).mapError .url

def connectTimeout (s : ConnectionSettings) : Duration := .ofMillis s.connectMillis.toNat

def requestTimeout (s : ConnectionSettings) : Duration := .ofMillis s.requestMillis.toNat

end ConnectionSettings

structure Settings where
  client : ConnectionSettings
  rebalancing : Rebalance.TransferSettings
  deriving DecidableEq, Repr

namespace Settings

def default : Settings := ⟨.default, .default⟩

/-- The settings with another URL and key, where they are given. -/
def override (s : Settings) (url apiKey : Option String) : Settings :=
  { s with client := { s.client with url := url.getD s.client.url, apiKey := apiKey <|> s.client.apiKey } }

end Settings
end ShardBalance
