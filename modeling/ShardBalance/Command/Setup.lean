import ShardBalance.Command.Invocation
import ShardBalance.Http.Client
import ShardBalance.Settings.File

/-!
From an invocation to a client that can carry it out.
-/

namespace ShardBalance

structure Setup where
  settings : Settings
  client : Http.Client

inductive SetupFailure where
  | settings (cause : Settings.LoadFailure)
  | client (cause : ClientFailure)
  deriving DecidableEq, Repr

def SetupFailure.message : SetupFailure → String
  | settings cause => cause.message
  | client cause => cause.message

namespace Invocation

def path (home : Option String) (i : Invocation) : Except SetupFailure String :=
  match i.config with
  | none => .ok (Path.settings home)
  | some path =>
    match Path.expandHome home path with
    | some path => .ok path
    | none => .error (.settings .noHome)

/-- What the invocation sets wins over what is found in the settings file. -/
def setup (i : Invocation) (path : String) (content : FileContent) : Except SetupFailure Setup := do
  let settings ← (Settings.load path content).mapError .settings
  let settings := settings.override i.url i.apiKey
  let client ← (Http.Client.ofSettings settings.client).mapError .client
  return ⟨settings, client⟩

end Invocation
end ShardBalance
