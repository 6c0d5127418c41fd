import ShardBalance.Json.Decode
import ShardBalance.Settings
import ShardBalance.Toml.Decode
import ShardBalance.Wire.Placement

/-!
Settings in JSON, and in the TOML of settings files.
-/

namespace ShardBalance

namespace Rebalance.TransferSettings

def json (s : TransferSettings) : Json :=
  .record [("replicate_transfer_method", s.copyMethod.json), ("drain_transfer_method", s.moveMethod.json),
    ("ignore_replication_factor", .bool s.ignoreFactor)]

def fieldNames : List String :=
  ["replicate_transfer_method", "drain_transfer_method", "ignore_replication_factor"]

/-- Reads the fields of either format. -/
def ofFields? {ν : Type} (f : Fields ν) (method : ν → Option TransferMethod) (bool : ν → Option Bool) :
    Option TransferSettings := do
  return {
    copyMethod := ← f.orElse "replicate_transfer_method" default.copyMethod method
    moveMethod := ← f.orElse "drain_transfer_method" default.moveMethod method
    ignoreFactor := ← f.orElse "ignore_replication_factor" default.ignoreFactor bool }

def ofJson? (v : Json) : Option TransferSettings := do
  ofFields? (← v.fields? fieldNames) TransferMethod.ofJson? Json.bool?

def ofToml? (v : Toml) : Option TransferSettings := do
  ofFields? (← v.fields? fieldNames) (fun v => v.choice?.bind TransferMethod.ofName?) Toml.bool?

end Rebalance.TransferSettings

namespace ConnectionSettings

def json (s : ConnectionSettings) : Json :=
  .record [("url", .text s.url), ("api_key", .option Json.text s.apiKey),
    ("connect_timeout_ms", .word64 s.connectMillis), ("request_timeout_ms", .word64 s.requestMillis)]

def fieldNames : List String := ["url", "api_key", "connect_timeout_ms", "request_timeout_ms"]

/-- Reads the fields of either format. -/
def ofFields? {ν : Type} (f : Fields ν) (text : ν → Option String) (key : ν → Option (Option String))
    (word : ν → Option UInt64) : Option ConnectionSettings := do
  return {
    url := ← f.orElse "url" default.url text
    apiKey := ← f.orElse "api_key" default.apiKey key
    connectMillis := ← f.orElse "connect_timeout_ms" default.connectMillis word
    requestMillis := ← f.orElse "request_timeout_ms" default.requestMillis word }

def ofJson? (v : Json) : Option ConnectionSettings := do
  ofFields? (← v.fields? fieldNames) Json.text? (Json.option? Json.text?) Json.word64?

def ofToml? (v : Toml) : Option ConnectionSettings := do
  ofFields? (← v.fields? fieldNames) Toml.string? (fun v => v.string?.map some) Toml.word64?

def ofText (text : String) : Except ClientFailure ConnectionSettings := do
  match (Toml.parse text).bind ofToml? with
  | none => throw (.toml "invalid settings")
  | some s =>
    s.check
    return s

end ConnectionSettings

namespace Settings

def json (s : Settings) : Json :=
  .record [("client", s.client.json), ("rebalancing", s.rebalancing.json)]

def ofToml? (v : Toml) : Option Settings := do
  let f ← v.fields? ["client", "rebalancing"]
  return {
    client := ← f.orElse "client" .default ConnectionSettings.ofToml?
    rebalancing := ← f.orElse "rebalancing" .default Rebalance.TransferSettings.ofToml? }

def ofText? (text : String) : Option Settings := (Toml.parse text).bind ofToml?

end Settings
end ShardBalance
