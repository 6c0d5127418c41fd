/-!
How the data of a shard travels between peers.
-/

namespace ShardBalance

inductive TransferMethod where
  /-- Points in batches, also while the shard is written to. -/
  | streamRecords
  /-- The shard as it was at one moment. -/
  | snapshot
  /-- What the write-ahead log has and the other replica lacks. -/
  | walDelta
  deriving DecidableEq, Repr, Inhabited

namespace TransferMethod

def name : TransferMethod → String
  | streamRecords => "stream_records"
  | snapshot => "snapshot"
  | walDelta => "wal_delta"

def ofName? (s : String) : Option TransferMethod :=
  match s with
  | "stream_records" => some streamRecords
  | "snapshot" => some snapshot
  | "wal_delta" => some walDelta
  | _ => none

@[simp] theorem ofName?_name (m : TransferMethod) : ofName? m.name = some m := by cases m <;> rfl

structure UnknownName where
  name : String

def UnknownName.message (e : UnknownName) : String := s!"unknown shard transfer method '{e.name}'"

def parse (s : String) : Except UnknownName TransferMethod :=
  match ofName? s with
  | some m => .ok m
  | none => .error ⟨s⟩

end TransferMethod
end ShardBalance
