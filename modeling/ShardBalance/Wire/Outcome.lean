import ShardBalance.Json.Decode
import ShardBalance.Number.Duration
import ShardBalance.Outcome

/-!
The JSON form of outcomes, with the time that the operation took.
-/

namespace ShardBalance

structure TimedOutcome where
  outcome : Outcome
  elapsed : Duration

inductive TimedOutcome.Misread where
  | malformed
  /-- It reports a time for which there is no span. -/
  | tooLong
  deriving DecidableEq, Repr

namespace Outcome

/-- The members of an outcome, with those of `time` at their place. -/
def members (o : Outcome) (time : List (String × Json)) : List (String × Json) :=
  [("success", .bool o.success), ("status", .text o.status)] ++ time ++
    [("planned_transfers", .nat o.planned), ("issued_transfers", .nat o.issued)] ++
    match o.error with
    | none => []
    | some e => [("error", .text e)]

def json (o : Outcome) : Json := .record (o.members [])

end Outcome

namespace TimedOutcome

def elapsedJson (d : Duration) : Json := .number ⟨false, Nat.toDigits 10 d.seconds, d.places, none⟩

def json (t : TimedOutcome) : Json := .record (t.outcome.members [("elapsed", elapsedJson t.elapsed)])

def fieldNames : List String :=
  ["success", "status", "elapsed", "planned_transfers", "issued_transfers", "error"]

def elapsedOfJson? (v : Json) : Option Duration := v.float?.bind Duration.ofSeconds?

def countOfJson? (v : Json) : Option Nat := v.word64?.map UInt64.toNat

def ofJson? (v : Json) : Option TimedOutcome := do
  let f ← v.fields? fieldNames
  let success ← f.required "success" Json.bool?
  let status ← f.required "status" Json.text?
  let elapsed ← f.required "elapsed" elapsedOfJson?
  let planned ← f.required "planned_transfers" countOfJson?
  let issued ← f.required "issued_transfers" countOfJson?
  let error ← f.orElse "error" none (Json.option? Json.text?)
  return ⟨⟨success, status, planned, issued, error⟩, elapsed⟩

def fieldReadable (name : String) (v : Json) : Bool :=
  match name with
  | "success" => v.bool?.isSome
  | "status" => v.text?.isSome
  | "planned_transfers" | "issued_transfers" => (countOfJson? v).isSome
  | "error" => (v.option? Json.text?).isSome
  | _ => true

/-- Whether the first fault of the fields, in the order of the text, is a time too long. -/
def isTooLong (v : Json) : Bool :=
  let beyond (v : Json) : Bool := v.float?.isSome && (elapsedOfJson? v).isNone
  let pairs : Option (List (String × Json)) := match v with
    | .object members =>
      let before := members.takeWhile fun m => m.1.text? != some "elapsed"
      Json.named? (members.take (before.length + 1))
    | .array items => some (fieldNames.zip items)
    | _ => none
  match pairs with
  | none => false
  | some pairs =>
    let before := pairs.takeWhile (·.1 != "elapsed")
    before.all (fun p => fieldReadable p.1 p.2) &&
      ((before.map (·.1)).filter (· ∈ fieldNames)).Nodup &&
      ((pairs.lookup "elapsed").any beyond)

/-- The outcome that a text holds. A time too long is found as soon as it is read, before any fault of what
follows. -/
def parse (s : String) : Except Misread TimedOutcome :=
  if (Json.parseHead s).any isTooLong then .error .tooLong
  else
    match (Json.parse s).bind ofJson? with
    | some o => .ok o
    | none => .error .malformed

end TimedOutcome
end ShardBalance
