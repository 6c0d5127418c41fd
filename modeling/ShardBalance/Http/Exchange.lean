import ShardBalance.Http.Message
import ShardBalance.Text.Blank
import ShardBalance.Text.Decimal
import ShardBalance.Text.Hex

/-!
Requests and responses as they go over a connection that is closed after one of each.
-/

namespace ShardBalance.Http

abbrev Octets := List UInt8

/-- The characters of octets that stand for one each. -/
def Octets.chars (s : Octets) : List Char := s.map fun b => Char.ofNat b.toNat

/-- UTF-8; where it is none, octets beyond ASCII are replaced. -/
def Octets.text (s : Octets) : String :=
  match String.fromUTF8? (ByteArray.mk s.toArray) with
  | some t => t
  | none => String.ofList (s.map fun b => if b < 0x80 then Char.ofNat b.toNat else '\ufffd')

namespace Request

/-- The host and the port, if it is not the usual one. -/
def hostField (r : Request) : String :=
  match r.url.authority with
  | none => ""
  | some a => a.host.text ++ (a.port.map fun p => s!":{p}").getD ""

def fields (r : Request) (body : Option String) : List (String × String) :=
  [("host", r.hostField), ("accept", "*/*"), ("connection", "close")] ++
    (r.apiKey.map fun key => ("api-key", key)).toList ++
    match body with
    | none => []
    | some b => [("content-type", "application/json"), ("content-length", toString b.utf8ByteSize)]

def text (r : Request) : String :=
  let body := r.body.map Json.render
  let lines := (r.fields body).map fun f => s!"{f.1}: {f.2}\r\n"
  s!"{r.method.name} {String.ofList r.url.target} HTTP/1.1\r\n" ++ String.join lines ++ "\r\n" ++ body.getD ""

end Request

namespace Response

def splitLine (s : Octets) : Option (Octets × Octets) :=
  match s.dropWhile (· ≠ 10) with
  | [] => none
  | _ :: rest => some (s.takeWhile (· ≠ 10), rest)

theorem length_of_splitLine {s line rest : Octets} (h : splitLine s = some (line, rest)) :
    rest.length < s.length := by
  have := (List.dropWhile_sublist (fun b : UInt8 => decide (b ≠ 10)) (l := s)).length_le
  simp only [splitLine] at h
  split at h
  · simp at h
  · next _ b tail heq =>
    rw [heq, List.length_cons] at this
    simp only [Option.some.injEq, Prod.mk.injEq] at h
    rw [← h.2]
    omega

/-- The lines up to an empty one, without the blanks around them, and what follows. -/
def readHead (s : Octets) : Option (List (List Char) × Octets) :=
  match _h : splitLine s with
  | none => none
  | some (line, rest) =>
    match Text.trim (Octets.chars line) with
    | [] => some ([], rest)
    | line => (readHead rest).map fun (lines, rest) => (line :: lines, rest)
termination_by s.length
decreasing_by exact length_of_splitLine _h

def readStatus (line : List Char) : Option Nat :=
  match line.splitOnP (· = ' ') with
  | version :: status :: _ =>
    if version.take 5 = "HTTP/".toList then Text.digits? status else none
  | _ => none

/-- The value of a field; names are the same in either case. -/
def field? (lines : List (List Char)) (name : String) : Option (List Char) :=
  lines.findSome? fun line =>
    if (line.takeWhile (· ≠ ':')).map Char.toLower = name.toList then
      some (Text.trim ((line.dropWhile (· ≠ ':')).drop 1))
    else none

/-- A body in chunks, each after a line with its size; one of size zero ends it. -/
def joinChunks (s : Octets) : Option Octets :=
  match _h : splitLine s with
  | none => none
  | some (line, rest) => do
    let size ← Text.hexNumber? (Text.trim ((Octets.chars line).takeWhile (· ≠ ';')))
    if size = 0 then some []
    else if size ≤ rest.length then return rest.take size ++ (← joinChunks (rest.drop (size + 2)))
    else none
termination_by s.length
decreasing_by
  have := length_of_splitLine _h
  simp only [List.length_drop]
  omega

/-- The body that the fields announce; without an announcement it goes on to the end. -/
def readBody (lines : List (List Char)) (s : Octets) : Option Octets :=
  if (field? lines "transfer-encoding").any fun v => v.map Char.toLower = "chunked".toList then joinChunks s
  else
    match field? lines "content-length" with
    | none => some s
    | some v => do
      let size ← Text.digits? v
      guard (size ≤ s.length)
      return s.take size

def ofOctets? (s : Octets) : Option Response :=
  match readHead s with
  | some (first :: lines, rest) => do
    let status ← readStatus first
    let body ← readBody lines rest
    return ⟨status, Octets.text body⟩
  | _ => none

end Response
end ShardBalance.Http
