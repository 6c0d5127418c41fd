import ShardBalance.Command.Help
import ShardBalance.Command.Printout
import ShardBalance.Command.Setup
import ShardBalance.Http.Exchange
import Std.Async.DNS
import Std.Async.Select
import Std.Async.Signal
import Std.Async.System
import Std.Async.TCP
import Std.Async.Timer
import Std.Sync.CancellationToken

/-!
The command line: reads settings, carries procedures out over TCP, and prints what they found. A request
that takes too long counts as one whose connection was closed.
-/

namespace ShardBalance.Program

open Std.Async

structure Surroundings where
  client : Http.Client
  connectTimeout : Std.Time.Millisecond.Offset
  requestTimeout : Std.Time.Millisecond.Offset
  token : Std.CancellationToken
  /-- Notes below this level are not shown. -/
  level : Option Level

def address (host : Url.Host) (port : UInt16) : Async (Option Std.Net.SocketAddress) := do
  let find (name : String) : Async (Option Std.Net.IPAddr) := do
    return (← DNS.getAddrInfo name (toString port)).toList.head?
  let ip ← match host with
    | .name s => find s
    | .ipv4 a => find (Url.Ipv4.text a)
    | .ipv6 p => find (Url.Ipv6.text p)
  return ip.map fun
    | .v4 a => .v4 ⟨a, port⟩
    | .v6 a => .v6 ⟨a, port⟩

partial def receiveAll (s : TCP.Socket.Client) (seen : ByteArray) : Async ByteArray := do
  match ← s.recv? 65536 with
  | none => return seen
  | some more => if more.isEmpty then return seen else receiveAll s (seen ++ more)

/-- Whether a connection came about in time. -/
def connect (s : TCP.Socket.Client) (target : Std.Net.SocketAddress) (limit : Std.Time.Millisecond.Offset) :
    Async Bool := do
  let attempt : Async Bool := do
    s.connect target
    return true
  let watch : Async Bool := do
    sleep limit
    return false
  Async.race attempt watch

/-- Sends a request and reads the response to it; only plain HTTP is spoken. -/
def exchange (w : Surroundings) (r : Http.Request) : Async Http.Delivery := do
  match r.url.authority with
  | none => return .closed
  | some a =>
    if r.url.scheme ≠ "http".toList then return .closed
    match ← address a.host (UInt16.ofNat (a.port.getD 80)) with
    | none => return .closed
    | some target =>
      let s ← TCP.Socket.Client.mk
      if !(← connect s target w.connectTimeout) then return .closed
      s.send r.text.toUTF8
      let octets ← receiveAll s .empty
      match Http.Response.ofOctets? octets.toList with
      | some response => return .response response false
      | none => return .closed

instance : Inhabited Http.Delivery := ⟨.closed⟩

/-- What becomes of a request before it was cancelled or took too long. -/
def deliver (w : Surroundings) (r : Http.Request) : Async Http.Delivery := do
  let attempt : Async Http.Delivery := try exchange w r catch _ => return .closed
  let watch : Async Http.Delivery := do
    Selectable.one #[.case w.token.selector fun _ => return .silent,
      .case (← Selector.sleep w.requestTimeout) fun _ => return .closed]
  Async.race attempt watch

def ask (w : Surroundings) (c : Call) : Async (Except Failure c.Answer) := do
  if ← w.token.isCancelled then return .error .cancelled
  match w.client.request c with
  | .error e => return .error (.client e)
  | .ok request => return (Http.Client.reaction c request (← deliver w request)).result

def tell (w : Surroundings) (n : Note) : Async Unit := do
  if w.level.any (·.severity ≤ n.level.severity) then IO.eprintln s!"{n.level.name} {n.text}"

def perform {α : Type} (w : Surroundings) : Procedure α → Async α
  | .done a => return a
  | .enter (.note n) p => do
    tell w n
    perform w p
  | .enter (.measured _) p => perform w p
  | .poll next => do
    let b ← w.token.isCancelled
    perform w (next b)
  | .ask c next => do
    let r ← ask w c
    perform w (next r)

def look (path : String) : IO FileContent := do
  try return .text (← IO.FS.readFile path)
  catch
    | .noFileOrDirectory .. => return .missing
    | e => return .unreadable (toString e)

/-- The level of notes to be shown, `info` unless told otherwise. -/
def readLevel : Option String → Option Level
  | some "debug" => some .debug
  | some "warn" => some .warn
  | some "error" => some .error
  | some "off" => none
  | _ => some .info

def watchInterrupt (w : Surroundings) : Async Unit := do
  let interrupt ← Signal.Waiter.mk .sigint false
  let _ ← await (← interrupt.wait)
  if w.level.isSome then IO.eprintln "WARN Interrupted, cancelling; transfers already issued are kept"
  w.token.cancel

def fail (message : String) : IO UInt32 := do
  IO.eprintln s!"Error: {message}"
  return 1

/-- Runs a command, and cancels it when the user interrupts. -/
def carryOut (w : Surroundings) (settings : Rebalance.TransferSettings) (c : Command) :
    Async (Except Failure Finding) := do
  background (watchInterrupt w)
  perform w (c.run settings)

def runCommand (i : Invocation) : IO UInt32 := do
  let home ← try pure (some (← System.getHomeDir).toString) catch _ => pure none
  match i.path home with
  | .error f => fail f.message
  | .ok path =>
    match i.setup path (← look path) with
    | .error f => fail f.message
    | .ok p =>
      let token ← Std.CancellationToken.new
      let limit (millis : UInt64) := Std.Time.Millisecond.Offset.ofNat millis.toNat
      let w : Surroundings := {
        client := p.client
        connectTimeout := limit p.settings.client.connectMillis
        requestTimeout := limit p.settings.client.requestMillis
        token := token
        level := readLevel (← IO.getEnv "QUIVER_LOG") }
      let start ← IO.monoNanosNow
      let result ← (carryOut w p.settings.rebalancing i.command).block
      let ending := Ending.of (.ofNanos ((← IO.monoNanosNow) - start)) result
      IO.print ending.output
      match ending.failure with
      | none => return 0
      | some message => fail message

end ShardBalance.Program

open ShardBalance in
def main (words : List String) : IO UInt32 := do
  let env : Environment := ⟨← IO.getEnv "QUIVER_URL", ← IO.getEnv "QUIVER_API_KEY"⟩
  match Invocation.read env words with
  | .ok i => Program.runCommand i
  | .error (.help topic) =>
    IO.print (Help.text env topic)
    return 0
  | .error .version =>
    IO.print Help.version
    return 0
  | .error .misuse =>
    IO.eprint (Help.text env none)
    return 2
