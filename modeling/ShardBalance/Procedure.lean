import ShardBalance.Call
import ShardBalance.Journal

/-!
Procedures ask a cluster, look whether they were cancelled, and keep a journal. What they do depends on
the answers alone, so a run is determined by the backend and the state in which it starts.
-/

namespace ShardBalance

inductive Procedure (α : Type) where
  | done (a : α)
  | enter (e : Entry) (next : Procedure α)
  /-- Goes on with whether it was cancelled. -/
  | poll (next : Bool → Procedure α)
  /-- Makes a call, unless it was cancelled, and goes on with what came of it. -/
  | ask (c : Call) (next : Except Failure c.Answer → Procedure α)

namespace Procedure

variable {α β : Type}

protected def bind : Procedure α → (α → Procedure β) → Procedure β
  | done a, f => f a
  | enter e p, f => enter e (p.bind f)
  | poll next, f => poll fun b => (next b).bind f
  | ask c next, f => ask c fun r => (next r).bind f

instance : Monad Procedure where
  pure := done
  bind := Procedure.bind

def note (n : Note) : Procedure Unit := enter (.note n) (done ())

def noteAll (l : List Note) : Procedure Unit := l.foldr (fun n p => enter (.note n) p) (done ())

def measure (m : Measurement) : Procedure Unit := enter (.measured m) (done ())

def isCancelled : Procedure Bool := poll done

def call (c : Call) : Procedure (Except Failure c.Answer) := ask c done

end Procedure

/-- A backend's state, and whether the operations on it were cancelled. -/
structure Session (σ : Type) where
  world : σ
  cancelled : Bool

namespace Session

variable {σ : Type}

/-- Makes a call, unless the session was cancelled. -/
def call (b : Backend σ) (c : Call) (s : Session σ) : Except Failure c.Answer × Session σ :=
  if s.cancelled then (.error .cancelled, s)
  else
    let (r, world) := b c s.world
    (r.result, ⟨world, r.cancels⟩)

theorem call_of_cancelled {b : Backend σ} {c : Call} {s : Session σ} (h : s.cancelled = true) :
    s.call b c = (.error .cancelled, s) := by simp [call, h]

theorem call_of_alive {b : Backend σ} {s : Session σ} (alive : s.cancelled = false) (c : Call) :
    s.call b c = ((b c s.world).1.result, ⟨(b c s.world).2, (b c s.world).1.cancels⟩) := by
  simp [call, alive]

end Session

structure Run (σ α : Type) where
  value : α
  journal : Journal
  session : Session σ

namespace Procedure

variable {σ α β : Type}

def run (b : Backend σ) : Procedure α → Session σ → Run σ α
  | done a, s => ⟨a, [], s⟩
  | enter e p, s =>
    let r := run b p s
    { r with journal := e :: r.journal }
  | poll next, s => run b (next s.cancelled) s
  | ask c next, s => run b (next (s.call b c).1) (s.call b c).2

theorem run_bind (b : Backend σ) (p : Procedure α) (f : α → Procedure β) (s : Session σ) :
    (p >>= f).run b s =
      let r := p.run b s
      let q := (f r.value).run b r.session
      ⟨q.value, r.journal ++ q.journal, q.session⟩ := by
  show (p.bind f).run b s = _
  induction p generalizing s with
  | done a => rfl
  | enter e p ih => simp [Procedure.bind, run, ih]
  | poll next ih => simp [Procedure.bind, run, ih]
  | ask c next ih => simp [Procedure.bind, run, ih]

end Procedure

abbrev Attempt (α : Type) := ExceptT Failure Procedure α

namespace Attempt

variable {α : Type}

def call (c : Call) : Attempt c.Answer := ExceptT.mk (Procedure.call c)

def note (n : Note) : Attempt Unit := ExceptT.lift (Procedure.note n)

def noteAll (l : List Note) : Attempt Unit := ExceptT.lift (Procedure.noteAll l)

def ofExcept (r : Except Failure α) : Attempt α := ExceptT.mk (.done r)

end Attempt
end ShardBalance
