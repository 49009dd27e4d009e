import Till.Boundary.Call

/-!
# Threads

All threads of a host share the boundary, and each keeps the last error of its own
calls, empty at first.  A rejected call records its message, in which no character
is a zero, as a text would end there for a host; a successful one leaves the record
as it was.

Main results:

- Theorem {lit}`Thread.run_append`: a run may be cut anywhere.
-/

namespace Till

/-- What a call returns and leaves in the cell for its output. -/
structure Reply where
  status : Status
  output : Output
  deriving DecidableEq, Repr

/-- The boundary as a thread finds it, and the last error of the thread. -/
structure Thread where
  boundary : Boundary := {}
  lastError : String := ""

namespace Thread

variable [Wording]

/-- A message as it is recorded. -/
def recorded (message : String) : String :=
  String.ofList (message.toList.map fun c => if c = '\x00' then '\ufffd' else c)

/-- What a call comes to. -/
def conclude (lastError : String) : Except Setback Unit → Exchange →
    Except Fault (Reply × Thread)
  | .ok (), exchange => .ok (⟨.success, exchange.output⟩, ⟨exchange.boundary, lastError⟩)
  | .error (.rejected cause), exchange =>
    .ok (⟨cause.status, exchange.output⟩, ⟨exchange.boundary, recorded cause.message⟩)
  | .error (.faulted cause), _ => .error cause

/-- The reply to a call and the thread after it; a fault has no reply. -/
def perform (thread : Thread) (call : Call) : Except Fault (Reply × Thread) :=
  let (result, exchange) := (call.action thread.lastError).on ⟨thread.boundary, .untouched⟩
  conclude thread.lastError result exchange

/-- The replies to calls in order and the thread after them. -/
def run (thread : Thread) : List Call → Except Fault (List Reply × Thread)
  | [] => .ok ([], thread)
  | call :: rest => do
    let (reply, thread) ← thread.perform call
    let (replies, thread) ← thread.run rest
    return (reply :: replies, thread)

/-- A run may be cut anywhere. -/
theorem run_append (thread : Thread) (first second : List Call) :
    thread.run (first ++ second) = do
      let (replies, thread) ← thread.run first
      let (more, thread) ← thread.run second
      return (replies ++ more, thread) := by
  induction first generalizing thread with
  | nil =>
    simp only [List.nil_append, run, bind, Except.bind, pure, Except.pure]
    cases thread.run second <;> rfl
  | cons call rest ih =>
    simp only [List.cons_append, run, bind, Except.bind, pure, Except.pure] at ih ⊢
    cases thread.perform call with
    | error cause => rfl
    | ok result =>
      simp only [ih]
      cases result.2.run rest with
      | error cause => rfl
      | ok after =>
        dsimp only
        cases after.2.run second <;> rfl

end Thread

/-! ## Scripts -/

/-- What a thread does: calls, and other threads that it starts and waits for. -/
inductive Step where
  | call (call : Call)
  | thread (steps : List Step)

/-- What comes of a step, with the last error of the thread after it. -/
inductive Report where
  | call (reply : Reply) (lastError : String)
  | thread (reports : List Report) (lastError : String)

namespace Thread

variable [Wording]

mutual

/-- The report on a step and the thread after it. -/
def runStep (thread : Thread) : Step → Except Fault (Report × Thread)
  | .call call => do
    let (reply, thread) ← thread.perform call
    return (.call reply thread.lastError, thread)
  | .thread steps => do
    let (reports, other) ← runSteps { thread with lastError := "" } steps
    return (.thread reports thread.lastError, { thread with boundary := other.boundary })

/-- The reports on steps in order and the thread after them. -/
def runSteps (thread : Thread) : List Step → Except Fault (List Report × Thread)
  | [] => .ok ([], thread)
  | step :: rest => do
    let (report, thread) ← runStep thread step
    let (reports, thread) ← runSteps thread rest
    return (report :: reports, thread)

end

end Thread
end Till
