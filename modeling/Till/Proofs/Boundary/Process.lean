import Mathlib.Logic.Function.Basic
import Till.Proofs.Boundary.Failures

/-!
# Processes

The threads of a process make their calls one after the other, in whatever sequence.  They share
the boundary, and each of them has a last error of its own.  Each call is a visit of its thread to
the boundary, and runs are compared visit by visit.

Main results:

- Theorem {lit}`Process.run_of_thread`: the calls of one thread alone.
- Theorem {lit}`Process.run_induction`: what every call with its visit preserves holds after every
  run together with its visits.
-/

namespace Till

/-- The boundary that the threads of a process share, and the last error of each thread. -/
structure Process where
  boundary : Boundary := {}
  lastErrors : Nat → String := fun _ => ""

/-- A visit of a thread to the boundary: its call, whether an engine was running then, what came of
the call, and the last error of the thread after it. -/
structure Visit where
  thread : Nat
  call : Call
  running : Bool
  reply : Reply
  lastError : String

/-- The call of a visit and the thread that made it. -/
def Visit.request (visit : Visit) : Nat × Call :=
  (visit.thread, visit.call)

namespace Process

/-- A process as one of its threads finds it. -/
def thread (process : Process) (id : Nat) : Thread :=
  ⟨process.boundary, process.lastErrors id⟩

/-- A process with what has become of one of its threads. -/
def resume (process : Process) (id : Nat) (thread : Thread) : Process :=
  ⟨thread.boundary, Function.update process.lastErrors id thread.lastError⟩

/-- The reply to a call of a thread and the process after it. -/
def perform [Wording] (process : Process) (id : Nat) (call : Call) :
    Except Fault (Reply × Process) := do
  let (reply, after) ← (process.thread id).perform call
  return (reply, process.resume id after)

/-- The visits of calls in order and the process after them. -/
def run [Wording] (process : Process) : List (Nat × Call) → Except Fault (List Visit × Process)
  | [] => .ok ([], process)
  | (id, call) :: rest => do
    let (reply, after) ← process.perform id call
    let (visits, last) ← after.run rest
    let running := process.boundary.engine.isSome
    return (⟨id, call, running, reply, after.lastErrors id⟩ :: visits, last)

variable {process after last : Process} {id : Nat} {call : Call} {reply : Reply}
  {calls : List (Nat × Call)} {visit : Visit} {visits : List Visit}

/-! ## One call -/

@[simp]
theorem thread_resume (process : Process) (id : Nat) (thread : Thread) :
    (process.resume id thread).thread id = thread := by
  simp [Process.thread, resume]

/-- A thread that is as it was leaves the process as it was. -/
@[simp]
theorem resume_thread (process : Process) (id : Nat) :
    process.resume id (process.thread id) = process := by
  simp [Process.thread, resume]

variable [Wording]

/-- A call of a process is one of its threads' calls. -/
theorem perform_eq_ok_iff :
    process.perform id call = .ok (reply, after) ↔
      ∃ thread, (process.thread id).perform call = .ok (reply, thread) ∧
        after = process.resume id thread := by
  unfold perform
  rw [bind_eq_ok_iff]
  constructor
  · rintro ⟨⟨reply', thread⟩, hperform, hafter⟩
    cases hafter
    exact ⟨thread, hperform, rfl⟩
  · rintro ⟨thread, hperform, rfl⟩
    exact ⟨(reply, thread), hperform, rfl⟩

/-- A call that leaves the last error of its thread leaves those of all threads. -/
theorem perform_of_kept {boundary : Boundary}
    (h : (process.thread id).perform call = .ok (reply, ⟨boundary, process.lastErrors id⟩)) :
    process.perform id call = .ok (reply, ⟨boundary, process.lastErrors⟩) := by
  refine perform_eq_ok_iff.2 ⟨_, h, ?_⟩
  rw [resume, Function.update_eq_self]

/-- A call has a reply on every thread, and does one of the things that calls do. -/
theorem perform_moved (h : process.boundary.WellFormed) (id : Nat) (call : Call) :
    ∃ reply thread, (process.thread id).perform call = .ok (reply, thread) ∧
      (process.thread id).boundary.Moved call reply thread.boundary :=
  Thread.perform_moved h call

/-- The boundary is well-formed after a call. -/
theorem wellFormed_of_perform (h : process.boundary.WellFormed)
    (hperform : process.perform id call = .ok (reply, after)) : after.boundary.WellFormed := by
  rcases perform_eq_ok_iff.1 hperform with ⟨thread, hthread, rfl⟩
  rcases perform_moved h id call with ⟨_, _, heq, hmoved⟩
  rw [hthread] at heq
  cases heq
  exact h.moved hmoved

/-! ## Runs -/

/-- The visits of a run are those of its first call and of the others. -/
theorem run_eq_ok_cons_iff :
    process.run calls = .ok (visit :: visits, last) ↔
      ∃ rest after, calls = visit.request :: rest ∧
        process.perform visit.thread visit.call = .ok (visit.reply, after) ∧
        visit.running = process.boundary.engine.isSome ∧
        visit.lastError = after.lastErrors visit.thread ∧ after.run rest = .ok (visits, last) := by
  cases calls with
  | nil => simp [run]
  | cons request rest =>
    rcases request with ⟨id, call⟩
    simp only [run, bind_eq_ok_iff]
    constructor
    · rintro ⟨⟨reply, after⟩, hperform, ⟨visits', last'⟩, hrun, heq⟩
      cases heq
      exact ⟨rest, after, rfl, hperform, rfl, rfl, hrun⟩
    · rintro ⟨rest', after, hcalls, hperform, hrunning, hlastError, hrun⟩
      cases hcalls
      refine ⟨(visit.reply, after), hperform, (visits, last), hrun, ?_⟩
      simp only [← hrunning, ← hlastError]
      rfl

/-- A call that leaves the last error of its thread comes in front of the others. -/
theorem run_cons_of_kept {boundary : Boundary}
    (h : (process.thread id).perform call = .ok (reply, ⟨boundary, process.lastErrors id⟩))
    (hrest : run ⟨boundary, process.lastErrors⟩ calls = .ok (visits, last)) :
    process.run ((id, call) :: calls) =
      .ok (⟨id, call, process.boundary.engine.isSome, reply, process.lastErrors id⟩ :: visits,
        last) :=
  run_eq_ok_cons_iff.2 ⟨calls, _, rfl, perform_of_kept h, rfl, rfl, hrest⟩

/-- The calls of one thread alone do what they do on this thread. -/
theorem run_of_thread (process : Process) (id : Nat) (calls : List Call) :
    (process.run (calls.map fun call => (id, call))).map
        (fun result => (result.1.map Visit.reply, result.2.thread id)) =
      (process.thread id).run calls := by
  induction calls generalizing process with
  | nil => rfl
  | cons call rest ih =>
    simp only [List.map_cons, run, Thread.run, perform]
    cases (process.thread id).perform call with
    | error fault => rfl
    | ok result =>
      rcases result with ⟨reply, thread⟩
      have hrest := ih (process.resume id thread)
      rw [thread_resume] at hrest
      simp only [ok_bind, pure, Except.pure, ← hrest]
      cases (process.resume id thread).run (rest.map fun call => (id, call)) <;> rfl

/-- The calls of a run have visits.  What holds of a process with the visits so far, and is
preserved by every call with its visit, holds after every run together with its visits. -/
theorem run_induction {motive : List Visit → Process → Prop} {past : List Visit}
    (h : process.boundary.WellFormed) (hstart : motive past process)
    (hstep : ∀ past before id call reply after, before.boundary.WellFormed →
      motive past before → before.perform id call = .ok (reply, after) →
      motive (past ++ [⟨id, call, before.boundary.engine.isSome, reply, after.lastErrors id⟩])
        after)
    (calls : List (Nat × Call)) :
    ∃ visits last, process.run calls = .ok (visits, last) ∧ visits.map Visit.request = calls ∧
      last.boundary.WellFormed ∧ motive (past ++ visits) last := by
  induction calls generalizing process past with
  | nil => exact ⟨[], process, rfl, rfl, h, by rwa [List.append_nil]⟩
  | cons request rest ih =>
    rcases request with ⟨id, call⟩
    rcases perform_moved h id call with ⟨reply, thread, hthread, _⟩
    have hperform : process.perform id call = .ok (reply, process.resume id thread) :=
      perform_eq_ok_iff.2 ⟨thread, hthread, rfl⟩
    let visit : Visit := ⟨id, call, process.boundary.engine.isSome, reply,
      (process.resume id thread).lastErrors id⟩
    rcases ih (wellFormed_of_perform h hperform)
      (hstep past process id call reply _ h hstart hperform) with
      ⟨visits, last, hrun, hcalls, hwell, hmotive⟩
    have hvisits : process.run ((id, call) :: rest) = .ok (visit :: visits, last) :=
      run_eq_ok_cons_iff.2 ⟨rest, _, rfl, hperform, rfl, rfl, hrun⟩
    refine ⟨visit :: visits, last, hvisits, ?_, hwell, ?_⟩
    · rw [List.map_cons, hcalls]
      rfl
    · rwa [List.append_assoc] at hmotive

end Process
end Till
