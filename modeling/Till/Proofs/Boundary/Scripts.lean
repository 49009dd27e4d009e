import Till.Proofs.Boundary.Process

/-!
# Scripts

A script says what one thread does: its calls, and the threads that it starts, each with a script
of its own.  As every thread that is started is also waited for, the calls of all threads come one
after the other.  So a script comes to what a process does in which each thread has a number of its
own and the same calls are made in the same order.

Main results:

- Theorem {lit}`Process.exists_runStep` and {lit}`Process.exists_runSteps`: what the steps of a
  thread come to, and the run of the process that they are.
- Theorem {lit}`Process.run_callsOf`: every script has reports, and they tell of the run of a fresh
  process.
-/

namespace Till

/-! ## What scripts and reports are about -/

namespace Step

mutual

/-- How many threads a step starts, with those that they start in turn. -/
def threads : Step → Nat
  | .call _ => 0
  | .thread steps => threadsOf steps + 1

/-- How many threads steps start. -/
def threadsOf : List Step → Nat
  | [] => 0
  | step :: rest => step.threads + threadsOf rest

end

mutual

/-- The calls of a step of a thread, each with the number of the thread that makes it.  The threads
that are started have the numbers from `next` on. -/
def calls (id next : Nat) : Step → List (Nat × Call)
  | .call made => [(id, made)]
  | .thread steps => callsOf next (next + 1) steps

/-- The calls of steps of a thread. -/
def callsOf (id next : Nat) : List Step → List (Nat × Call)
  | [] => []
  | step :: rest => step.calls id next ++ callsOf id (next + step.threads) rest

end

end Step

namespace Report

mutual

/-- The replies that a report tells of, each with the last error of the thread after it. -/
def replies : Report → List (Reply × String)
  | .call reply lastError => [(reply, lastError)]
  | .thread reports _ => repliesOf reports

/-- The replies that reports tell of. -/
def repliesOf : List Report → List (Reply × String)
  | [] => []
  | report :: rest => report.replies ++ repliesOf rest

end

end Report

/-- The reply of a visit, with the last error of the thread after it. -/
def Visit.told (visit : Visit) : Reply × String :=
  (visit.reply, visit.lastError)

namespace Process

variable {process middle last : Process} {id next : Nat}

/-! ## Numbers of threads -/

/-- The numbers from `next` on are those of no thread, and the boundary is well-formed. -/
structure Numbers (next : Nat) (process : Process) : Prop where
  wellFormed : process.boundary.WellFormed
  unused : ∀ n, next ≤ n → process.lastErrors n = ""

/-- A thread that is started is one with the next number. -/
theorem Numbers.thread_next (h : process.Numbers next) :
    process.thread next = { process.thread id with lastError := "" } := by
  simp [Process.thread, h.unused next (Nat.le_refl next)]

/-- A call of a thread uses no number. -/
theorem Numbers.resume (h : process.Numbers next) (hid : id < next) {thread : Thread}
    (hwell : thread.boundary.WellFormed) : (process.resume id thread).Numbers next := by
  refine ⟨hwell, ?_⟩
  intro n hn
  have hne : n ≠ id := by omega
  simp [Process.resume, hne, h.unused n hn]

/-! ## Steps -/

variable [Wording]

/-- Runs one after the other are one run. -/
theorem run_append {first second : List (Nat × Call)} {visits more : List Visit}
    (hfirst : process.run first = .ok (visits, middle))
    (hsecond : middle.run second = .ok (more, last)) :
    process.run (first ++ second) = .ok (visits ++ more, last) := by
  induction first generalizing process visits with
  | nil =>
    cases hfirst
    exact hsecond
  | cons request rest ih =>
    rcases request with ⟨id, call⟩
    simp only [run, bind_eq_ok_iff] at hfirst
    rcases hfirst with ⟨⟨reply, after⟩, hperform, ⟨visits', middle'⟩, hrest, heq⟩
    cases heq
    exact run_eq_ok_cons_iff.2 ⟨_, after, rfl, hperform, rfl, rfl, ih hrest⟩

mutual

/-- A step of a thread has a report.  In the process its calls are a run with the replies that are
reported, after which the thread is as it is after the step; the threads that were started have used
the next numbers, and no other thread is concerned. -/
theorem exists_runStep : ∀ (step : Step) {process : Process} {id next : Nat},
    process.Numbers next → id < next → ∃ report visits last,
      (process.thread id).runStep step = .ok (report, last.thread id) ∧
      process.run (step.calls id next) = .ok (visits, last) ∧
      visits.map Visit.told = report.replies ∧
      last.Numbers (next + step.threads) ∧
      ∀ n < next, n ≠ id → last.lastErrors n = process.lastErrors n
  | .call call, process, id, next, h, hid => by
    rcases perform_moved h.wellFormed id call with ⟨reply, thread, hthread, _⟩
    have hperform : process.perform id call = .ok (reply, process.resume id thread) :=
      perform_eq_ok_iff.2 ⟨thread, hthread, rfl⟩
    let visit : Visit := ⟨id, call, process.boundary.engine.isSome, reply,
      (process.resume id thread).lastErrors id⟩
    have hrun : process.run [(id, call)] = .ok ([visit], process.resume id thread) :=
      run_eq_ok_cons_iff.2 ⟨[], _, rfl, hperform, rfl, rfl, rfl⟩
    have hnumbers := h.resume hid (wellFormed_of_perform h.wellFormed hperform)
    refine ⟨.call reply thread.lastError, [visit], process.resume id thread, ?_, hrun, ?_,
      hnumbers, ?_⟩
    · rw [Thread.runStep, hthread, thread_resume]
      rfl
    · simp [visit, Visit.told, Report.replies, resume]
    · intro n _ hne
      simp [resume, hne]
  | .thread steps, process, id, next, h, hid => by
    have hnext : process.Numbers (next + 1) :=
      ⟨h.wellFormed, fun n hn => h.unused n (by omega)⟩
    rcases exists_runSteps steps hnext (Nat.lt_succ_self next) with
      ⟨reports, visits, last, hsteps, hcalls, htold, hlast, hkept⟩
    have hsame := hkept id (by omega) (by omega)
    refine ⟨.thread reports (process.lastErrors id), visits, last, ?_, hcalls, htold, ?_, ?_⟩
    · rw [Thread.runStep, ← h.thread_next, hsteps, ok_bind]
      simp only [thread, hsame]
      rfl
    · rwa [Step.threads, Nat.add_comm _ 1, ← Nat.add_assoc]
    · intro n hn _
      exact hkept n (by omega) (by omega)

/-- Steps of a thread have reports, and what holds of one step holds of all of them. -/
theorem exists_runSteps : ∀ (steps : List Step) {process : Process} {id next : Nat},
    process.Numbers next → id < next → ∃ reports visits last,
      (process.thread id).runSteps steps = .ok (reports, last.thread id) ∧
      process.run (Step.callsOf id next steps) = .ok (visits, last) ∧
      visits.map Visit.told = Report.repliesOf reports ∧
      last.Numbers (next + Step.threadsOf steps) ∧
      ∀ n < next, n ≠ id → last.lastErrors n = process.lastErrors n
  | [], process, id, next, h, _ => by
    exact ⟨[], [], process, rfl, rfl, rfl, h, fun _ _ _ => rfl⟩
  | step :: rest, process, id, next, h, hid => by
    rcases exists_runStep step h hid with
      ⟨report, visits, middle, hstep, hcalls, htold, hmiddle, hkept⟩
    rcases exists_runSteps rest hmiddle (by omega : id < next + step.threads) with
      ⟨reports, more, last, hsteps, hcalls', htold', hlast, hkept'⟩
    refine ⟨report :: reports, visits ++ more, last, ?_, run_append hcalls hcalls', ?_, ?_, ?_⟩
    · rw [Thread.runSteps, hstep, ok_bind]
      simp only [hsteps, ok_bind, pure, Except.pure]
    · rw [List.map_append, htold, htold', Report.repliesOf]
    · rwa [Step.threadsOf, ← Nat.add_assoc]
    · intro n hn hne
      rw [hkept' n (by omega) hne, hkept n hn hne]

end

/-! ## Scripts -/

/-- Every script has reports.  They tell of the run of a fresh process in which the same calls are
made in the same order, each thread under a number of its own: of the replies, and of the last error
that its thread has after each of them. -/
theorem run_callsOf (steps : List Step) :
    ∃ reports visits last, Thread.runSteps {} steps = .ok (reports, last.thread 0) ∧
      run {} (Step.callsOf 0 1 steps) = .ok (visits, last) ∧
      visits.map Visit.told = Report.repliesOf reports := by
  have hfresh : ({} : Process).Numbers 1 := ⟨Boundary.Reachable.fresh.wellFormed, fun _ _ => rfl⟩
  rcases exists_runSteps steps hfresh Nat.zero_lt_one with
    ⟨reports, visits, last, hsteps, hcalls, htold, _⟩
  exact ⟨reports, visits, last, hsteps, hcalls, htold⟩

end Process
end Till
