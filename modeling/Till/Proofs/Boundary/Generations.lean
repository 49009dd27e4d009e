import Till.Proofs.Boundary.Configuration
import Till.Proofs.Boundary.Restart
import Till.Proofs.Registry.Generations

/-!
# Generations that a process uses up

Each engine uses up one generation more than the times that it has vacated the slot that it
vacated most often, and the next engine starts above.  So the visits to the boundary tell how many
generations are used up, and no engine can be started once these are all that there are, but until
then one can.

Main results:

- Theorem {lit}`Engine.Performed.counts`: the generations of an engine count its vacations.
- Theorem {lit}`Usage.Spent.moved`: a call uses up what its visit tells.
- Theorem {lit}`Process.perform_start_allocationFailure_iff`: no engine is started without a floor.
- Theorem {lit}`Process.run_generation_budget`: when a registry and a process run out of
  generations, over all runs.
-/

namespace Till

/-! ## Vacations of engines -/

/-- The slots that a command vacates in an engine that carries it out, unless it resets it. -/
def Command.vacates : Command → List Nat
  | releaseCart handle => [handle.slot.toNat]
  | _ => []

/-- The slots that a call vacates when it succeeds. -/
def Call.vacates : Call → List Nat
  | releaseCart handle => [handle.slot.toNat]
  | _ => []

/-- A call vacates what its command vacates. -/
theorem Call.Asks.vacates_eq {call : Call} {command : Command} (h : call.Asks command) :
    command.vacates = call.vacates := by
  cases h <;> rfl

/-- Only a release vacates a slot. -/
theorem Command.vacates_eq_nil {command : Command} {handle : Handle} {request : Request}
    (h : command.request? = some (handle, request)) (hrelease : request ≠ .release) :
    command.vacates = [] := by
  cases command with
  | releaseCart named =>
    cases h
    exact absurd rfl hrelease
  | _ => rfl

/-- The generations of an engine count the slots that its commands vacate. -/
theorem Engine.Performed.counts {engine after : Engine} {command : Command} {answer : Answer}
    {vacated : List Nat} (h : engine.carts.WellFormed)
    (hperformed : engine.Performed command answer after) (hreset : command ≠ .reset)
    (hcounts : engine.carts.Counts fun index => vacated.count index) :
    after.carts.Counts fun index => (command.vacates ++ vacated).count index := by
  cases hperformed with
  | load _ => exact hcounts
  | text => exact hcounts
  | create hcreate => exact hcounts.create h hcreate
  | @request _ handle request cart _ content hrequest hcart hperform =>
    have hrelease := Request.content_eq_none_iff hperform
    cases content with
    | some new =>
      have hother : request ≠ .release := by
        intro heq
        cases hrelease.2 heq
      rw [Command.vacates_eq_nil hrequest hother]
      exact hcounts.put hcart
    | none =>
      rw [hrelease.1 rfl, Command.request?_release_iff] at hrequest
      rw [hrequest]
      have hvacated := hcounts.withVacated (Registry.cart?_eq_some_iff.1 hcart)
      have htimes : (fun index => ((Command.releaseCart handle).vacates ++ vacated).count index) =
          fun index => vacated.count index + if index = handle.slot.toNat then 1 else 0 := by
        funext index
        rw [Command.vacates, List.singleton_append, List.count_cons]
        exact congrArg _ (if_congr (by rw [beq_iff_eq, eq_comm]) rfl rfl)
      rw [htimes]
      exact hvacated
  | reset _ => exact absurd rfl hreset

/-! ## What visits tell -/

/-- The slots that engines have vacated, with one entry for each time: those of each engine that
was stopped, and those since then. -/
structure Usage where
  stopped : List (List Nat) := []
  running : List Nat := []
  deriving DecidableEq, Repr

namespace Usage

/-- The usage after one more visit. -/
def visit (usage : Usage) (visit : Visit) : Usage :=
  if visit.reply.status ≠ .success then usage
  else if visit.call.stops && visit.running then ⟨usage.running :: usage.stopped, []⟩
  else { usage with running := visit.call.vacates ++ usage.running }

/-- The usage after some visits to a fresh boundary. -/
def ofVisits (visits : List Visit) : Usage :=
  visits.foldl visit {}

/-- How many generations engines use up that have vacated these slots. -/
def generations : List (List Nat) → Nat
  | [] => 0
  | vacated :: others => 1 + mostOften vacated + generations others

/-- The generations that were used up are those below the floor, or below the first one of the
running engine, which counts its own vacations. -/
structure Spent (usage : Usage) (boundary : Boundary) : Prop where
  idle : boundary.engine = none → usage.running = []
  floor : boundary.engine = none → boundary.floor.map UInt32.toNat =
    if generations usage.stopped + 1 < Handle.halfSize then some (generations usage.stopped + 1)
    else none
  first : ∀ engine, boundary.engine = some engine →
    engine.carts.firstGeneration.toNat = generations usage.stopped + 1
  counts : ∀ engine, boundary.engine = some engine →
    engine.carts.Counts fun index => usage.running.count index

variable {usage : Usage} {boundary after : Boundary} {call : Call} {reply : Reply}

/-- Nothing is used up at first. -/
theorem spent_fresh : Spent {} {} where
  idle _ := rfl
  floor _ := rfl
  first _ h := by cases h
  counts _ h := by cases h

/-- A call uses up what its visit tells. -/
theorem Spent.moved (h : usage.Spent boundary) (hwell : boundary.WellFormed)
    (hmoved : boundary.Moved call reply after) (id : Nat) (lastError : String) :
    (usage.visit ⟨id, call, boundary.engine.isSome, reply, lastError⟩).Spent after := by
  unfold Usage.visit
  cases hmoved with
  | rejected cause output =>
    rw [if_pos (Thread.status_ne_success cause)]
    exact h
  | @errand _ errand engine last _ _ herrand hengine hperformed _ =>
    have hasks := Call.asks_of_errand? herrand
    have hstops : call.stops = false := by
      cases call with
      | stop => cases herrand
      | _ => rfl
    have hcarts := (hwell engine hengine).carts
    have hfirst := hperformed.firstGeneration_eq hcarts hasks.ne_reset
    have hcounts := hperformed.counts hcarts hasks.ne_reset (h.counts engine hengine)
    rw [hasks.vacates_eq] at hcounts
    simp only [hstops, Bool.false_and, ne_eq, not_true_eq_false, Bool.false_eq_true, if_false]
    constructor
    · intro hnone
      cases hnone
    · intro hnone
      cases hnone
    · rintro _ ⟨⟩
      rw [hfirst, h.first engine hengine]
    · rintro _ ⟨⟩
      exact hcounts
  | @started _ config floor hcall hengine hfloor =>
    have hvacates : call.vacates = [] := by
      rcases hcall with ⟨environment, rfl⟩ | ⟨text, rfl⟩ <;> rfl
    have hspent := h.floor hengine
    rw [hfloor, Option.map_some, eq_comm, Option.ite_none_right_eq_some] at hspent
    simp only [hengine, hvacates, h.idle hengine, Option.isSome_none, Bool.and_false, ne_eq,
      not_true_eq_false, Bool.false_eq_true, if_false, List.append_nil]
    constructor
    · intro hnone
      cases hnone
    · intro hnone
      cases hnone
    · rintro _ ⟨⟩
      have heq := Option.some.inj hspent.2
      change (Registry.startingAt floor).firstGeneration.toNat = generations usage.stopped + 1
      rw [Registry.firstGeneration_startingAt]
      omega
    · rintro _ ⟨⟩
      exact Registry.counts_startingAt floor
  | @stopped engine hengine =>
    simp only [hengine, Call.stops, Option.isSome_some, Bool.and_self, ne_eq, not_true_eq_false,
      if_false, if_true]
    constructor
    · exact fun _ => rfl
    · intro _
      have hnext := (h.counts engine hengine).nextFloor_eq
      rw [h.first engine hengine] at hnext
      have hsum : generations (usage.running :: usage.stopped) + 1 =
          generations usage.stopped + 1 + 1 + mostOften usage.running := by
        rw [generations]
        omega
      rw [hsum]
      exact hnext
    · intro _ hsome
      cases hsome
    · intro _ hsome
      cases hsome
  | idle output herrand hstop =>
    have hvacates : call.vacates = [] := by
      cases call with
      | releaseCart handle => cases herrand
      | _ => rfl
    have hstops : (call.stops && boundary.engine.isSome) = false := by
      cases call with
      | stop => rw [hstop rfl, Option.isSome_none, Bool.and_false]
      | _ => rfl
    simp only [hstops, hvacates, ne_eq, not_true_eq_false, Bool.false_eq_true, if_false,
      List.nil_append]
    exact h

end Usage

/-! ## Starting without a floor -/

namespace Thread

variable [Wording] {config : Config}

/-- When no engine is running a start is refused for lack of generations exactly when there is no
floor. -/
theorem conclude_startEngine_allocationFailure_iff {boundary : Boundary}
    (hengine : boundary.engine = none) (lastError : String) :
    ∃ reply after,
      conclude lastError ((Action.startEngine config).on ⟨boundary, .untouched⟩).1
        ((Action.startEngine config).on ⟨boundary, .untouched⟩).2 = .ok (reply, after) ∧
      (reply.status = .refused .allocationFailure ↔ boundary.floor = none) := by
  rw [Action.on_startEngine, hengine]
  cases boundary.floor with
  | none => exact ⟨_, _, rfl, iff_of_true rfl rfl⟩
  | some floor =>
    dsimp only
    unfold Engine.start
    cases hcheck : config.check with
    | error cause =>
      refine ⟨_, _, rfl, ?_⟩
      simp [Rejection.status, Config.kind_of_check_eq_error hcheck]
    | ok _ =>
      refine ⟨_, _, rfl, ?_⟩
      simp

/-- So is a call that asks for a configuration. -/
theorem perform_start_allocationFailure_iff {thread : Thread} {call : Call}
    (hconfig : call.config? = some config) (hengine : thread.boundary.engine = none) :
    ∃ reply after, thread.perform call = .ok (reply, after) ∧
      (reply.status = .refused .allocationFailure ↔ thread.boundary.floor = none) := by
  unfold perform
  cases call with
  | start environment => exact conclude_startEngine_allocationFailure_iff hengine _
  | startWith text =>
    simp only [Call.config?] at hconfig
    simp only [Call.action, Action.on_bind, Action.on_readText]
    cases hread : text.read "config_json" with
    | error cause =>
      rw [hread] at hconfig
      cases hconfig
    | ok content =>
      rw [hread] at hconfig
      dsimp only at hconfig ⊢
      cases htext : Config.ofText content with
      | error cause =>
        rw [htext] at hconfig
        cases hconfig
      | ok asked => exact conclude_startEngine_allocationFailure_iff hengine _
  | _ => cases hconfig

end Thread

/-! ## Runs -/

namespace Process

/-- After every run of a new registry the next floor is one above the first generation and the
vacations of the slot that was vacated most often, unless there is no such generation, and it is
above all handles that were given out.  After every run of a process in which no engine is left
running, the next one cannot be started for lack of generations exactly when the engines so far
have used up all of them but the zero. -/
theorem run_generation_budget [Wording] :
    (∀ (first : UInt32) (operations : List Registry.Operation),
      let registry := ((Registry.startingAt first).run operations).2
      let floor := max first.toNat 1 + 1 +
        mostOften ((Registry.startingAt first).vacations operations)
      (registry.nextFloor.map UInt32.toNat =
        if floor < Handle.halfSize then some floor else none) ∧
      ∀ next, registry.nextFloor = some next →
        ∀ handle ∈ Registry.issued ((Registry.startingAt first).history operations),
          handle.generation.toNat < next.toNat) ∧
    ∀ calls : List (Nat × Call), ∃ visits last,
      run {} calls = .ok (visits, last) ∧ visits.map Visit.request = calls ∧
        (last.boundary.engine = none → ∀ id call config, call.config? = some config →
          ∃ reply after, last.perform id call = .ok (reply, after) ∧
            (reply.status = .refused .allocationFailure ↔
              Handle.halfSize - 1 ≤ Usage.generations (Usage.ofVisits visits).stopped)) := by
  constructor
  · exact Registry.run_nextFloor
  intro calls
  have hfresh : ({} : Process).boundary.WellFormed := Boundary.Reachable.fresh.wellFormed
  have hunused : (Usage.ofVisits []).Spent ({} : Process).boundary := Usage.spent_fresh
  rcases run_induction
    (motive := fun past process => (Usage.ofVisits past).Spent process.boundary)
    hfresh hunused (by
      intro past before id call reply after hwell hspent hperform
      rcases perform_eq_ok_iff.1 hperform with ⟨thread, hthread, rfl⟩
      rcases perform_moved hwell id call with ⟨_, _, heq, hmoved⟩
      rw [hthread] at heq
      cases heq
      rw [Usage.ofVisits, List.foldl_append]
      exact hspent.moved hwell hmoved id _) calls with
    ⟨visits, last, hrun, hcalls, hwell, hspent⟩
  rw [List.nil_append] at hspent
  refine ⟨visits, last, hrun, hcalls, ?_⟩
  intro hengine id call config hconfig
  have hidle : (last.thread id).boundary.engine = none := hengine
  rcases Thread.perform_start_allocationFailure_iff hconfig hidle with
    ⟨reply, thread, hthread, hstatus⟩
  refine ⟨reply, _, perform_eq_ok_iff.2 ⟨thread, hthread, rfl⟩, hstatus.trans ?_⟩
  change last.boundary.floor = none ↔ _
  rw [← Option.map_eq_none_iff, hspent.floor hengine]
  simp only [ite_eq_right_iff, reduceCtorEq, imp_false, Nat.not_lt]
  omega

/-- A registry reaches the last generation and no floor is left in the one after it; two engines
use up three generations, so that a third one can be started. -/
theorem run_generation_budget_last_generation :
    let operations : List Registry.Operation := [.create, .release ⟨4294967293, 0⟩, .create]
    let registry := ((Registry.startingAt 4294967293).run operations).2
    let calls : List (Nat × Call) :=
      [(0, .start fun _ => none), (0, .createCart .cell), (1, .releaseCart ⟨1, 0⟩), (1, .stop),
        (0, .start fun _ => none), (0, .stop)]
    (registry.nextFloor = some 4294967295 ∧
      Registry.issued ((Registry.startingAt 4294967293).history operations) =
        [⟨4294967293, 0⟩, ⟨4294967294, 0⟩] ∧
      ((Registry.startingAt 4294967294).run [.create, .release ⟨4294967294, 0⟩]).2.nextFloor =
        none ∧
      ∀ handle ∈ Registry.issued ((Registry.startingAt 4294967293).history operations),
        handle.generation.toNat < 4294967295) ∧
    ∃ visits last, run {} calls = .ok (visits, last) ∧
      (Usage.ofVisits visits).stopped = [[], [0]] ∧ last.boundary.engine = none ∧
      ∃ reply after, last.perform 1 (.start fun _ => none) = .ok (reply, after) ∧
        reply.status ≠ .refused .allocationFailure := by
  intro operations registry calls
  have hfloor : registry.nextFloor = some 4294967295 := by decide +kernel
  have hissued : Registry.issued ((Registry.startingAt 4294967293).history operations) =
      [⟨4294967293, 0⟩, ⟨4294967294, 0⟩] := by decide +kernel
  refine ⟨⟨hfloor, hissued, by decide +kernel,
    (run_generation_budget.1 4294967293 operations).2 _ hfloor⟩, ?_⟩
  let done : Reply := ⟨.success, .untouched⟩
  let visits : List Visit :=
    [⟨0, .start fun _ => none, false, done, ""⟩,
      ⟨0, .createCart .cell, true, ⟨.success, .handle ⟨1, 0⟩⟩, ""⟩,
      ⟨1, .releaseCart ⟨1, 0⟩, true, done, ""⟩, ⟨1, .stop, true, done, ""⟩,
      ⟨0, .start fun _ => none, false, done, ""⟩, ⟨0, .stop, true, done, ""⟩]
  have hvisits : ∃ process, run {} calls = .ok (visits, process) ∧
      process.boundary.engine = none := ⟨_, rfl, rfl⟩
  rcases hvisits with ⟨process, hprocess, hengine⟩
  have hstopped : (Usage.ofVisits visits).stopped = [[], [0]] := rfl
  rcases run_generation_budget.2 calls with ⟨visits', last, hrun, _, hstart⟩
  rw [hprocess] at hrun
  cases hrun
  rcases hstart hengine 1 (.start fun _ => none) _ rfl with ⟨reply, after, hperform, hstatus⟩
  refine ⟨visits, process, hprocess, hstopped, hengine, reply, after, hperform, ?_⟩
  rw [ne_eq, hstatus, hstopped]
  decide

end Process

end Till
