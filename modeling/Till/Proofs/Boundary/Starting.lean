import Till.Proofs.Boundary.Configuration
import Till.Proofs.Config.Environment
import Till.Proofs.Config.Policy

/-!
# Starting an engine

An engine starts only under a configuration that keeps the rules, and under this one it runs until
it is stopped.  A configuration from an environment always keeps them, so that a start from an
environment fails only when no generation of handles is left.

Main results:

- Theorem {lit}`Thread.perform_start`: what a start from an environment comes to.
- Theorem {lit}`Thread.run_stop_start`: what a stop and a start come to.
- Theorem {lit}`Boundary.Reachable.check_config`: the running engine is under a configuration that
  keeps the rules.
- Theorem {lit}`Environment.config_usable`: every environment gives a configuration that can be
  started, each variable for itself.
-/

namespace Till

namespace Thread

variable [Wording] {thread after : Thread} {call : Call} {reply : Reply} {config : Config}

/-- A start from an environment does nothing while an engine is running, and else starts one under
the configuration of the environment, as long as there is a generation for its handles. -/
theorem perform_start (thread : Thread) (environment : HostEnvironment) :
    thread.perform (.start environment) =
      match thread.boundary.engine, thread.boundary.floor with
      | some _, _ => .ok (⟨.success, .untouched⟩, thread)
      | none, none => .ok (⟨.refused .allocationFailure, .untouched⟩,
          { thread with lastError := recorded (Refusal.allocationFailure "cart handle").message })
      | none, some floor => .ok (⟨.success, .untouched⟩,
          { thread with boundary := { thread.boundary with
              engine := some (.startingAt environment.texts.config floor) } }) := by
  rw [perform, Call.action, Action.on_startEngine]
  cases thread.boundary.engine with
  | some engine => rfl
  | none =>
    cases thread.boundary.floor with
    | none => rfl
    | some floor =>
      simp only [Engine.start, environment.texts.check_config]
      rfl

/-- A stop and a start under the same configuration put the successor in the place of the engine, as
long as there is one. -/
theorem run_stop_start (h : thread.boundary.WellFormed) {engine : Engine}
    (hengine : thread.boundary.engine = some engine) {environment : HostEnvironment}
    (hconfig : environment.texts.config = engine.config) :
    thread.run [.stop, .start environment] =
      match engine.successor? with
      | some (floor, next) => .ok ([⟨.success, .untouched⟩, ⟨.success, .untouched⟩],
          ⟨⟨some next, some floor⟩, thread.lastError⟩)
      | none => .ok ([⟨.success, .untouched⟩, ⟨.refused .allocationFailure, .untouched⟩],
          ⟨⟨none, none⟩, recorded (Refusal.allocationFailure "cart handle").message⟩) := by
  simp only [run, perform_stop h, hengine, perform_start, hconfig, Engine.successor?, ok_bind]
  cases engine.nextFloor <;> rfl

/-- An engine that was started now runs under a configuration that keeps the rules. -/
theorem check_of_conclude_startEngine {boundary : Boundary} {lastError : String} {engine : Engine}
    (h : conclude lastError ((Action.startEngine config).on ⟨boundary, .untouched⟩).1
      ((Action.startEngine config).on ⟨boundary, .untouched⟩).2 = .ok (reply, after))
    (hnone : boundary.engine = none) (hengine : after.boundary.engine = some engine) :
    engine.config.check = .ok () := by
  rw [Action.on_startEngine] at h
  simp only [hnone] at h
  cases hfloor : boundary.floor with
  | none =>
    simp only [hfloor] at h
    cases h
    cases hnone.symm.trans hengine
  | some floor =>
    simp only [hfloor, Engine.start] at h
    cases hcheck : config.check with
    | error cause =>
      simp only [hcheck] at h
      cases h
      cases hnone.symm.trans hengine
    | ok _ =>
      simp only [hcheck] at h
      cases h
      cases hengine
      exact hcheck

/-- So does one that a call has started. -/
theorem check_of_perform {engine : Engine} (hstarts : call.starts = true)
    (hperform : thread.perform call = .ok (reply, after)) (hnone : thread.boundary.engine = none)
    (hengine : after.boundary.engine = some engine) : engine.config.check = .ok () := by
  unfold perform at hperform
  cases call with
  | start environment => exact check_of_conclude_startEngine hperform hnone hengine
  | startWith text =>
    simp only [Call.action, Action.on_bind, Action.on_readText] at hperform
    cases hread : text.read "config_json" with
    | error cause =>
      simp only [hread] at hperform
      cases hperform
      cases hnone.symm.trans hengine
    | ok content =>
      simp only [hread] at hperform
      cases htext : Config.ofText content with
      | error cause =>
        simp only [htext] at hperform
        cases hperform
        cases hnone.symm.trans hengine
      | ok config =>
        simp only [htext] at hperform
        exact check_of_conclude_startEngine hperform hnone hengine
  | _ => cases hstarts

end Thread

/-- The running engine is under a configuration that keeps the rules. -/
theorem Boundary.Reachable.check_config [Wording] {boundary : Boundary} (h : boundary.Reachable)
    {engine : Engine} (hengine : boundary.engine = some engine) :
    engine.config.check = .ok () := by
  induction h generalizing engine with
  | fresh => cases hengine
  | @called thread after call reply hperform hreachable ih =>
    rcases Thread.perform_moved hreachable.wellFormed call with ⟨reply', after', hperform', hmoved⟩
    rw [hperform] at hperform'
    cases hperform'
    generalize hafter : after.boundary = moved at hmoved hengine
    cases hmoved with
    | rejected cause output => exact ih hengine
    | errand herrand hrunning hperformed hdeliver =>
      cases hengine
      rw [hperformed.config_eq]
      exact ih hrunning
    | started config hcall hnone hfloor =>
      have hstarts : call.starts = true := by
        rcases hcall with ⟨environment, rfl⟩ | ⟨text, rfl⟩ <;> rfl
      exact Thread.check_of_perform hstarts hperform hnone (hafter ▸ hengine)
    | stopped hrunning => cases hengine
    | idle output herrand hstop => exact ih hengine

/-! ## Environments -/

namespace Environment

/-- Every environment gives a configuration that keeps the rules, so that a start from it is never
refused as malformed: it succeeds, or no generation of handles is left.  The policy depends only on
its variable and so does the ceiling, and a variable that is not understood gives the same
configuration as none, which is the default one.  The policy is the one that its text names.  The
ceiling is the integer from one to the greatest word that the text denotes between its blanks, and
there is none when it denotes no such integer. -/
theorem config_usable [Wording] :
    (∀ environment : Environment, environment.config.check = .ok ()) ∧
    (∀ (thread : Thread) (environment : HostEnvironment), ∃ reply after,
      thread.perform (.start environment) = .ok (reply, after) ∧
        reply.status ≠ .refused .malformedInput ∧
        (reply.status = .success ∨ reply.status = .refused .allocationFailure ∧
          thread.boundary.engine = none ∧ thread.boundary.floor = none)) ∧
    (∀ environment other : Environment,
      (environment policyName = other policyName →
        environment.config.changePolicy = other.config.changePolicy) ∧
      (environment ceilingName = other ceilingName →
        environment.config.maxLineQuantity = other.config.maxLineQuantity)) ∧
    (∀ (environment : Environment) (typed : String),
      (environment policyName = some typed → (∀ policy, ChangePolicy.ofText typed ≠ .ok policy) →
        environment.config = (environment.unset policyName).config) ∧
      (environment ceilingName = some typed → (∀ n, ¬AsksFor typed n) →
        environment.config = (environment.unset ceilingName).config)) ∧
    (∀ environment : Environment,
      (environment policyName = none → environment.config.changePolicy = .report) ∧
      (environment ceilingName = none → environment.config.maxLineQuantity = none)) ∧
    (∀ (environment : Environment) (typed : String) (policy : ChangePolicy),
      environment policyName = some typed → ChangePolicy.Names typed policy →
        environment.config.changePolicy = policy) ∧
    ∀ (environment : Environment) (typed : String), environment ceilingName = some typed →
      (∀ n : Int, (∃ max, environment.config.maxLineQuantity = some max ∧ max.toInt = n) ↔
        AsksFor typed n) ∧
      (environment.config.maxLineQuantity = none ↔ ∀ n, ¬AsksFor typed n) := by
  refine ⟨check_config, ?_, ?_, ?_, ?_, ?_, ?_⟩
  · intro thread environment
    rw [thread.perform_start environment]
    cases thread.boundary.engine with
    | some engine => exact ⟨_, _, rfl, nofun, .inl rfl⟩
    | none =>
      cases thread.boundary.floor with
      | none => exact ⟨_, _, rfl, by simp, .inr ⟨rfl, rfl, rfl⟩⟩
      | some floor => exact ⟨_, _, rfl, nofun, .inl rfl⟩
  · intro environment other
    constructor
    · intro hpolicy
      rw [config, config, hpolicy]
    · intro hceiling
      rw [config, config, hceiling]
  · intro environment typed
    constructor
    · intro htyped hnot
      refine (config_unset (fun _ found hfound => ?_) fun heq => absurd heq (by decide)).symm
      cases htyped.symm.trans hfound
      exact policyOfText?_eq_none_iff.2 hnot
    · intro htyped hnot
      refine (config_unset (fun heq => absurd heq (by decide)) fun _ found hfound => ?_).symm
      cases htyped.symm.trans hfound
      exact ceilingOfText?_eq_none_iff.2 hnot
  · intro environment
    constructor
    · intro hnone
      rw [config, hnone]
      rfl
    · intro hnone
      rw [config, hnone]
      rfl
  · intro environment typed policy htyped hnames
    have hread := policyOfText?_eq_some_iff.2 (ChangePolicy.ofText_eq_ok_iff_names.2 hnames)
    rw [config, htyped, Option.bind_some, hread]
    rfl
  · intro environment typed htyped
    have hceiling : environment.config.maxLineQuantity = ceilingOfText? typed := by
      rw [config, htyped, Option.bind_some]
    simp only [hceiling]
    exact ⟨fun n => exists_ceilingOfText?_iff, ceilingOfText?_eq_none_iff⟩

/-- The greatest word is a ceiling, with a sign, zeros in front and a wide space before them; the
number after it is none.  A policy is understood in capitals, and one with a letter missing counts
as none. -/
theorem config_usable_greatest_ceiling :
    let greatest := "\u3000+0009223372036854775807\n"
    let past := "9223372036854775808"
    let typed := " CLAMP_to_zero"
    let typo := "clam"
    let environment (policy ceiling : Option String) : Environment :=
      fun name => if name = policyName then policy else if name = ceilingName then ceiling else none
    (∃ max, (environment typed greatest).config.maxLineQuantity = some max ∧
      max.toInt = Bounded.greatest) ∧
    (environment typed greatest).config.changePolicy = .clampToZero ∧
    (environment typo past).config = ((environment typo past).unset ceilingName).config ∧
    (environment typo past).config = ((environment typo past).unset policyName).config ∧
    (environment none past).config.changePolicy = .report ∧
    (environment typed none).config.maxLineQuantity = none ∧
    (environment typo past).config.check = .ok () := by
  intro greatest past typed typo environment
  rcases config_usable with ⟨hcheck, _, _, hunset, hnone, hpolicy, hceiling⟩
  refine ⟨?_, ?_, ?_, ?_, (hnone _).1 rfl, (hnone _).2 rfl, hcheck _⟩
  · refine ((hceiling (environment typed greatest) greatest rfl).1 Bounded.greatest).2 ?_
    have htrims : Blank.Trims greatest.toList ('+' :: "0009223372036854775807".toList) :=
      Blank.trim_eq_iff.1 (by decide +kernel)
    have hdenotes : Decimal.Denotes ('+' :: "0009223372036854775807".toList) Bounded.greatest :=
      .plus ⟨List.cons_ne_nil _ _, List.all_eq_true.1 (by decide +kernel)⟩
    exact ⟨⟨_, htrims, hdenotes⟩, by decide, Int.le_refl _⟩
  · have htrims : Blank.Trims typed.toList "CLAMP_to_zero".toList :=
      Blank.trim_eq_iff.1 (by decide +kernel)
    exact hpolicy _ typed _ rfl ⟨_, "clamp_to_zero", htrims, by decide +kernel, by decide⟩
  · exact (hunset (environment typo past) past).2 rfl
      (ceilingOfText?_eq_none_iff.1 (by decide +kernel))
  · exact (hunset (environment typo past) typo).1 rfl
      (policyOfText?_eq_none_iff.1 (by decide +kernel))

end Environment
end Till
