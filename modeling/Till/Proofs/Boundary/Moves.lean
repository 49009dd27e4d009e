import Till.Proofs.Boundary.Errand
import Till.Proofs.Engine.WellFormed

/-!
# What calls do

From a fresh boundary on the running engine is always well-formed, so that each call has a
reply.  A call that is rejected leaves the boundary as it is.  One that succeeds is an
errand that the engine carries out, starts or stops an engine, or leaves the boundary alone
as well.

Main results:

- Theorem {lit}`Thread.perform_moved`: a call has a reply, and does one of these things.
- Theorem {lit}`Thread.run_induction`: what holds of a fresh boundary and is preserved by every
  call together with its reply holds after every run together with its replies.
-/

namespace Till

namespace Boundary

/-- The running engine is well-formed. -/
def WellFormed (boundary : Boundary) : Prop :=
  ∀ engine, boundary.engine = some engine → engine.WellFormed

/-- All that a call can do to a boundary, with its reply. -/
inductive Moved (boundary : Boundary) : Call → Reply → Boundary → Prop where
  | rejected {call : Call} (cause : Rejection) (output : Output) :
      Moved boundary call ⟨cause.status, output⟩ boundary
  | errand {call : Call} {errand : Errand} {engine after : Engine} {answer : Answer}
      {output : Output} (herrand : call.errand? = some (.ok errand))
      (hengine : boundary.engine = some engine)
      (hperformed : engine.Performed errand.command answer after)
      (hdeliver : call.deliver answer = .ok output) :
      Moved boundary call ⟨.success, output⟩ { boundary with engine := some after }
  | started {call : Call} (config : Config) {floor : UInt32}
      (hcall : (∃ environment, call = .start environment) ∨ ∃ text, call = .startWith text)
      (hengine : boundary.engine = none) (hfloor : boundary.floor = some floor) :
      Moved boundary call ⟨.success, .untouched⟩
        { boundary with engine := some (.startingAt config floor) }
  | stopped {engine : Engine} (hengine : boundary.engine = some engine) :
      Moved boundary .stop ⟨.success, .untouched⟩ ⟨none, engine.nextFloor⟩
  | idle {call : Call} (output : Output) (herrand : call.errand? = none)
      (hstop : call = .stop → boundary.engine = none) :
      Moved boundary call ⟨.success, output⟩ boundary

variable {boundary after : Boundary} {call : Call} {reply : Reply}

/-- A boundary is well-formed after a call. -/
theorem WellFormed.moved (h : boundary.WellFormed) (hmoved : boundary.Moved call reply after) :
    after.WellFormed := by
  cases hmoved with
  | rejected cause output => exact h
  | errand herrand hengine hperformed hdeliver =>
    intro engine heq
    cases heq
    exact (h _ hengine).performed hperformed
  | @started _ config floor hcall hengine hfloor =>
    intro engine heq
    cases heq
    exact Engine.wellFormed_startingAt config floor
  | stopped hengine =>
    intro engine heq
    cases heq
  | idle output herrand hstop => exact h

end Boundary

/-! ## Calls have replies -/

/-- Stopping an engine does not fail when all its carts can be released. -/
theorem Boundary.on_stopEngine {boundary : Boundary}
    (h : ∀ engine, boundary.engine = some engine → engine.carts.WellFormed) (output : Output) :
    Action.stopEngine.on ⟨boundary, output⟩ =
      match boundary.engine with
      | none => (.ok (), ⟨boundary, output⟩)
      | some engine => (.ok (), ⟨⟨none, engine.nextFloor⟩, output⟩) := by
  rw [Action.on_stopEngine]
  cases hengine : boundary.engine with
  | none => rfl
  | some engine =>
    simp only [Engine.reset, (h engine hengine).releaseAll_eq]
    rfl

/-- Stopping the engine of a well-formed boundary does not fail. -/
theorem Boundary.WellFormed.on_stopEngine {boundary : Boundary} (h : boundary.WellFormed)
    (output : Output) :
    Action.stopEngine.on ⟨boundary, output⟩ =
      match boundary.engine with
      | none => (.ok (), ⟨boundary, output⟩)
      | some engine => (.ok (), ⟨⟨none, engine.nextFloor⟩, output⟩) :=
  Boundary.on_stopEngine (fun engine hengine => (h engine hengine).carts) output

namespace Call

variable {call : Call} {errand : Errand} {engine after : Engine} {answer : Answer}

/-- Only a text may fail to be delivered. -/
theorem of_deliver_eq_error {cause : Rejection} (h : call.deliver answer = .error cause) :
    (∃ place, call = .catalogText place) ∨ ∃ handle place, call = .lines handle place := by
  cases call with
  | catalogText place => exact Or.inl ⟨place, rfl⟩
  | lines handle place => exact Or.inr ⟨handle, place, rfl⟩
  | _ => cases answer <;> cases h

/-- What cannot be delivered is not refused for its handle. -/
theorem status_of_deliver_eq_error {cause : Rejection}
    (h : call.deliver answer = .error cause) : cause.status = .refused .serializationError := by
  have htext : ∀ text, textOutput text = .error cause →
      cause.status = .refused .serializationError := by
    intro text htext
    unfold textOutput at htext
    split at htext
    · cases htext
    · cases htext
      rfl
  rcases of_deliver_eq_error h with ⟨place, rfl⟩ | ⟨named, place, rfl⟩
  · cases answer with
    | text text => exact htext text h
    | _ => cases h
  · cases answer with
    | text text => exact htext text h
    | _ => cases h

/-- What cannot be delivered is the answer to a question, which leaves the engine as it
is. -/
theorem eq_of_deliver_eq_error (herrand : call.errand? = some (.ok errand))
    (hperformed : engine.Performed errand.command answer after) {cause : Rejection}
    (hdeliver : call.deliver answer = .error cause) : after = engine := by
  have hasks := asks_of_errand? herrand
  generalize errand.command = command at hasks hperformed
  rcases of_deliver_eq_error hdeliver with ⟨place, rfl⟩ | ⟨handle, place, rfl⟩
  · cases hasks
    cases hperformed with
    | text => rfl
    | request hrequest hcart hcontent => cases hrequest
  · cases hasks
    cases hperformed with
    | request hrequest hcart hcontent =>
      cases hrequest
      simp only [Request.perform, bind_eq_ok_iff] at hcontent
      rcases hcontent with ⟨snapshot, _, hsome⟩
      cases hsome
      rw [Registry.settle, Registry.put_self hcart]

end Call

namespace Thread

variable [Wording] {thread : Thread}

/-- Stopping succeeds, and leaves no engine and the next floor. -/
theorem perform_stop (h : thread.boundary.WellFormed) :
    thread.perform .stop = .ok (⟨.success, .untouched⟩,
      match thread.boundary.engine with
      | none => thread
      | some engine => { thread with boundary := ⟨none, engine.nextFloor⟩ }) := by
  unfold perform
  simp only [Call.action, h.on_stopEngine]
  cases thread.boundary.engine <;> rfl

/-- Starting an engine starts one, or is refused and does nothing. -/
theorem conclude_startEngine (boundary : Boundary) (config : Config) (lastError : String)
    {call : Call} (hcall : (∃ environment, call = .start environment) ∨
      ∃ text, call = .startWith text) :
    ∃ reply after,
      conclude lastError ((Action.startEngine config).on ⟨boundary, .untouched⟩).1
        ((Action.startEngine config).on ⟨boundary, .untouched⟩).2 = .ok (reply, after) ∧
      boundary.Moved call reply after.boundary := by
  have herrand : call.errand? = none := by
    rcases hcall with ⟨environment, rfl⟩ | ⟨text, rfl⟩ <;> rfl
  have hstop : call = .stop → boundary.engine = none := by
    intro heq
    rcases heq with rfl
    rcases hcall with ⟨environment, heq⟩ | ⟨text, heq⟩ <;> cases heq
  rw [Action.on_startEngine]
  cases hengine : boundary.engine with
  | some engine => exact ⟨_, _, rfl, .idle .untouched herrand hstop⟩
  | none =>
    cases hfloor : boundary.floor with
    | none => exact ⟨_, _, rfl, .rejected (.refused (.allocationFailure "cart handle")) _⟩
    | some floor =>
      dsimp only
      unfold Engine.start
      cases config.check with
      | error cause => exact ⟨_, _, rfl, .rejected (.refused cause) _⟩
      | ok _ =>
        exact ⟨_, _, rfl, .started config hcall hengine hfloor⟩

/-- An errand has a reply, and it is rejected or carried out. -/
theorem perform_moved_of_errand? (h : thread.boundary.WellFormed) {call : Call}
    {prepared : Except Rejection Errand} (herrand : call.errand? = some prepared) :
    ∃ reply after, thread.perform call = .ok (reply, after) ∧
      thread.boundary.Moved call reply after.boundary := by
  rw [perform_of_errand? herrand]
  rcases prepared with cause | errand
  · exact ⟨_, _, rfl, .rejected cause _⟩
  cases hengine : thread.boundary.engine with
  | none =>
    simp only [Call.carryOut, hengine]
    exact ⟨_, _, rfl, .rejected (.refused .notInitialized) _⟩
  | some engine =>
    have hwell := h engine hengine
    have hanswered := hwell.answered errand.command
    cases hperform : engine.perform errand.command with
    | error failure =>
      rcases failure with cause | fault
      · simp only [Call.carryOut, hengine, hperform]
        exact ⟨_, _, rfl, .rejected (.refused cause) _⟩
      · rw [hperform] at hanswered
        exact hanswered.elim
    | ok result =>
      rcases result with ⟨answer, last⟩
      have hperformed := (Engine.perform_eq_ok_iff hwell.carts).1 hperform
      cases hdeliver : call.deliver answer with
      | ok output =>
        simp only [Call.carryOut, hengine, hperform, hdeliver]
        exact ⟨_, _, rfl, .errand herrand hengine hperformed hdeliver⟩
      | error cause =>
        have hsame : { thread.boundary with engine := some last } = thread.boundary := by
          rw [Call.eq_of_deliver_eq_error herrand hperformed hdeliver, ← hengine]
        simp only [Call.carryOut, hengine, hperform, hdeliver, hsame]
        exact ⟨_, _, rfl, .rejected cause _⟩

/-- A call has a reply, and it does to the boundary what is listed, and nothing else. -/
theorem perform_moved (h : thread.boundary.WellFormed) (call : Call) :
    ∃ reply after, thread.perform call = .ok (reply, after) ∧
      thread.boundary.Moved call reply after.boundary := by
  cases herrand : call.errand? with
  | some prepared => exact perform_moved_of_errand? h herrand
  | none =>
    unfold perform
    cases call with
    | start environment =>
      exact conclude_startEngine _ environment.texts.config _ (Or.inl ⟨environment, rfl⟩)
    | startWith config =>
      simp only [Call.action, Action.on_bind, Action.on_readText]
      cases config.read "config_json" with
      | error cause => exact ⟨_, _, rfl, .rejected cause _⟩
      | ok text =>
        dsimp only
        cases Config.ofText text with
        | error cause => exact ⟨_, _, rfl, .rejected (.refused cause) _⟩
        | ok config => exact conclude_startEngine _ config _ (Or.inr ⟨_, rfl⟩)
    | stop =>
      simp only [Call.action, h.on_stopEngine]
      cases hengine : thread.boundary.engine with
      | none => exact ⟨_, _, rfl, .idle _ herrand fun _ => hengine⟩
      | some engine => exact ⟨_, _, rfl, .stopped hengine⟩
    | version place =>
      cases place with
      | null => exact ⟨_, _, rfl, .rejected (.nullPointer "out_json") _⟩
      | cell =>
        simp only [Call.action, Action.needTextCell, Action.on_bind, Action.on_needCell_cell,
          Action.on_setOutput, Action.writeText]
        cases Action.zeroByte? Call.versionText with
        | some position => exact ⟨_, _, rfl, .rejected (.refused (.serializationError _)) _⟩
        | none => exact ⟨_, _, rfl, .idle _ herrand fun heq => by cases heq⟩
    | lastError => exact ⟨_, _, rfl, .idle _ herrand fun heq => by cases heq⟩
    | freeText => exact ⟨_, _, rfl, .idle _ herrand fun heq => by cases heq⟩
    | _ => cases herrand

/-! ## Runs -/

/-- The calls of a run have replies.  What holds of the boundary that a thread finds and is
preserved by every call together with its reply holds after every run together with its
replies. -/
theorem run_induction (thread : Thread) {motive : List (Call × Reply) → Boundary → Prop}
    (h : thread.boundary.WellFormed) (hstart : motive [] thread.boundary)
    (hstep : ∀ history before call reply after, before.WellFormed → motive history before →
      before.Moved call reply after → motive (history ++ [(call, reply)]) after)
    (calls : List Call) :
    ∃ replies last, thread.run calls = .ok (replies, last) ∧
      replies.length = calls.length ∧ last.boundary.WellFormed ∧
        motive (calls.zip replies) last.boundary := by
  induction calls using List.reverseRecOn with
  | nil => exact ⟨[], thread, rfl, rfl, h, hstart⟩
  | append_singleton calls call ih =>
    rcases ih with ⟨replies, last, hrun, hlength, hwell, hmotive⟩
    rcases perform_moved hwell call with ⟨reply, after, hperform, hmoved⟩
    refine ⟨replies ++ [reply], after, ?_, by simp [hlength], hwell.moved hmoved, ?_⟩
    · rw [run_append, hrun, ok_bind]
      simp only [run, hperform, ok_bind, pure, Except.pure]
    · rw [List.zip_append hlength.symm]
      exact hstep _ _ call reply _ hwell hmotive hmoved

end Thread
end Till
