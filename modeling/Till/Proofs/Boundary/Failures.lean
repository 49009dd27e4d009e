import Till.Proofs.Boundary.Loading
import Till.Proofs.Boundary.Moves
import Till.Proofs.Catalog.Construction

/-!
# Failed calls

A call that fails leaves no trace but its message.  The boundary is as it was, with the
engine, every cart and the floor; a cell for a text holds a null pointer, so that no text of
an earlier call is taken for an answer, and every other cell keeps what it held.  The message
becomes the last error of the thread, in which a zero character is replaced, and it stays
there until another call fails.

Main results:

- Theorem {lit}`Call.output_of_error`: what a call that fails leaves in the cell.
- Theorem {lit}`Thread.perform_cases`: a call succeeds, or it is rejected and does nothing
  but record its message.
- Theorem {lit}`Thread.failed_calls_change_nothing`: both over all reachable boundaries, and
  what the last error is after a run.
-/

namespace Till

/-- The boundaries that calls can lead to, of one thread or of several. -/
inductive Boundary.Reachable [Wording] : Boundary → Prop where
  | fresh : Reachable {}
  | called {thread after : Thread} {call : Call} {reply : Reply}
      (hperform : thread.perform call = .ok (reply, after))
      (h : Reachable thread.boundary) : Reachable after.boundary

/-- A reachable boundary is well-formed. -/
theorem Boundary.Reachable.wellFormed [Wording] {boundary : Boundary} (h : boundary.Reachable) :
    boundary.WellFormed := by
  induction h with
  | fresh =>
    intro engine heq
    cases heq
  | @called thread after call reply hperform _ ih =>
    rcases Thread.perform_moved ih call with ⟨reply', after', hperform', hmoved⟩
    rw [hperform] at hperform'
    cases hperform'
    exact ih.moved hmoved

/-- A process may start an engine without asking for any configuration, -/
theorem Boundary.Reachable.started [Wording] :
    Boundary.Reachable ⟨some (.startingAt {} 1), some 1⟩ := by
  have hstart : Thread.perform {} (.start fun _ => none) =
      .ok (⟨.success, .untouched⟩, ⟨⟨some (.startingAt {} 1), some 1⟩, ""⟩) := rfl
  exact .called hstart .fresh

/-- and create a cart. -/
theorem Boundary.Reachable.created [Wording] :
    Boundary.Reachable
      ⟨some { config := {}, carts := ⟨#[⟨1, some {}⟩], [], 1, 1⟩ }, some 1⟩ := by
  have hcreate : Thread.perform ⟨⟨some (.startingAt {} 1), some 1⟩, ""⟩ (.createCart .cell) =
      .ok (⟨.success, .handle ⟨1, 0⟩⟩,
        ⟨⟨some { config := {}, carts := ⟨#[⟨1, some {}⟩], [], 1, 1⟩ }, some 1⟩, ""⟩) := rfl
  exact .called hcreate started

/-- A call that does not succeed leaves the boundary as it is. -/
theorem Boundary.Moved.eq_of_ne_success {boundary after : Boundary} {call : Call}
    {reply : Reply} (h : boundary.Moved call reply after) (hne : reply.status ≠ .success) :
    after = boundary := by
  cases h with
  | rejected cause output => rfl
  | _ => exact absurd rfl hne

/-! ## The cell for an output -/

namespace Call

/-- The place for the text that a call hands out, if it hands out one. -/
def textPlace? : Call → Option Place
  | version place => some place
  | catalogText place => some place
  | lines _ place => some place
  | _ => none

/-- What the cell for an output holds when a call fails. -/
def outputOfFailure (call : Call) : Output :=
  if call.textPlace? = some .cell then .cleared else .untouched

variable {call : Call}

/-- While an errand goes on the cell holds what it does when the errand fails. -/
theorem cell_of_errand? {errand : Errand} (h : call.errand? = some (.ok errand)) :
    errand.cell = call.outputOfFailure := by
  cases call with
  | catalogText place | lines _ place =>
    cases place with
    | null => cases h
    | cell =>
      cases h
      rfl
  | createCart place | total _ place | given _ place | change _ place =>
    rcases map_eq_ok_iff.1 (Option.some.inj h) with ⟨_, _, rfl⟩
    rfl
  | loadCatalog text | addItem _ text _ =>
    rcases map_eq_ok_iff.1 (Option.some.inj h) with ⟨_, _, rfl⟩
    rfl
  | _ =>
    cases h
    try rfl

/-- A call whose arguments are not in order has not touched the cell. -/
theorem outputOfFailure_of_errand? {cause : Rejection}
    (h : call.errand? = some (.error cause)) : call.outputOfFailure = .untouched := by
  cases call with
  | catalogText place | lines _ place =>
    cases place with
    | null => rfl
    | cell => cases h
  | _ => first | rfl | cases h

/-- An errand that fails leaves the cell as it was on the way. -/
theorem output_of_carryOut_error {prepared : Except Rejection Errand}
    (h : call.errand? = some prepared) {boundary : Boundary} {setback : Setback}
    (herror : (call.carryOut boundary prepared).1 = .error setback) :
    (call.carryOut boundary prepared).2.output = call.outputOfFailure := by
  rcases prepared with cause | errand
  · exact (outputOfFailure_of_errand? h).symm
  · rw [← cell_of_errand? h]
    unfold carryOut at herror ⊢
    dsimp only at herror ⊢
    cases hengine : boundary.engine with
    | none => rfl
    | some engine =>
      simp only [hengine] at herror ⊢
      generalize engine.perform errand.command = outcome at herror ⊢
      rcases outcome with (cause | fault) | ⟨answer, after⟩
      · rfl
      · rfl
      · dsimp only at herror ⊢
        cases hdeliver : call.deliver answer with
        | ok output =>
          rw [hdeliver] at herror
          cases herror
        | error cause => rfl

/-- Starting an engine does not touch the cell. -/
theorem output_startEngine {boundary : Boundary} (config : Config) :
    ((Action.startEngine config).on ⟨boundary, .untouched⟩).2.output = .untouched := by
  rw [Action.on_startEngine]
  cases boundary.engine with
  | some engine => rfl
  | none =>
    cases boundary.floor with
    | none => rfl
    | some floor =>
      dsimp only
      cases Engine.start config floor <;> rfl

/-- A call that fails leaves a null pointer in the cell for a text, and leaves every other
cell alone. -/
theorem output_of_error {message : String} {boundary : Boundary} {setback : Setback}
    (herror : ((call.action message).on ⟨boundary, .untouched⟩).1 = .error setback) :
    ((call.action message).on ⟨boundary, .untouched⟩).2.output = call.outputOfFailure := by
  cases herrand : call.errand? with
  | some prepared =>
    rw [on_action_of_errand? herrand] at herror ⊢
    exact output_of_carryOut_error herrand herror
  | none =>
    cases call with
    | start environment => exact output_startEngine environment.texts.config
    | startWith config =>
      simp only [action, Action.on_bind, Action.on_readText]
      cases config.read "config_json" with
      | error cause => rfl
      | ok text =>
        dsimp only
        cases Config.ofText text with
        | error cause => rfl
        | ok config => exact output_startEngine config
    | stop =>
      simp only [action, Action.on_stopEngine]
      cases boundary.engine with
      | none => rfl
      | some engine =>
        dsimp only
        rw [Action.on_ofOutcome]
        rcases engine.reset with (cause | cause) | after <;> rfl
    | version place =>
      cases place with
      | null => rfl
      | cell =>
        simp only [action, Action.needTextCell, Action.on_bind, Action.on_needCell_cell,
          Action.on_setOutput, Action.writeText] at herror ⊢
        cases hzero : Action.zeroByte? versionText with
        | some position => rfl
        | none =>
          rw [hzero] at herror
          cases herror
    | lastError => cases herror
    | freeText => cases herror
    | _ => cases herrand

end Call

/-! ## What is recorded -/

namespace Thread

variable {thread : Thread} {call : Call}

/-- A message is recorded with every zero character replaced, and every other one as it is. -/
theorem toList_recorded (message : String) :
    (recorded message).toList =
      message.toList.map fun c => if c = '\x00' then '\ufffd' else c :=
  String.toList_ofList

/-- No character of a recorded message is a zero. -/
theorem zero_notMem_recorded (message : String) : '\x00' ∉ (recorded message).toList := by
  intro hmem
  rw [toList_recorded, List.mem_map] at hmem
  rcases hmem with ⟨c, _, hc⟩
  split at hc
  · exact absurd hc (by decide)
  · rename_i hne
    exact hne hc

/-- Why a call of a thread is rejected, if it is. -/
def rejection? (thread : Thread) (call : Call) : Option Rejection :=
  match ((call.action thread.lastError).on ⟨thread.boundary, .untouched⟩).1 with
  | .error (.rejected cause) => some cause
  | _ => none

/-- A rejection is no success. -/
theorem status_ne_success (cause : Rejection) : cause.status ≠ .success := by
  cases cause <;> simp [Rejection.status]

section Messages

variable [Wording]

/-- A call succeeds and leaves the last error alone, or it is rejected and does nothing but
record its message. -/
theorem perform_cases (h : thread.boundary.WellFormed) (call : Call) :
    (thread.rejection? call = none ∧ ∃ output boundary,
      thread.perform call = .ok (⟨.success, output⟩, ⟨boundary, thread.lastError⟩)) ∨
    ∃ cause, thread.rejection? call = some cause ∧
      thread.perform call = .ok (⟨cause.status, call.outputOfFailure⟩,
        ⟨thread.boundary, recorded cause.message⟩) := by
  rcases perform_moved h call with ⟨reply, after, hperform, hmoved⟩
  unfold perform rejection? at *
  have houtput := @Call.output_of_error call thread.lastError thread.boundary
  generalize (call.action thread.lastError).on ⟨thread.boundary, .untouched⟩ = done
    at hperform houtput ⊢
  rcases done with ⟨(cause | fault) | _, exchange⟩
  · right
    cases hperform
    have hsame : exchange.boundary = thread.boundary :=
      hmoved.eq_of_ne_success (status_ne_success cause)
    refine ⟨cause, rfl, ?_⟩
    rw [← houtput rfl, ← hsame]
    rfl
  · cases hperform
  · left
    exact ⟨rfl, exchange.output, exchange.boundary, rfl⟩

/-- Status and last error after a call follow from whether it is rejected. -/
theorem status_and_lastError_of_perform (h : thread.boundary.WellFormed) {reply : Reply}
    {after : Thread} (hperform : thread.perform call = .ok (reply, after)) :
    reply.status = (thread.rejection? call).elim .success Rejection.status ∧
      after.lastError =
        (thread.rejection? call).elim thread.lastError fun cause => recorded cause.message := by
  rcases perform_cases h call with ⟨hcause, output, boundary, hcase⟩ | ⟨cause, hcause, hcase⟩
  · rw [hperform] at hcase
    cases hcase
    rw [hcause]
    exact ⟨rfl, rfl⟩
  · rw [hperform] at hcase
    cases hcase
    rw [hcause]
    exact ⟨rfl, rfl⟩

/-- A call that does not succeed leaves the cell as it does when it fails. -/
theorem output_of_ne_success (h : thread.boundary.WellFormed) {reply : Reply} {after : Thread}
    (hperform : thread.perform call = .ok (reply, after)) (hne : reply.status ≠ .success) :
    reply.output = call.outputOfFailure := by
  rcases perform_cases h call with ⟨_, output, boundary, hcase⟩ | ⟨cause, _, hcase⟩
  · rw [hperform] at hcase
    cases hcase
    exact absurd rfl hne
  · rw [hperform] at hcase
    cases hcase
    rfl

/-! ## Runs -/

/-- Why each of some calls in order is rejected, if it is. -/
def rejections (thread : Thread) : List Call → List (Option Rejection)
  | [] => []
  | call :: rest =>
    thread.rejection? call ::
      match thread.perform call with
      | .ok (_, after) => after.rejections rest
      | .error _ => []

/-- The first call is rejected by itself, and the others after it. -/
theorem rejections_cons {reply : Reply} {after : Thread}
    (hperform : thread.perform call = .ok (reply, after)) (rest : List Call) :
    thread.rejections (call :: rest) = thread.rejection? call :: after.rejections rest := by
  simp only [rejections, hperform]

/-- The latest of some rejections. -/
def latest? (causes : List (Option Rejection)) : Option Rejection :=
  (causes.filterMap id).getLast?

/-- The message of the latest rejection as it is recorded, or another text where there is
none. -/
def latestMessage (otherwise : String) (causes : List (Option Rejection)) : String :=
  (latest? causes).elim otherwise fun cause => recorded cause.message

/-- The latest message is the one after the first call unless a later call is rejected. -/
theorem latestMessage_cons (otherwise : String) (cause : Option Rejection)
    (causes : List (Option Rejection)) :
    latestMessage otherwise (cause :: causes) =
      latestMessage (cause.elim otherwise fun cause => recorded cause.message) causes := by
  unfold latestMessage latest?
  cases cause with
  | none => rfl
  | some cause =>
    have hcons : (some cause :: causes).filterMap id = cause :: causes.filterMap id := rfl
    rw [hcons, List.getLast?_cons]
    cases (causes.filterMap id).getLast? <;> rfl

/-- The statuses of a run tell which calls were rejected, and its last error is the message
of the latest of them. -/
theorem run_latestMessage (h : thread.boundary.WellFormed) (calls : List Call) :
    ∃ replies last, thread.run calls = .ok (replies, last) ∧
      replies.map Reply.status =
        (thread.rejections calls).map (fun cause => cause.elim .success Rejection.status) ∧
      last.lastError = latestMessage thread.lastError (thread.rejections calls) := by
  induction calls generalizing thread with
  | nil => exact ⟨[], thread, rfl, rfl, rfl⟩
  | cons call rest ih =>
    rcases perform_moved h call with ⟨reply, after, hperform, hmoved⟩
    rcases status_and_lastError_of_perform h hperform with ⟨hfirst, hmessage⟩
    rcases ih (h.moved hmoved) with ⟨replies, last, hrun, hstatus, hlast⟩
    refine ⟨reply :: replies, last, ?_, ?_, ?_⟩
    · simp only [run, hperform, hrun, ok_bind, pure, Except.pure]
    · rw [rejections_cons hperform, List.map_cons, List.map_cons, hstatus, hfirst]
    · rw [rejections_cons hperform, latestMessage_cons, hlast, hmessage]

/-- On every boundary that calls can lead to every call has a reply.  One that does not
succeed leaves the boundary as it was, a null pointer in the cell for a text and any other
cell alone, and as the last error its message, character by character, but with every zero
character replaced.  One that succeeds leaves the last error as it was.  So after a run the
last error is the message of the latest call that was rejected, or empty where none was. -/
theorem failed_calls_change_nothing :
    (∀ thread : Thread, thread.boundary.Reachable → ∀ call, ∃ reply after,
      thread.perform call = .ok (reply, after) ∧
        (reply.status = .success → after.lastError = thread.lastError) ∧
        (reply.status ≠ .success →
          after.boundary = thread.boundary ∧
            reply.output =
              (if call.textPlace? = some .cell then .cleared else .untouched) ∧
            ∃ cause, thread.rejection? call = some cause ∧ reply.status = cause.status ∧
              after.lastError = recorded cause.message ∧
              after.lastError.toList = cause.message.toList.map
                (fun c => if c = '\x00' then '\ufffd' else c) ∧
              '\x00' ∉ after.lastError.toList)) ∧
    ∀ calls, ∃ replies last, Thread.run {} calls = .ok (replies, last) ∧
      replies.map Reply.status =
        (rejections {} calls).map (fun cause => cause.elim .success Rejection.status) ∧
      last.lastError = latestMessage "" (rejections {} calls) := by
  constructor
  · intro thread hreach call
    rcases perform_cases hreach.wellFormed call with
      ⟨_, output, boundary, hperform⟩ | ⟨cause, hcause, hperform⟩
    · exact ⟨_, _, hperform, fun _ => rfl, fun hne => absurd rfl hne⟩
    · refine ⟨_, _, hperform, fun hsuccess => absurd hsuccess (status_ne_success cause), ?_⟩
      intro _
      exact ⟨rfl, rfl, cause, hcause, rfl, rfl, toList_recorded cause.message,
        zero_notMem_recorded cause.message⟩
  · exact run_latestMessage Boundary.Reachable.fresh.wellFormed

end Messages

/-- Without a cell for its handle no cart is created, and two items whose id is a zero character
are no catalog: the message quotes this id with another character in its place.  The engine goes
on as it was. -/
theorem failed_calls_change_nothing_no_cell :
    let engine : Engine := { config := {}, carts := ⟨#[⟨1, some {}⟩], [], 1, 1⟩ }
    let thread : Thread := ⟨⟨some engine, some 1⟩, "kept"⟩
    let items : List Item := [⟨"\x00", "Tea", ⟨400⟩⟩, ⟨"\x00", "Bun", ⟨250⟩⟩]
    thread.boundary.Reachable ∧
      (∃ reply after, thread.perform (.createCart .null) = .ok (reply, after) ∧
        (reply.status = .invalidArgument ∧ reply.status ≠ .success) ∧
        after.boundary = thread.boundary ∧ reply.output = .untouched ∧
        after.lastError = "out_cart must not be null") ∧
      ∃ reply after, thread.perform (.loadCatalog (.held (Catalog.textOfItems items) [])) =
          .ok (reply, after) ∧
        (reply.status = .refused .invalidItem ∧ reply.status ≠ .success) ∧
        after.boundary = thread.boundary ∧ reply.output = .untouched ∧
        after.lastError = "Invalid catalog item at position 1: id '\ufffd' already exists" := by
  intro engine thread items
  have hreach : thread.boundary.Reachable := Boundary.Reachable.created
  refine ⟨hreach, ?_, ?_⟩
  · have hrefused : thread.perform (.createCart .null) =
        .ok (⟨.invalidArgument, .untouched⟩, ⟨thread.boundary, "out_cart must not be null"⟩) :=
      rfl
    rcases failed_calls_change_nothing.1 thread hreach (.createCart .null) with
      ⟨reply, after, hperform, _, hfailure⟩
    cases hperform.symm.trans hrefused
    have hne : Status.invalidArgument ≠ .success := by decide
    rcases hfailure hne with ⟨hboundary, houtput, _⟩
    exact ⟨_, _, hrefused, ⟨rfl, hne⟩, hboundary, houtput, rfl⟩
  · have hread : (HostText.held (Catalog.textOfItems items) []).read "json" =
        .ok (Catalog.textOfItems items) :=
      HostText.read_held (Catalog.zero_notMem_textOfItems items) [] "json"
    have htwice : Catalog.ofText (Catalog.textOfItems items) =
        .error (.invalidItem 1 (.duplicate "id" "\x00")) := by
      rw [Catalog.ofText_textOfItems, Catalog.ofItems_eq_error_iff]
      refine ⟨1, _, ⟨⟨_, rfl, by decide⟩, ?_⟩, rfl⟩
      decide
    have hrefused : thread.perform (.loadCatalog (.held (Catalog.textOfItems items) [])) =
        .ok (⟨.refused .invalidItem, .untouched⟩, ⟨thread.boundary,
          "Invalid catalog item at position 1: id '\ufffd' already exists"⟩) := by
      rw [perform_loadCatalog_eq rfl hread, htwice]
      rfl
    rcases failed_calls_change_nothing.1 thread hreach
      (.loadCatalog (.held (Catalog.textOfItems items) [])) with
      ⟨reply, after, hperform, _, hfailure⟩
    cases hperform.symm.trans hrefused
    have hne : Status.refused .invalidItem ≠ .success := by decide
    rcases hfailure hne with ⟨hboundary, houtput, _⟩
    exact ⟨_, _, hrefused, ⟨rfl, hne⟩, hboundary, houtput, rfl⟩

end Thread
end Till
