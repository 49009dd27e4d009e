import Till.Boundary.Thread
import Till.Engine.Command
import Till.Proofs.Outcome

/-!
# Errands

Most calls are errands: the arguments are looked at, a command goes to the running engine,
and its answer is delivered to the cell of the host.  Here such a call is taken apart into
these three, and what a thread replies is read off them.  The other calls start or stop the
engine or do not need one.

Main results:

- Theorem {lit}`Call.on_action_of_errand?`: a call that is an errand does what its parts say.
- Theorem {lit}`Thread.perform_of_errand?`: so does a thread that makes the call.
-/

namespace Till

/-! ## The parts of calls -/

namespace Action

variable {α : Type}

/-- What an outcome comes to within a call. -/
theorem on_ofOutcome (outcome : Outcome α) (x : Exchange) :
    (ofOutcome outcome).on x =
      match outcome with
      | .ok a => (.ok a, x)
      | .error (.refused cause) => (.error (.rejected (.refused cause)), x)
      | .error (.faulted cause) => (.error (.faulted cause), x) := by
  rcases outcome with (cause | cause) | a <;> rfl

/-- What the text of an argument comes to. -/
theorem on_readText (argument : String) (text : HostText) (x : Exchange) :
    (readText argument text).on x =
      match text.read argument with
      | .ok text => (.ok text, x)
      | .error cause => (.error (.rejected cause), x) := by
  unfold readText
  cases text.read argument <;> rfl

/-- What a question to the engine comes to. -/
theorem on_ask (query : Engine → Outcome α) (x : Exchange) :
    (ask query).on x =
      match x.boundary.engine with
      | none => (.error (.rejected (.refused .notInitialized)), x)
      | some engine => (ofOutcome (query engine)).on x := by
  rw [ask, on_bind, on_engine]
  cases x.boundary.engine <;> rfl

/-- What starting an engine comes to. -/
theorem on_startEngine (config : Config) (x : Exchange) :
    (startEngine config).on x =
      match x.boundary.engine, x.boundary.floor with
      | some _, _ => (.ok (), x)
      | none, none => (.error (.rejected (.refused (.allocationFailure "cart handle"))), x)
      | none, some floor =>
        match Engine.start config floor with
        | .error cause => (.error (.rejected (.refused cause)), x)
        | .ok engine =>
          (.ok (), { x with boundary := { x.boundary with engine := some engine } }) := by
  rcases x with ⟨⟨running, floor⟩, output⟩
  have hget : (get : Action Exchange).on ⟨⟨running, floor⟩, output⟩ =
      (.ok ⟨⟨running, floor⟩, output⟩, ⟨⟨running, floor⟩, output⟩) := rfl
  rw [startEngine, on_bind, hget]
  dsimp only
  cases running with
  | some engine => rfl
  | none =>
    cases floor with
    | none => rfl
    | some floor =>
      dsimp only
      cases Engine.start config floor <;> rfl

/-- What stopping the engine comes to. -/
theorem on_stopEngine (x : Exchange) :
    stopEngine.on x =
      match x.boundary.engine with
      | none => (.ok (), x)
      | some engine =>
        (ofOutcome (engine.reset.map fun _ => ())).on
          { x with boundary := ⟨none, engine.nextFloor⟩ } := by
  have hget : (get : Action Exchange).on x = (.ok x, x) := rfl
  rw [stopEngine, on_bind, hget]
  dsimp only
  cases x.boundary.engine with
  | none => rfl
  | some engine =>
    simp only [on_bind, on_setBoundary, on_ofOutcome]
    rcases engine.reset with (cause | cause) | after <;> rfl

/-- What a command to the engine comes to. -/
theorem on_command (change : Engine → Outcome (α × Engine)) (x : Exchange) :
    (command change).on x =
      match x.boundary.engine with
      | none => (.error (.rejected (.refused .notInitialized)), x)
      | some engine =>
        match change engine with
        | .ok (a, after) =>
          (.ok a, { x with boundary := { x.boundary with engine := some after } })
        | .error (.refused cause) => (.error (.rejected (.refused cause)), x)
        | .error (.faulted cause) => (.error (.faulted cause), x) := by
  rw [command, on_bind, on_engine]
  cases x.boundary.engine with
  | none => rfl
  | some engine =>
    simp only [on_bind, on_ofOutcome]
    rcases change engine with (cause | cause) | result <;> rfl

/-- What a command to the engine that has no answer comes to. -/
theorem on_commandDone (change : Engine → Outcome Engine) (x : Exchange) :
    (commandDone change).on x =
      match x.boundary.engine with
      | none => (.error (.rejected (.refused .notInitialized)), x)
      | some engine =>
        match change engine with
        | .ok after =>
          (.ok (), { x with boundary := { x.boundary with engine := some after } })
        | .error (.refused cause) => (.error (.rejected (.refused cause)), x)
        | .error (.faulted cause) => (.error (.faulted cause), x) := by
  rw [commandDone, on_bind, on_engine]
  cases x.boundary.engine with
  | none => rfl
  | some engine =>
    simp only [on_bind, on_ofOutcome]
    rcases change engine with (cause | cause) | after <;> rfl

end Action

/-! ## Calls as errands -/

/-- A text that cannot be read is an invalid argument. -/
theorem HostText.status_of_read_eq_error {argument : String} {text : HostText}
    {cause : Rejection} (h : text.read argument = .error cause) :
    cause.status = .invalidArgument := by
  unfold read at h
  split at h
  · cases h
    rfl
  · split at h
    · cases h
    · cases h
      rfl

/-- The cell for an output is there, or the call is rejected. -/
def Place.check (argument : String) : Place → Except Rejection Unit
  | .cell => .ok ()
  | .null => .error (.nullPointer argument)

/-- What takes a command to the engine, and the state of the cell of the host meanwhile. -/
structure Errand where
  cell : Output
  command : Command

namespace Call

/-- The errand of a call whose arguments are in order, or why they are not. -/
def errand? : Call → Option (Except Rejection Errand)
  | loadCatalog text =>
    some ((text.read "json").map fun text => ⟨.untouched, .loadCatalog text⟩)
  | catalogText place => some ((place.check "out_json").map fun _ => ⟨.cleared, .catalogText⟩)
  | createCart place => some ((place.check "out_cart").map fun _ => ⟨.untouched, .createCart⟩)
  | releaseCart handle => some (.ok ⟨.untouched, .releaseCart handle⟩)
  | clearCart handle => some (.ok ⟨.untouched, .clearCart handle⟩)
  | addItem handle id amount =>
    some ((id.read "item_id").map fun id => ⟨.untouched, .addItem handle id amount.toInt64⟩)
  | removeLine handle index => some (.ok ⟨.untouched, .removeLine handle index.toInt64⟩)
  | total handle place =>
    some ((place.check "out_total_cents").map fun _ => ⟨.untouched, .payment handle⟩)
  | lines handle place =>
    some ((place.check "out_json").map fun _ => ⟨.cleared, .snapshotText handle⟩)
  | setGiven handle cents => some (.ok ⟨.untouched, .setTendered handle cents⟩)
  | given handle place =>
    some ((place.check "out_given_cents").map fun _ => ⟨.untouched, .payment handle⟩)
  | change handle place =>
    some ((place.check "out_change_cents").map fun _ => ⟨.untouched, .payment handle⟩)
  | start _ => none
  | startWith _ => none
  | stop => none
  | version _ => none
  | lastError => none
  | freeText => none

/-- The commands that calls ask for. -/
inductive Asks : Call → Command → Prop where
  | loadCatalog {text : HostText} {read : String} (hread : text.read "json" = .ok read) :
      Asks (.loadCatalog text) (.loadCatalog read)
  | catalogText {place : Place} : Asks (.catalogText place) .catalogText
  | createCart {place : Place} : Asks (.createCart place) .createCart
  | releaseCart {handle : Handle} : Asks (.releaseCart handle) (.releaseCart handle)
  | clearCart {handle : Handle} : Asks (.clearCart handle) (.clearCart handle)
  | addItem {handle : Handle} {id : HostText} {read : String} {amount : Int32}
      (hread : id.read "item_id" = .ok read) :
      Asks (.addItem handle id amount) (.addItem handle read amount.toInt64)
  | removeLine {handle : Handle} {index : Int32} :
      Asks (.removeLine handle index) (.removeLine handle index.toInt64)
  | total {handle : Handle} {place : Place} : Asks (.total handle place) (.payment handle)
  | lines {handle : Handle} {place : Place} : Asks (.lines handle place) (.snapshotText handle)
  | setGiven {handle : Handle} {cents : Int64} :
      Asks (.setGiven handle cents) (.setTendered handle cents)
  | given {handle : Handle} {place : Place} : Asks (.given handle place) (.payment handle)
  | change {handle : Handle} {place : Place} : Asks (.change handle place) (.payment handle)

/-- An errand takes along the command that its call asks for. -/
theorem asks_of_errand? {call : Call} {errand : Errand}
    (h : call.errand? = some (.ok errand)) : call.Asks errand.command := by
  cases call with
  | loadCatalog text =>
    rcases map_eq_ok_iff.1 (Option.some.inj h) with ⟨read, hread, rfl⟩
    exact .loadCatalog hread
  | catalogText place =>
    rcases map_eq_ok_iff.1 (Option.some.inj h) with ⟨_, _, rfl⟩
    exact .catalogText
  | createCart place =>
    rcases map_eq_ok_iff.1 (Option.some.inj h) with ⟨_, _, rfl⟩
    exact .createCart
  | addItem handle id amount =>
    rcases map_eq_ok_iff.1 (Option.some.inj h) with ⟨read, hread, rfl⟩
    exact .addItem hread
  | total handle place =>
    rcases map_eq_ok_iff.1 (Option.some.inj h) with ⟨_, _, rfl⟩
    exact .total
  | lines handle place =>
    rcases map_eq_ok_iff.1 (Option.some.inj h) with ⟨_, _, rfl⟩
    exact .lines
  | given handle place =>
    rcases map_eq_ok_iff.1 (Option.some.inj h) with ⟨_, _, rfl⟩
    exact .given
  | change handle place =>
    rcases map_eq_ok_iff.1 (Option.some.inj h) with ⟨_, _, rfl⟩
    exact .change
  | releaseCart handle =>
    cases h
    exact .releaseCart
  | clearCart handle =>
    cases h
    exact .clearCart
  | removeLine handle index =>
    cases h
    exact .removeLine
  | setGiven handle cents =>
    cases h
    exact .setGiven
  | _ => cases h

/-- An argument that is not in order is an invalid one. -/
theorem status_of_errand?_eq_error {call : Call} {cause : Rejection}
    (h : call.errand? = some (.error cause)) : cause.status = .invalidArgument := by
  cases call with
  | loadCatalog text | addItem _ text _ =>
    exact HostText.status_of_read_eq_error (map_eq_error_iff.1 (Option.some.inj h))
  | catalogText place | createCart place | total _ place | lines _ place | given _ place
  | change _ place =>
    cases place with
    | null =>
      cases h
      rfl
    | cell => cases h
  | _ => cases h

/-- No call asks for a reset. -/
theorem Asks.ne_reset {call : Call} {command : Command} (h : call.Asks command) :
    command ≠ .reset := by
  intro heq
  rcases heq with rfl
  cases h

/-- Only the creation of a cart asks for one. -/
theorem Asks.createCart_iff {call : Call} {command : Command} (h : call.Asks command) :
    command = .createCart ↔ ∃ place, call = .createCart place := by
  cases h <;> simp

/-- A catalog that can be read is taken to the engine. -/
theorem errand?_loadCatalog {text : HostText} {content : String}
    (hread : text.read "json" = .ok content) :
    (loadCatalog text).errand? = some (.ok ⟨.untouched, .loadCatalog content⟩) := by
  rw [errand?, hread]
  rfl

/-- An item is asked for by the text that is read. -/
theorem errand?_addItem {handle : Handle} {text : HostText} {id : String} {amount : Int32}
    (hread : text.read "item_id" = .ok id) :
    (addItem handle text amount).errand? =
      some (.ok ⟨.untouched, .addItem handle id amount.toInt64⟩) := by
  rw [errand?, hread]
  rfl

/-- A text as the cell of the host holds it, or why it cannot be handed out. -/
def textOutput (text : String) : Except Rejection Output :=
  match Action.zeroByte? text with
  | none => .ok (.text text)
  | some position =>
    .error (.refused (.serializationError
      s!"output contains NUL at byte {Decimal.text position}"))

/-- What the cell of the host holds after an answer, or why it cannot. -/
def deliver : Call → Answer → Except Rejection Output
  | catalogText _, .text text => textOutput text
  | lines _ _, .text text => textOutput text
  | createCart _, .handle handle => .ok (.handle handle)
  | total _ _, .payment payment => .ok (.cents payment.total)
  | given _ _, .payment payment => .ok (.cents payment.given)
  | change _ _, .payment payment => .ok (.cents payment.change)
  | _, _ => .ok .untouched

/-- What comes of a call that is an errand. -/
def carryOut (call : Call) (boundary : Boundary) :
    Except Rejection Errand → Except Setback Unit × Exchange
  | .error cause => (.error (.rejected cause), ⟨boundary, .untouched⟩)
  | .ok errand =>
    match boundary.engine with
    | none => (.error (.rejected (.refused .notInitialized)), ⟨boundary, errand.cell⟩)
    | some engine =>
      match engine.perform errand.command with
      | .error (.refused cause) =>
        (.error (.rejected (.refused cause)), ⟨boundary, errand.cell⟩)
      | .error (.faulted cause) => (.error (.faulted cause), ⟨boundary, errand.cell⟩)
      | .ok (answer, after) =>
        match call.deliver answer with
        | .ok output => (.ok (), ⟨{ boundary with engine := some after }, output⟩)
        | .error cause =>
          (.error (.rejected cause), ⟨{ boundary with engine := some after }, errand.cell⟩)

variable {call : Call} {command : Command}

/-- A command without an answer is an errand that delivers nothing. -/
theorem on_commandDone_eq_carryOut {change : Engine → Outcome Engine}
    (hperform : ∀ engine : Engine, engine.perform command = do
      return (.done, ← change engine))
    (hdeliver : call.deliver .done = .ok .untouched) (boundary : Boundary) :
    (Action.commandDone change).on ⟨boundary, .untouched⟩ =
      call.carryOut boundary (.ok ⟨.untouched, command⟩) := by
  rcases boundary with ⟨engine, floor⟩
  rw [Action.on_commandDone]
  unfold carryOut
  cases engine with
  | none => rfl
  | some engine =>
    simp only [hperform]
    rcases change engine with (cause | cause) | after
    · rfl
    · rfl
    · simp only [bind, Except.bind, pure, Except.pure, hdeliver]

/-- A figure of the payment for a cart is the delivery of an errand. -/
theorem on_figure_eq_carryOut {handle : Handle} {figure : Payment → Money}
    (hdeliver : ∀ payment, call.deliver (.payment payment) = .ok (.cents (figure payment)))
    (boundary : Boundary) :
    (do
      let payment ← Action.ask fun engine => engine.payment handle
      Action.setOutput (.cents (figure payment))).on ⟨boundary, .untouched⟩ =
      call.carryOut boundary (.ok ⟨.untouched, .payment handle⟩) := by
  rcases boundary with ⟨engine, floor⟩
  rw [Action.on_bind, Action.on_ask]
  unfold carryOut
  cases engine with
  | none => rfl
  | some engine =>
    simp only [Action.on_ofOutcome, Engine.perform]
    rcases engine.payment handle with (cause | cause) | payment
    · rfl
    · rfl
    · simp only [bind, Except.bind, pure, Except.pure, hdeliver]
      rfl

/-- A text of the engine is the delivery of an errand. -/
theorem on_text_eq_carryOut {query : Engine → Outcome String}
    (hperform : ∀ engine : Engine, engine.perform command = do
      return (.text (← query engine), engine))
    (hdeliver : ∀ text, call.deliver (.text text) = textOutput text) (boundary : Boundary) :
    (do
      let text ← Action.ask query
      Action.writeText text).on ⟨boundary, .cleared⟩ =
      call.carryOut boundary (.ok ⟨.cleared, command⟩) := by
  rcases boundary with ⟨engine, floor⟩
  rw [Action.on_bind, Action.on_ask]
  unfold carryOut
  cases engine with
  | none => rfl
  | some engine =>
    simp only [Action.on_ofOutcome, hperform]
    rcases query engine with (cause | cause) | text
    · rfl
    · rfl
    · simp only [bind, Except.bind, pure, Except.pure, hdeliver, Action.writeText, textOutput]
      cases Action.zeroByte? text <;> rfl

/-- A call that is an errand does what its parts say. -/
theorem on_action_of_errand? {prepared : Except Rejection Errand}
    (h : call.errand? = some prepared) (message : String) (boundary : Boundary) :
    (call.action message).on ⟨boundary, .untouched⟩ = call.carryOut boundary prepared := by
  cases call with
  | loadCatalog text =>
    cases h
    simp only [action, Action.on_bind, Action.on_readText]
    cases text.read "json" with
    | error cause => rfl
    | ok text =>
      rcases boundary with ⟨engine, floor⟩
      simp only [Action.on_command]
      cases engine with
      | none => rfl
      | some engine =>
        simp only [Except.map, carryOut, Engine.perform]
        rcases engine.loadCatalog text with (cause | cause) | result <;> rfl
  | catalogText place =>
    cases h
    cases place with
    | null => rfl
    | cell => exact on_text_eq_carryOut (fun _ => rfl) (fun _ => rfl) boundary
  | createCart place =>
    cases h
    cases place with
    | null => rfl
    | cell =>
      rcases boundary with ⟨engine, floor⟩
      simp only [action, Action.on_bind, Action.on_needCell_cell, Action.on_command]
      cases engine with
      | none => rfl
      | some engine =>
        simp only [Place.check, Except.map, carryOut, Engine.perform]
        rcases engine.createCart with (cause | cause) | result <;> rfl
  | releaseCart handle =>
    cases h
    exact on_commandDone_eq_carryOut (fun _ => rfl) rfl boundary
  | clearCart handle =>
    cases h
    exact on_commandDone_eq_carryOut (fun _ => rfl) rfl boundary
  | addItem handle id amount =>
    cases h
    simp only [action, Action.on_bind, Action.on_readText]
    cases id.read "item_id" with
    | error cause => rfl
    | ok id => exact on_commandDone_eq_carryOut (fun _ => rfl) rfl boundary
  | removeLine handle index =>
    cases h
    rcases boundary with ⟨engine, floor⟩
    simp only [action, Action.on_bind, Action.on_command]
    cases engine with
    | none => rfl
    | some engine =>
      simp only [carryOut, Engine.perform]
      rcases engine.removeLine handle index.toInt64 with (cause | cause) | result <;> rfl
  | total handle place =>
    cases h
    cases place with
    | null => rfl
    | cell => exact on_figure_eq_carryOut (fun _ => rfl) boundary
  | lines handle place =>
    cases h
    cases place with
    | null => rfl
    | cell => exact on_text_eq_carryOut (fun _ => rfl) (fun _ => rfl) boundary
  | setGiven handle cents =>
    cases h
    exact on_commandDone_eq_carryOut (fun _ => rfl) rfl boundary
  | given handle place =>
    cases h
    cases place with
    | null => rfl
    | cell => exact on_figure_eq_carryOut (fun _ => rfl) boundary
  | change handle place =>
    cases h
    cases place with
    | null => rfl
    | cell => exact on_figure_eq_carryOut (fun _ => rfl) boundary
  | start environment => cases h
  | startWith config => cases h
  | stop => cases h
  | version place => cases h
  | lastError => cases h
  | freeText => cases h

end Call

/-! ## Threads -/

variable [Wording]

/-- A thread that makes a call which is an errand replies what the parts say. -/
theorem Thread.perform_of_errand? {call : Call} {prepared : Except Rejection Errand}
    (h : call.errand? = some prepared) (thread : Thread) :
    thread.perform call =
      conclude thread.lastError (call.carryOut thread.boundary prepared).1
        (call.carryOut thread.boundary prepared).2 := by
  unfold perform
  rw [Call.on_action_of_errand? h]

namespace Thread

variable {thread : Thread} {call : Call} {errand : Errand} {engine after : Engine}
  {answer : Answer} {output : Output} {cause : Refusal}

/-- An errand that the engine carries out replies what is delivered. -/
theorem perform_of_carried_out (herrand : call.errand? = some (.ok errand))
    (hengine : thread.boundary.engine = some engine)
    (hperform : engine.perform errand.command = .ok (answer, after))
    (hdeliver : call.deliver answer = .ok output) :
    thread.perform call = .ok (⟨.success, output⟩,
      { thread with boundary := { thread.boundary with engine := some after } }) := by
  rw [perform_of_errand? herrand]
  simp only [Call.carryOut, hengine, hperform, hdeliver]
  rfl

/-- An errand that the engine refuses replies the kind of the refusal. -/
theorem perform_of_refused (herrand : call.errand? = some (.ok errand))
    (hengine : thread.boundary.engine = some engine)
    (hperform : engine.perform errand.command = .error (.refused cause)) :
    thread.perform call = .ok (⟨.refused cause.kind, errand.cell⟩,
      { thread with lastError := recorded cause.message }) := by
  rw [perform_of_errand? herrand]
  simp only [Call.carryOut, hengine, hperform]
  rfl

end Thread
end Till
