import Till.Proofs.Boundary.Failures
import Till.Proofs.Boundary.Handles
import Till.Proofs.Engine.Shift

/-!
# Calls at lower generations

A call on a boundary at lower generations, with the lower handle, does what the call does on
the boundary itself.  The output differs in a handle that is given out, and the message in
the handle that it quotes.

Main results:

- Theorem {lit}`Call.carryOut_lowered`: an errand at lower generations.
- Theorem {lit}`Call.on_action_lowered`: a call at lower generations.
-/

namespace Till

variable {shift : Nat}

/-! ## Boundaries and what is read off them -/

namespace Rejection

/-- A rejection that quotes the lower handle. -/
def lowered (shift : Nat) : Rejection → Rejection
  | refused cause => refused (cause.lowered shift)
  | cause => cause

/-- The status is the same at lower generations. -/
@[simp]
theorem status_lowered (cause : Rejection) : (cause.lowered shift).status = cause.status := by
  cases cause with
  | refused cause => rw [lowered, status, status, Refusal.kind_lowered]
  | nullPointer argument => rfl
  | invalidUtf8 argument => rfl

/-- Only the rejection of a handle quotes one. -/
theorem lowered_eq_self {cause : Rejection} (h : cause.status ≠ .refused .invalidHandle) :
    cause.lowered shift = cause := by
  cases cause with
  | refused cause =>
    have hkind : cause.kind ≠ .invalidHandle := by
      intro hkind
      apply h
      rw [status, hkind]
    rw [lowered, Refusal.lowered_eq_self hkind]
  | nullPointer argument => rfl
  | invalidUtf8 argument => rfl

end Rejection

/-- A setback at lower generations. -/
def Setback.lowered (shift : Nat) : Setback → Setback
  | rejected cause => rejected (cause.lowered shift)
  | faulted cause => faulted cause

/-- An output with the lower handle. -/
def Output.lowered (shift : Nat) : Output → Output
  | handle given => handle (given.lowered shift)
  | output => output

/-- A boundary at lower generations. -/
def Boundary.lowered (shift : Nat) (boundary : Boundary) : Boundary where
  engine := boundary.engine.map (Engine.lowered shift)
  floor := boundary.floor.map (Handle.lowerGeneration shift)

/-- What comes of a call at lower generations. -/
def Exchange.loweredResult (shift : Nat) (done : Except Setback Unit × Exchange) :
    Except Setback Unit × Exchange :=
  (done.1.mapError (Setback.lowered shift),
    ⟨done.2.boundary.lowered shift, done.2.output.lowered shift⟩)

/-- The engine and the floor of a boundary can be at lower generations. -/
structure Boundary.AtLeast (shift : Nat) (boundary : Boundary) : Prop where
  engine : ∀ engine, boundary.engine = some engine → engine.AtLeast shift
  floor : ∀ floor, boundary.floor = some floor → shift < floor.toNat

/-- The carts of such an engine can all be released, -/
theorem Boundary.AtLeast.carts {boundary : Boundary} (h : boundary.AtLeast shift) :
    ∀ engine, boundary.engine = some engine → engine.carts.WellFormed :=
  fun engine hengine => (h.engine engine hengine).carts

/-- and so can those at the lower generations. -/
theorem Boundary.AtLeast.carts_lowered {boundary : Boundary} (h : boundary.AtLeast shift) :
    ∀ engine, (boundary.lowered shift).engine = some engine → engine.carts.WellFormed := by
  intro engine hengine
  rcases Option.map_eq_some_iff.1 hengine with ⟨before, hbefore, rfl⟩
  exact (h.engine before hbefore).carts_lowered

/-- What a text argument is rejected for quotes no handle. -/
theorem HostText.lowered_of_read_eq_error {argument : String} {text : HostText}
    {cause : Rejection} (h : text.read argument = .error cause) :
    cause.lowered shift = cause := by
  apply Rejection.lowered_eq_self
  simp [status_of_read_eq_error h]

/-- What a configuration is refused for quotes no handle. -/
theorem Config.lowered_of_check_eq_error {config : Config} {cause : Refusal}
    (h : config.check = .error cause) : cause.lowered shift = cause := by
  apply Refusal.lowered_eq_self
  simp [kind_of_check_eq_error h]

/-- What the text of a configuration is refused for quotes no handle. -/
theorem Config.lowered_of_ofText_eq_error {text : String} {cause : Refusal}
    (h : ofText text = .error cause) : cause.lowered shift = cause := by
  apply Refusal.lowered_eq_self
  simp [kind_of_ofText_eq_error h]

/-! ## Errands -/

/-- An errand with the lower handle. -/
def Errand.lowered (shift : Nat) (errand : Errand) : Errand where
  cell := errand.cell
  command := errand.command.lowered shift

namespace Call

/-- A call with the lower handle. -/
def lowered (shift : Nat) : Call → Call
  | releaseCart handle => releaseCart (handle.lowered shift)
  | clearCart handle => clearCart (handle.lowered shift)
  | addItem handle id amount => addItem (handle.lowered shift) id amount
  | removeLine handle index => removeLine (handle.lowered shift) index
  | total handle place => total (handle.lowered shift) place
  | lines handle place => lines (handle.lowered shift) place
  | setGiven handle cents => setGiven (handle.lowered shift) cents
  | given handle place => given (handle.lowered shift) place
  | change handle place => change (handle.lowered shift) place
  | call => call

variable {call : Call} {boundary : Boundary}

/-- An errand asks for the cart that its call names. -/
theorem Asks.handle?_eq {command : Command} {handle : Handle} {request : Request}
    (h : call.Asks command) (hrequest : command.request? = some (handle, request)) :
    call.handle? = some handle := by
  cases h <;> cases hrequest <;> rfl

/-- The errand of a call has the lower handle. -/
theorem errand?_lowered (call : Call) :
    (call.lowered shift).errand? =
      call.errand?.map fun prepared => prepared.map (Errand.lowered shift) := by
  cases call with
  | loadCatalog text =>
    simp only [lowered, errand?, Option.map_some]
    cases text.read "json" <;> rfl
  | addItem handle text amount =>
    simp only [lowered, errand?, Option.map_some]
    cases text.read "item_id" <;> rfl
  | catalogText place | createCart place | total _ place | lines _ place | given _ place
  | change _ place => cases place <;> rfl
  | _ => rfl

/-- What the arguments of an errand are rejected for quotes no handle. -/
theorem lowered_of_errand?_eq_error {cause : Rejection}
    (h : call.errand? = some (.error cause)) : cause.lowered shift = cause := by
  apply Rejection.lowered_eq_self
  simp [status_of_errand?_eq_error h]

/-- An answer is delivered with the lower handle. -/
theorem deliver_lowered (call : Call) (answer : Answer) :
    (call.lowered shift).deliver (answer.lowered shift) =
      (call.deliver answer).map (Output.lowered shift) := by
  have htext : ∀ text, textOutput text = (textOutput text).map (Output.lowered shift) := by
    intro text
    unfold textOutput
    cases Action.zeroByte? text <;> rfl
  cases call with
  | catalogText place | lines handle place =>
    cases answer with
    | text text => exact htext text
    | _ => rfl
  | _ => cases answer <;> rfl

/-- An errand at lower generations. -/
theorem carryOut_lowered (h : boundary.AtLeast shift)
    (hhandle : ∀ handle, call.handle? = some handle → shift ≤ handle.generation.toNat)
    {prepared : Except Rejection Errand} (herrand : call.errand? = some prepared) :
    (call.lowered shift).carryOut (boundary.lowered shift)
        (prepared.map (Errand.lowered shift)) =
      Exchange.loweredResult shift (call.carryOut boundary prepared) := by
  rcases prepared with cause | errand
  · simp only [Except.map, carryOut, Exchange.loweredResult, Except.mapError, Setback.lowered,
      lowered_of_errand?_eq_error herrand]
    rfl
  have hasks := asks_of_errand? herrand
  have hcell : errand.cell.lowered shift = errand.cell := by
    rw [cell_of_errand? herrand, outputOfFailure]
    split <;> rfl
  unfold carryOut
  simp only [Except.map, Errand.lowered, Boundary.lowered]
  cases hengine : boundary.engine with
  | none =>
    simp only [Option.map_none, Exchange.loweredResult, Except.mapError, Boundary.lowered,
      hengine, hcell]
    rfl
  | some engine =>
    have hperform := (h.engine engine hengine).perform_lowered
      (fun handle request hrequest => hhandle handle (hasks.handle?_eq hrequest))
      hasks.ne_reset
    simp only [Option.map_some, hperform]
    rcases engine.perform errand.command with (cause | fault) | ⟨answer, after⟩
    · simp only [Engine.loweredResult, Except.map, Except.mapError, Failure.lowered,
        Exchange.loweredResult, Setback.lowered, Rejection.lowered, Boundary.lowered, hengine,
        Option.map_some, hcell]
    · simp only [Engine.loweredResult, Except.map, Except.mapError, Failure.lowered,
        Exchange.loweredResult, Setback.lowered, Boundary.lowered, hengine,
        Option.map_some, hcell]
    · simp only [Engine.loweredResult, Except.map, Except.mapError, deliver_lowered]
      cases hdeliver : call.deliver answer with
      | ok output =>
        simp only [Exchange.loweredResult, Except.mapError, Boundary.lowered, Option.map_some]
      | error cause =>
        have hstatus := status_of_deliver_eq_error hdeliver
        have hcause : cause.lowered shift = cause :=
          Rejection.lowered_eq_self (by simp [hstatus])
        simp only [Exchange.loweredResult, Except.mapError, Setback.lowered, hcause, hcell,
          Boundary.lowered, Option.map_some]

/-! ## All calls -/

/-- An engine is started at the lower floor. -/
theorem on_startEngine_lowered (h : boundary.AtLeast shift) (config : Config) :
    (Action.startEngine config).on ⟨boundary.lowered shift, .untouched⟩ =
      Exchange.loweredResult shift ((Action.startEngine config).on ⟨boundary, .untouched⟩) := by
  rw [Action.on_startEngine, Action.on_startEngine]
  simp only [Boundary.lowered]
  cases hengine : boundary.engine with
  | some engine =>
    simp only [Option.map_some, Exchange.loweredResult, Except.mapError, Boundary.lowered,
      hengine]
    rfl
  | none =>
    cases hfloor : boundary.floor with
    | none =>
      simp only [Option.map_none, Exchange.loweredResult, Except.mapError, Boundary.lowered,
        hengine, hfloor]
      rfl
    | some floor =>
      simp only [Option.map_none, Option.map_some, Engine.start]
      cases hcheck : config.check with
      | error cause =>
        simp only [Exchange.loweredResult, Except.mapError, Boundary.lowered, hengine, hfloor,
          Setback.lowered, Rejection.lowered, Config.lowered_of_check_eq_error hcheck]
        rfl
      | ok _ =>
        simp only [Exchange.loweredResult, Except.mapError, Boundary.lowered,
          Option.map_some, Engine.startingAt_lowered config (h.floor floor hfloor)]
        rfl

/-- A call at lower generations does what it does at the generations themselves. -/
theorem on_action_lowered (h : boundary.AtLeast shift)
    (hhandle : ∀ handle, call.handle? = some handle → shift ≤ handle.generation.toNat)
    (hne : call ≠ .lastError) (message other : String) :
    ((call.lowered shift).action other).on ⟨boundary.lowered shift, .untouched⟩ =
      Exchange.loweredResult shift ((call.action message).on ⟨boundary, .untouched⟩) := by
  cases herrand : call.errand? with
  | some prepared =>
    have herrand' : (call.lowered shift).errand? =
        some (prepared.map (Errand.lowered shift)) := by
      rw [errand?_lowered, herrand, Option.map_some]
    rw [on_action_of_errand? herrand', on_action_of_errand? herrand]
    exact carryOut_lowered h hhandle herrand
  | none =>
    cases call with
    | start environment => exact on_startEngine_lowered h environment.texts.config
    | startWith config =>
      simp only [lowered, action, Action.on_bind, Action.on_readText]
      cases hread : config.read "config_json" with
      | error cause =>
        simp only [Exchange.loweredResult, Except.mapError, Setback.lowered,
          HostText.lowered_of_read_eq_error hread]
        rfl
      | ok text =>
        dsimp only
        cases hconfig : Config.ofText text with
        | error cause =>
          simp only [Action.on_reject, Exchange.loweredResult, Except.mapError,
            Setback.lowered, Rejection.lowered, Config.lowered_of_ofText_eq_error hconfig]
          rfl
        | ok config => exact on_startEngine_lowered h config
    | stop =>
      simp only [lowered, action, Boundary.on_stopEngine h.carts,
        Boundary.on_stopEngine h.carts_lowered]
      cases hengine : boundary.engine with
      | none =>
        simp only [Boundary.lowered, hengine, Option.map_none, Exchange.loweredResult,
          Except.mapError]
        rfl
      | some engine =>
        simp only [Boundary.lowered, hengine, Option.map_some, Exchange.loweredResult,
          Except.mapError, (h.engine engine hengine).nextFloor_lowered, Option.map_none]
        rfl
    | version place =>
      cases place with
      | null => rfl
      | cell =>
        simp only [lowered, action, Action.needTextCell, Action.on_bind,
          Action.on_needCell_cell, Action.on_setOutput, Action.writeText]
        cases Action.zeroByte? versionText <;> rfl
    | lastError => exact absurd rfl hne
    | freeText => rfl
    | _ => cases herrand

end Call
end Till
