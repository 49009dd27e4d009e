import Till.Boundary.HostText
import Till.Engine.Basic

/-!
# Calls

The calls that a host can make share one engine, which some of them start and stop.
While a call goes on it may write the cell for its output; what it does to engine
and cell before it is rejected stays done, so that the order of its steps matters.

Handles of a stopped engine stay invalid: the next engine starts at a generation
above all that were handed out.

Main results:

- Theorem {lit}`Action.on_bind`: the parts of a call follow one another until one of
  them fails.
- Theorem {lit}`Action.on_engine`: a part that needs the engine is rejected when none
  is running.
-/

namespace Till

/-- Where a host wants an output. -/
inductive Place where
  | null
  | cell
  deriving DecidableEq, Repr

/-- What a call leaves in the cell for its output. -/
inductive Output where
  /-- The cell has not been written. -/
  | untouched
  /-- The cell holds a null pointer. -/
  | cleared
  | text (text : String)
  | handle (handle : Handle)
  | cents (amount : Money)
  deriving DecidableEq, Repr

/-- A call with its arguments. -/
inductive Call where
  /-- The engine is started as the environment asks for. -/
  | start (environment : HostEnvironment)
  /-- The engine is started as a text asks for. -/
  | startWith (config : HostText)
  | stop
  | version (place : Place)
  | loadCatalog (text : HostText)
  | catalogText (place : Place)
  | createCart (place : Place)
  | releaseCart (handle : Handle)
  | clearCart (handle : Handle)
  | addItem (handle : Handle) (id : HostText) (amount : Int32)
  | removeLine (handle : Handle) (index : Int32)
  | total (handle : Handle) (place : Place)
  | lines (handle : Handle) (place : Place)
  | setGiven (handle : Handle) (cents : Int64)
  | given (handle : Handle) (place : Place)
  | change (handle : Handle) (place : Place)
  /-- A copy of the last error of the thread. -/
  | lastError
  /-- A text that was handed out is given back; a null pointer does no harm. -/
  | freeText

/-- What the calls of all threads share. -/
structure Boundary where
  /-- The running engine. -/
  engine : Option Engine := none
  /-- The generation at which the next engine starts; none is left when all have been
  used. -/
  floor : Option UInt32 := some 1

/-- Why a call does not succeed. -/
inductive Setback where
  | rejected (cause : Rejection)
  | faulted (cause : Fault)
  deriving DecidableEq, Repr

/-- What a call works on. -/
structure Exchange where
  boundary : Boundary
  output : Output := .untouched

/-- A part of a call. -/
abbrev Action := ExceptT Setback (StateM Exchange)

namespace Action

/-- What comes of a part of a call, and what the call works on after it. -/
def on {α : Type} (action : Action α) (exchange : Exchange) :
    Except Setback α × Exchange :=
  (ExceptT.run action).run exchange

/-! ## Parts of calls -/

/-- The call is rejected. -/
def reject {α : Type} (cause : Rejection) : Action α :=
  throw (.rejected cause)

/-- An outcome within a call. -/
def ofOutcome {α : Type} : Outcome α → Action α
  | .ok a => pure a
  | .error (.refused cause) => reject (.refused cause)
  | .error (.faulted cause) => throw (.faulted cause)

/-- The text of an argument. -/
def readText (argument : String) (text : HostText) : Action String :=
  match text.read argument with
  | .ok text => pure text
  | .error cause => reject cause

/-- The cell for an output has to be there. -/
def needCell (argument : String) : Place → Action Unit
  | .cell => pure ()
  | .null => reject (.nullPointer argument)

/-- The cell for an output. -/
def setOutput (output : Output) : Action Unit :=
  modify fun exchange => { exchange with output }

/-- The cell for a text has to be there; it holds a null pointer until the text is
written. -/
def needTextCell (argument : String) (place : Place) : Action Unit := do
  needCell argument place
  setOutput .cleared

/-- The position of the first zero byte of a text. -/
def zeroByte? (text : String) : Option Nat :=
  text.toUTF8.data.toList.findIdx? fun byte => byte == 0

/-- A text is handed out.  It ends before its first zero byte for the host, so it
must not hold one. -/
def writeText (text : String) : Action Unit :=
  match zeroByte? text with
  | none => setOutput (.text text)
  | some position =>
    reject (.refused (.serializationError
      s!"output contains NUL at byte {Decimal.text position}"))

/-- The running engine. -/
def engine : Action Engine := do
  match (← get).boundary.engine with
  | some engine => return engine
  | none => reject (.refused .notInitialized)

/-- The boundary. -/
def setBoundary (boundary : Boundary) : Action Unit :=
  modify fun exchange => { exchange with boundary }

/-- The running engine is replaced. -/
def setEngine (engine : Engine) : Action Unit := do
  let boundary := (← get).boundary
  setBoundary { boundary with engine := some engine }

/-- A question to the running engine. -/
def ask {α : Type} (query : Engine → Outcome α) : Action α := do
  ofOutcome (query (← engine))

/-- A command to the running engine, with its answer. -/
def command {α : Type} (change : Engine → Outcome (α × Engine)) : Action α := do
  let (answer, engine) ← ofOutcome (change (← engine))
  setEngine engine
  return answer

/-- A command to the running engine that has no answer. -/
def commandDone (change : Engine → Outcome Engine) : Action Unit := do
  let engine ← ofOutcome (change (← engine))
  setEngine engine

/-! ## Starting and stopping -/

/-- An engine is started unless one is running already, which then goes on under its
own configuration. -/
def startEngine (config : Config) : Action Unit := do
  let boundary := (← get).boundary
  match boundary.engine with
  | some _ => return ()
  | none =>
    match boundary.floor with
    | none => reject (.refused (.allocationFailure "cart handle"))
    | some floor =>
      match Engine.start config floor with
      | .error cause => reject (.refused cause)
      | .ok engine => setEngine engine

/-- The running engine is stopped, if there is one.  It is taken from the boundary, and then it
releases its carts. -/
def stopEngine : Action Unit := do
  match (← get).boundary.engine with
  | none => return ()
  | some engine =>
    setBoundary ⟨none, engine.nextFloor⟩
    let _ ← ofOutcome engine.reset

/-! ## What comes of each part -/

@[simp]
theorem on_pure {α : Type} (a : α) (x : Exchange) :
    (pure a : Action α).on x = (.ok a, x) :=
  rfl

/-- A part is followed by the next one unless it fails. -/
theorem on_bind {α β : Type} (a : Action α) (f : α → Action β) (x : Exchange) :
    (a >>= f).on x =
      match a.on x with
      | (.ok value, y) => (f value).on y
      | (.error cause, y) => (.error cause, y) := by
  change (ExceptT.bindCont f (a.on x).1 : StateM Exchange (Except Setback β)).run (a.on x).2 = _
  rcases a.on x with ⟨result, y⟩
  cases result <;> rfl

@[simp]
theorem on_reject {α : Type} (cause : Rejection) (x : Exchange) :
    (reject cause : Action α).on x = (.error (.rejected cause), x) :=
  rfl

@[simp]
theorem on_setOutput (output : Output) (x : Exchange) :
    (setOutput output).on x = (.ok (), { x with output }) :=
  rfl

@[simp]
theorem on_setBoundary (boundary : Boundary) (x : Exchange) :
    (setBoundary boundary).on x = (.ok (), { x with boundary }) :=
  rfl

@[simp]
theorem on_setEngine (engine : Engine) (x : Exchange) :
    (setEngine engine).on x =
      (.ok (), { x with boundary := { x.boundary with engine := some engine } }) :=
  rfl

@[simp]
theorem on_needCell_null (argument : String) (x : Exchange) :
    (needCell argument .null).on x =
      (.error (.rejected (.nullPointer argument)), x) :=
  rfl

@[simp]
theorem on_needCell_cell (argument : String) (x : Exchange) :
    (needCell argument .cell).on x = (.ok (), x) :=
  rfl

/-- There is a running engine or the call is rejected. -/
theorem on_engine (x : Exchange) :
    engine.on x =
      match x.boundary.engine with
      | some engine => (.ok engine, x)
      | none => (.error (.rejected (.refused .notInitialized)), x) := by
  cases h : x.boundary.engine with
  | none =>
    have hget : (get : Action Exchange).on x = (.ok x, x) := rfl
    simp [engine, on_bind, hget, h]
  | some engine =>
    have hget : (get : Action Exchange).on x = (.ok x, x) := rfl
    simp [Action.engine, on_bind, hget, h]

end Action

namespace Call

/-- The text that tells of the version. -/
def versionText : String :=
  String.ofList (Json.Compact.object [("version", Json.Compact.string "0.1.0")])

/-- What a call does on a thread with this last error.  Arguments are looked at before
the engine is. -/
def action (message : String) : Call → Action Unit
  | start environment => Action.startEngine environment.texts.config
  | startWith config => do
    let text ← Action.readText "config_json" config
    match Config.ofText text with
    | .error cause => Action.reject (.refused cause)
    | .ok config => Action.startEngine config
  | stop => Action.stopEngine
  | version place => do
    Action.needTextCell "out_json" place
    Action.writeText versionText
  | loadCatalog text => do
    let text ← Action.readText "json" text
    let _ ← Action.command fun engine => engine.loadCatalog text
  | catalogText place => do
    Action.needTextCell "out_json" place
    let text ← Action.ask fun engine => .ok engine.catalogText
    Action.writeText text
  | createCart place => do
    Action.needCell "out_cart" place
    let handle ← Action.command Engine.createCart
    Action.setOutput (.handle handle)
  | releaseCart handle => Action.commandDone fun engine => engine.releaseCart handle
  | clearCart handle => Action.commandDone fun engine => engine.clearCart handle
  | addItem handle id amount => do
    let id ← Action.readText "item_id" id
    Action.commandDone fun engine => engine.addItem handle id amount.toInt64
  | removeLine handle index => do
    let _ ← Action.command fun engine => engine.removeLine handle index.toInt64
  | total handle place => do
    Action.needCell "out_total_cents" place
    let payment ← Action.ask fun engine => engine.payment handle
    Action.setOutput (.cents payment.total)
  | lines handle place => do
    Action.needTextCell "out_json" place
    let text ← Action.ask fun engine => engine.snapshotText handle
    Action.writeText text
  | setGiven handle cents => Action.commandDone fun engine => engine.setTendered handle cents
  | given handle place => do
    Action.needCell "out_given_cents" place
    let payment ← Action.ask fun engine => engine.payment handle
    Action.setOutput (.cents payment.given)
  | change handle place => do
    Action.needCell "out_change_cents" place
    let payment ← Action.ask fun engine => engine.payment handle
    Action.setOutput (.cents payment.change)
  | lastError => Action.setOutput (.text message)
  | freeText => return ()

end Call
end Till
