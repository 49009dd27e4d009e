import Till.Proofs.Engine.Live
import Till.Proofs.Registry.Shift

/-!
# Engines at lower generations

A command to an engine at lower generations, with the lower handle, is answered as the
command to the engine itself is: handles are lower in the answer, and in the refusal of a
handle, and nothing else differs.

Main results:

- Theorem {lit}`Request.perform_lowered`: what a cart answers does not depend on any
  generation.
- Theorem {lit}`Engine.AtLeast.perform_lowered`: a command at lower generations.
-/

namespace Till

variable {shift : Nat}

/-! ## Refusals and answers -/

namespace Refusal

/-- A refusal that quotes the lower handle. -/
def lowered (shift : Nat) : Refusal → Refusal
  | invalidHandle handle => invalidHandle (handle.lowered shift)
  | cause => cause

/-- A refusal is of the same kind at lower generations. -/
@[simp]
theorem kind_lowered (cause : Refusal) : (cause.lowered shift).kind = cause.kind := by
  cases cause <;> simp only [lowered, kind]

/-- Only the refusal of a handle quotes one. -/
theorem lowered_eq_self {cause : Refusal} (h : cause.kind ≠ .invalidHandle) :
    cause.lowered shift = cause := by
  cases cause with
  | invalidHandle handle => exact absurd rfl h
  | _ => rfl

end Refusal

/-- A failure at lower generations. -/
def Failure.lowered (shift : Nat) : Failure → Failure
  | refused cause => refused (cause.lowered shift)
  | faulted cause => faulted cause

/-- A failure that is no refusal of a handle is the same at lower generations. -/
theorem Outcome.RefusesOnly.lowered_eq_self {α : Type} {kinds : List Kind}
    {outcome : Outcome α} (h : outcome.RefusesOnly kinds) (hkinds : .invalidHandle ∉ kinds)
    {failure : Failure} (hfailure : outcome = .error failure) :
    failure.lowered shift = failure := by
  cases failure with
  | refused cause =>
    rw [Failure.lowered, Refusal.lowered_eq_self]
    intro hkind
    exact hkinds (hkind ▸ h cause hfailure)
  | faulted fault => rfl

/-- An answer with the lower handle. -/
def Answer.lowered (shift : Nat) : Answer → Answer
  | handle given => handle (given.lowered shift)
  | answer => answer

/-! ## Commands -/

namespace Command

/-- A command with the lower handle. -/
def lowered (shift : Nat) : Command → Command
  | releaseCart handle => releaseCart (handle.lowered shift)
  | addItem handle id amount => addItem (handle.lowered shift) id amount
  | removeLine handle index => removeLine (handle.lowered shift) index
  | clearCart handle => clearCart (handle.lowered shift)
  | setTendered handle cents => setTendered (handle.lowered shift) cents
  | payment handle => payment (handle.lowered shift)
  | snapshotText handle => snapshotText (handle.lowered shift)
  | command => command

/-- The request behind a command is the same at lower generations. -/
theorem request?_lowered (command : Command) :
    (command.lowered shift).request? =
      command.request?.map fun named => (named.1.lowered shift, named.2) := by
  cases command <;> rfl

end Command

/-- No cart answers with a handle. -/
theorem Request.answer_lowered {config : Config} {lookup : String → Outcome Item}
    {cart : Cart} {request : Request} {answer : Answer} {content : Option Cart}
    (h : request.perform config lookup cart = .ok (answer, content)) :
    answer.lowered shift = answer := by
  cases request with
  | release | clear =>
    cases h
    rfl
  | addItem id amount =>
    simp only [Request.perform, bind_eq_ok_iff] at h
    rcases h with ⟨_, _, item, _, added, _, hanswer⟩
    cases hanswer
    rfl
  | removeLine _ | setTendered _ | payment | snapshotText =>
    simp only [Request.perform, bind_eq_ok_iff] at h
    rcases h with ⟨_, _, hanswer⟩
    cases hanswer
    rfl

/-! ## Carts and their handles -/

/-- What becomes of a cart becomes of it under the lower handle, unless its slot is in the
last generation. -/
theorem Registry.settle_lowered (registry : Registry) {handle : Handle}
    (hshift : shift ≤ handle.generation.toNat)
    (hlast : handle.generation.toNat + 1 < Handle.halfSize) (content : Option Cart) :
    (registry.lowered shift).settle (handle.lowered shift) content =
      (registry.settle handle content).lowered shift := by
  cases content with
  | none =>
    rw [Handle.lowered_eq hshift]
    exact withVacated_lowered registry handle.slot.toNat hshift hlast
  | some new => exact put_lowered registry hshift new

/-! ## Catalogs -/

/-- A text that is not read as a catalog is not refused for a handle. -/
theorem Catalog.lowered_of_ofText_eq_error {text : String} {cause : Refusal}
    (h : ofText text = .error cause) : cause.lowered shift = cause := by
  apply Refusal.lowered_eq_self
  intro hkind
  have hmem := kind_of_ofText_eq_error h
  rw [hkind] at hmem
  exact absurd hmem (by decide)

/-! ## Engines -/

namespace Engine

/-- An engine at lower generations. -/
def lowered (shift : Nat) (engine : Engine) : Engine where
  config := engine.config
  catalog := engine.catalog
  carts := engine.carts.lowered shift

/-- An engine and the one at lower generations are in order, and no generation is below the
shift or the last one. -/
structure AtLeast (shift : Nat) (engine : Engine) : Prop where
  carts : engine.carts.WellFormed
  carts_lowered : (engine.lowered shift).carts.WellFormed
  le_first : shift ≤ engine.carts.firstGeneration.toNat
  first_belowLast : engine.carts.firstGeneration.toNat + 1 < Handle.halfSize
  belowLast : engine.carts.BelowLast

variable {engine after : Engine} {command : Command} {answer : Answer}

/-- A new engine starts at a lower generation. -/
theorem startingAt_lowered (config : Config) {floor : UInt32} (h : shift < floor.toNat) :
    (startingAt config floor).lowered shift =
      startingAt config (Handle.lowerGeneration shift floor) := by
  rw [lowered, startingAt, startingAt, Registry.startingAt_lowered h]

/-- The floor after an engine is lower as its generations are. -/
theorem AtLeast.nextFloor_lowered (h : engine.AtLeast shift) :
    (engine.lowered shift).nextFloor =
      engine.nextFloor.map (Handle.lowerGeneration shift) :=
  Registry.nextFloor_lowered h.le_first h.belowLast h.first_belowLast

/-- What comes of a command at lower generations. -/
def loweredResult (shift : Nat) (result : Outcome (Answer × Engine)) :
    Outcome (Answer × Engine) :=
  (result.map fun done => (done.1.lowered shift, done.2.lowered shift)).mapError
    (Failure.lowered shift)

/-- A command to a cart at lower generations. -/
theorem AtLeast.perform_lowered_of_request? (h : engine.AtLeast shift) {handle : Handle}
    {request : Request} (hrequest : command.request? = some (handle, request))
    (hhandle : shift ≤ handle.generation.toNat) :
    (engine.lowered shift).perform (command.lowered shift) =
      loweredResult shift (engine.perform command) := by
  have hrequest' : (command.lowered shift).request? = some (handle.lowered shift, request) := by
    rw [Command.request?_lowered, hrequest]
    rfl
  have hcart' : (engine.lowered shift).carts.cart? (handle.lowered shift) =
      engine.carts.cart? handle := h.carts.cart?_lowered h.le_first hhandle
  rw [perform_eq_of_request? h.carts_lowered hrequest', perform_eq_of_request? h.carts hrequest,
    hcart']
  cases hcart : engine.carts.cart? handle with
  | none => rfl
  | some cart =>
    have hlast := h.belowLast _ _ (Registry.cart?_eq_some_iff.1 hcart)
    have hsettle : ∀ content, (engine.lowered shift).carts.settle (handle.lowered shift) content =
        (engine.carts.settle handle content).lowered shift :=
      Registry.settle_lowered engine.carts hhandle hlast
    have hlookup : (engine.lowered shift).lookup = engine.lookup := rfl
    have honly : (request.perform engine.config engine.lookup cart).RefusesOnly request.kinds :=
      request.perform_refusesOnly engine.lookup_refusesOnly
    simp only [hlookup, hsettle]
    rw [show (engine.lowered shift).config = engine.config from rfl]
    cases hperform : request.perform engine.config engine.lookup cart with
    | error failure =>
      simp only [error_bind, loweredResult, Except.map, Except.mapError,
        honly.lowered_eq_self request.invalidHandle_notMem_kinds hperform]
    | ok result =>
      rcases result with ⟨answer, content⟩
      simp only [ok_bind, loweredResult, pure, Except.pure, Except.map, Except.mapError,
        Request.answer_lowered hperform]
      rfl

/-- A command at lower generations, other than a reset, is answered as at the generations
themselves. -/
theorem AtLeast.perform_lowered (h : engine.AtLeast shift)
    (hhandle : ∀ handle request, command.request? = some (handle, request) →
      shift ≤ handle.generation.toNat) (hreset : command ≠ .reset) :
    (engine.lowered shift).perform (command.lowered shift) =
      loweredResult shift (engine.perform command) := by
  cases hrequest : command.request? with
  | some named => exact h.perform_lowered_of_request? hrequest (hhandle _ _ hrequest)
  | none =>
    rcases request?_eq_none_iff.1 hrequest with ⟨text, rfl⟩ | rfl | rfl | rfl
    · simp only [Command.lowered, perform, loadCatalog]
      cases hcatalog : Catalog.ofText text with
      | error cause =>
        simp only [loweredResult, Outcome.refuse, error_bind, Except.map, Except.mapError,
          Failure.lowered, Catalog.lowered_of_ofText_eq_error hcatalog]
      | ok catalog => rfl
    · rfl
    · have hcreate : (engine.lowered shift).carts.create = _ :=
        h.carts.create_lowered h.le_first
      simp only [Command.lowered, perform, createCart, hcreate]
      cases hcarts : engine.carts.create with
      | error failure =>
        simp only [Except.map, error_bind, loweredResult, Except.mapError,
          engine.carts.create_refusesOnly.lowered_eq_self (by decide) hcarts]
      | ok made => rfl
    · exact absurd rfl hreset

end Engine
end Till
