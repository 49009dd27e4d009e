import Till.Proofs.Engine.Kinds
import Till.Proofs.Registry.Issuable

/-!
# Live carts

A cart is live from its creation until it is released or the engine is reset; nothing else
that is asked of an engine opens a cart or ends one.  A handle is refused as invalid exactly
when no cart is live under it.

Main results:

- Theorem {lit}`Engine.Performed.live_iff`: the carts that are live after a command.
- Theorem {lit}`Engine.WellFormed.perform_invalidHandle_iff`: when a handle is refused.
-/

namespace Till

/-! ## Carts that stay -/

/-- Only a release ends a cart. -/
theorem Request.content_eq_none_iff {config : Config} {lookup : String → Outcome Item}
    {cart : Cart} {request : Request} {answer : Answer} {content : Option Cart}
    (h : request.perform config lookup cart = .ok (answer, content)) :
    content = none ↔ request = .release := by
  cases request with
  | release =>
    cases h
    simp
  | clear =>
    cases h
    simp
  | addItem id amount =>
    simp only [Request.perform, bind_eq_ok_iff] at h
    rcases h with ⟨_, _, item, _, added, _, hsome⟩
    cases hsome
    simp
  | removeLine index =>
    simp only [Request.perform, bind_eq_ok_iff] at h
    rcases h with ⟨result, _, hsome⟩
    cases hsome
    simp
  | setTendered cents =>
    simp only [Request.perform, bind_eq_ok_iff] at h
    rcases h with ⟨tendered, _, hsome⟩
    cases hsome
    simp
  | payment =>
    simp only [Request.perform, bind_eq_ok_iff] at h
    rcases h with ⟨payment, _, hsome⟩
    cases hsome
    simp
  | snapshotText =>
    simp only [Request.perform, bind_eq_ok_iff] at h
    rcases h with ⟨snapshot, _, hsome⟩
    cases hsome
    simp

/-- A command that asks for the release of a cart is the one that releases it. -/
theorem Command.request?_release_iff {command : Command} {handle : Handle} :
    command.request? = some (handle, .release) ↔ command = .releaseCart handle := by
  cases command <;> simp [Command.request?]

namespace Engine

variable {engine after : Engine} {command : Command} {answer : Answer} {handle : Handle}

/-- The cart that is created is live after a command, and so are those from before unless
they are released or the engine is reset. -/
theorem Performed.live_iff (h : engine.carts.WellFormed)
    (hperformed : engine.Performed command answer after) (handle : Handle) :
    after.carts.cart? handle ≠ none ↔
      (command = .createCart ∧ answer = .handle handle) ∨
        (engine.carts.cart? handle ≠ none ∧ command ≠ .releaseCart handle ∧
          command ≠ .reset) := by
  cases hperformed with
  | load hcatalog => simp
  | text => simp
  | @create created carts hcreate =>
    rw [h.cart?_create hcreate]
    by_cases heq : handle = created
    · simp [heq]
    · simp [heq, Ne.symm heq]
  | @request _ named request cart _ content hrequest hcart hcontent =>
    have hcreate : command ≠ .createCart := by
      intro heq
      rcases heq with rfl
      cases hrequest
    have hreset : command ≠ .reset := by
      intro heq
      rcases heq with rfl
      cases hrequest
    rw [Registry.cart?_settle hcart]
    by_cases heq : handle = named
    · subst heq
      have hrelease : command = .releaseCart handle ↔ request = .release := by
        rw [← Command.request?_release_iff, hrequest]
        simp
      simp [hcart, hcreate, hreset, hrelease, Request.content_eq_none_iff hcontent]
    · have hrelease : command ≠ .releaseCart handle := by
        intro heq
        rcases heq with rfl
        cases hrequest
        exact heq rfl
      simp [heq, hcreate, hreset, hrelease]
  | reset hcarts =>
    rw [h.cart?_releaseAll hcarts]
    simp

/-! ## Handles that are used up -/

/-- No command brings back a handle. -/
theorem Performed.issuable (h : engine.carts.WellFormed)
    (hperformed : engine.Performed command answer after)
    (hissuable : after.carts.Issuable handle) : engine.carts.Issuable handle := by
  cases hperformed with
  | load _ => exact hissuable
  | text => exact hissuable
  | create hcreate => exact h.issuable_of_issuable_create hcreate hissuable
  | @request _ named _ cart _ content _ hcart _ =>
    cases content with
    | none => exact h.issuable_of_withVacated (Registry.cart?_eq_some_iff.1 hcart) hissuable
    | some new => exact Registry.issuable_of_put hcart hissuable
  | reset hcarts => exact (h.issuable_of_releaseAll hcarts).2 handle hissuable

end Engine

/-! ## Refused handles -/

namespace Engine

variable {engine : Engine} {command : Command} {handle : Handle} {request : Request}

/-- A command is refused for its handle exactly when no cart is live under the handle. -/
theorem WellFormed.perform_invalidHandle_iff (h : engine.WellFormed)
    (hrequest : command.request? = some (handle, request)) :
    (∃ cause, engine.perform command = .error (.refused cause) ∧
      cause.kind = .invalidHandle) ↔ engine.carts.cart? handle = none := by
  rw [perform_eq_of_request? h.carts hrequest]
  cases hcart : engine.carts.cart? handle with
  | none => exact iff_of_true ⟨.invalidHandle handle, rfl, rfl⟩ rfl
  | some cart =>
    refine iff_of_false ?_ (by simp)
    rintro ⟨cause, hcause, hkind⟩
    have honly : (request.perform engine.config engine.lookup cart).RefusesOnly request.kinds :=
      request.perform_refusesOnly engine.lookup_refusesOnly
    have hmem := honly.bind (fun _ => Outcome.refusesOnly_ok) cause hcause
    rw [hkind] at hmem
    exact request.invalidHandle_notMem_kinds hmem

end Engine
end Till
