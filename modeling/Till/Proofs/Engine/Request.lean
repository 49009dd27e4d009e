import Till.Engine.Command
import Till.Proofs.Catalog.Lookup
import Till.Proofs.Registry.WellFormed

/-!
# Requests to one cart

Most commands name a cart and concern nothing but this cart: what they answer, and
what becomes of the cart, depends on the cart, the configuration and the catalog in
force.  Here such a command is split into the handle and the request behind it, and the
request is carried out on the cart alone.  The other commands name no cart.

Main results:

- Theorems {lit}`Engine.perform_addItem` and {lit}`Engine.perform_loadCatalog`: what becomes of an
  engine that sells an item, and of one that is given a catalog.
- Theorem {lit}`Engine.perform_eq_of_request?`: a command that names a cart is its request
  carried out on that cart.
- Theorem {lit}`Engine.perform_eq_ok_iff`: all that a command can do to an engine.
-/

namespace Till

/-- What can be asked of a cart. -/
inductive Request where
  | release
  | addItem (id : String) (amount : Int64)
  | removeLine (index : Int64)
  | clear
  | setTendered (cents : Int64)
  | payment
  | snapshotText
  deriving DecidableEq, Repr

/-- The cart that a command names, and what it asks of this cart. -/
def Command.request? : Command → Option (Handle × Request)
  | releaseCart handle => some (handle, .release)
  | addItem handle id amount => some (handle, .addItem id amount)
  | removeLine handle index => some (handle, .removeLine index)
  | clearCart handle => some (handle, .clear)
  | setTendered handle cents => some (handle, .setTendered cents)
  | payment handle => some (handle, .payment)
  | snapshotText handle => some (handle, .snapshotText)
  | loadCatalog _ => none
  | catalogText => none
  | createCart => none
  | reset => none

/-- The answer of a cart to a request and the cart after it, none when it is given up. -/
def Request.perform (config : Config) (lookup : String → Outcome Item) (cart : Cart) :
    Request → Outcome (Answer × Option Cart)
  | release => .ok (.done, none)
  | addItem id amount => do
    Cart.checkQuantity amount config.maxLineQuantity
    let item ← lookup id
    let cart ← cart.addItem item amount config.maxLineQuantity
    return (.done, some cart)
  | removeLine index => do
    let (line, cart) ← cart.removeLine index
    return (.line line, some cart)
  | clear => .ok (.done, some cart.clear)
  | setTendered cents => do
    let cart ← cart.setTendered cents config.changePolicy
    return (.done, some cart)
  | payment => do
    let payment ← Outcome.ofFaulting (cart.payment config.changePolicy)
    return (.payment payment, some cart)
  | snapshotText => do
    let snapshot ← Outcome.ofFaulting (Snapshot.ofCart cart config.changePolicy)
    return (.text snapshot.text, some cart)

/-! ## A cart after a request -/

namespace Registry

variable {registry : Registry}

/-- A registry with what has become of the cart under a handle. -/
def settle (registry : Registry) (handle : Handle) : Option Cart → Registry
  | some cart => registry.put handle cart
  | none => registry.withVacated handle.slot.toNat handle.generation

/-- What becomes of a cart concerns its own handle only. -/
theorem cart?_settle {handle : Handle} {cart : Cart} (h : registry.cart? handle = some cart)
    (content : Option Cart) (other : Handle) :
    (registry.settle handle content).cart? other =
      if other = handle then content else registry.cart? other := by
  cases content with
  | none => exact cart?_withVacated h other
  | some new => exact cart?_put h other

/-- A registry in which something has become of a cart is well-formed. -/
theorem WellFormed.settle (h : registry.WellFormed) {handle : Handle} {cart : Cart}
    (hcart : registry.cart? handle = some cart) (content : Option Cart) :
    (registry.settle handle content).WellFormed := by
  cases content with
  | none => exact h.withVacated (cart?_eq_some_iff.1 hcart)
  | some new => exact h.put hcart

end Registry

/-! ## Commands as requests -/

namespace Engine

variable {engine after : Engine} {command : Command} {answer : Answer}

/-- A change of a cart is refused where there is none. -/
theorem changeCart_eq {α : Type} (engine : Engine) (handle : Handle)
    (change : Cart → Outcome (α × Cart)) :
    engine.changeCart handle change =
      match engine.carts.cart? handle with
      | none => .refuse (.invalidHandle handle)
      | some cart => do
        let (value, cart) ← change cart
        return (value, { engine with carts := engine.carts.put handle cart }) := by
  unfold changeCart Registry.update Registry.get
  cases engine.carts.cart? handle with
  | none => rfl
  | some cart =>
    simp only [ok_bind]
    cases change cart <;> rfl

/-- Nothing is added under a handle without a cart. -/
theorem addItem_of_not_live {handle : Handle} (hcart : engine.carts.cart? handle = none)
    (id : String) (amount : Int64) :
    engine.addItem handle id amount = .refuse (.invalidHandle handle) := by
  simp only [addItem, changeCart_eq, hcart]
  rfl

/-- Under a handle with a cart the quantity is checked, the item looked up, and the cart with
the item put in the place of the one without. -/
theorem addItem_of_live {handle : Handle} {cart : Cart}
    (hcart : engine.carts.cart? handle = some cart) (id : String) (amount : Int64) :
    engine.addItem handle id amount = do
      Cart.checkQuantity amount engine.config.maxLineQuantity
      let item ← engine.lookup id
      let sold ← cart.addItem item amount engine.config.maxLineQuantity
      return { engine with carts := engine.carts.put handle sold } := by
  simp only [addItem, changeCart_eq, hcart, bind_assoc, pure_bind]

section Found

variable {handle : Handle} {cart sold : Cart} {id : String} {item : Item} {amount : Int64}

/-- An item that is found goes into a live cart, unless the cart does not take it. -/
theorem addItem_of_found (hcart : engine.carts.cart? handle = some cart)
    (hitem : engine.lookup id = .ok item) :
    engine.addItem handle id amount =
      (cart.addItem item amount engine.config.maxLineQuantity).map fun sold =>
        { engine with carts := engine.carts.put handle sold } := by
  rw [addItem_of_live hcart, hitem]
  cases hcheck : Cart.checkQuantity amount engine.config.maxLineQuantity with
  | error failure =>
    rw [Cart.addItem, hcheck]
    rfl
  | ok _ =>
    simp only [ok_bind]
    cases cart.addItem item amount engine.config.maxLineQuantity <;> rfl

/-- The cart of a handle is the one with the item once it takes it, -/
theorem perform_addItem (hcart : engine.carts.cart? handle = some cart)
    (hitem : engine.lookup id = .ok item)
    (hsold : cart.addItem item amount engine.config.maxLineQuantity = .ok sold) :
    engine.perform (.addItem handle id amount) =
      .ok (.done, { engine with carts := engine.carts.put handle sold }) := by
  rw [perform, addItem_of_found hcart hitem, hsold]
  rfl

/-- and it is not changed where it does not. -/
theorem perform_addItem_eq_error {failure : Failure}
    (hcart : engine.carts.cart? handle = some cart) (hitem : engine.lookup id = .ok item)
    (hsold : cart.addItem item amount engine.config.maxLineQuantity = .error failure) :
    engine.perform (.addItem handle id amount) = .error failure := by
  rw [perform, addItem_of_found hcart hitem, hsold]
  rfl

end Found

/-- The catalog of a text comes into force. -/
theorem perform_loadCatalog {text : String} {catalog : Catalog}
    (h : Catalog.ofText text = .ok catalog) :
    engine.perform (.loadCatalog text) =
      .ok (.count catalog.size, { engine with catalog := some catalog }) := by
  rw [perform, loadCatalog, h]
  rfl

/-- A command that names a cart is its request carried out on that cart. -/
theorem perform_eq_of_request? (h : engine.carts.WellFormed) {handle : Handle}
    {request : Request} (hrequest : command.request? = some (handle, request)) :
    engine.perform command =
      match engine.carts.cart? handle with
      | none => .refuse (.invalidHandle handle)
      | some cart => do
        let (answer, content) ← request.perform engine.config engine.lookup cart
        return (answer, { engine with carts := engine.carts.settle handle content }) := by
  cases command with
  | releaseCart handle' =>
    cases hrequest
    simp only [perform, releaseCart, h.release_eq]
    cases engine.carts.cart? handle <;> rfl
  | addItem handle' id amount =>
    cases hrequest
    cases hcart : engine.carts.cart? handle with
    | none =>
      rw [perform, addItem_of_not_live hcart]
      rfl
    | some cart =>
      simp only [perform, addItem_of_live hcart, Request.perform, bind_assoc, pure_bind]
      rfl
  | removeLine handle' index =>
    cases hrequest
    simp only [perform, removeLine, changeCart_eq]
    cases engine.carts.cart? handle with
    | none => rfl
    | some cart =>
      simp only [Request.perform]
      cases cart.removeLine index <;> rfl
  | clearCart handle' =>
    cases hrequest
    simp only [perform, clearCart, changeCart_eq]
    cases engine.carts.cart? handle <;> rfl
  | setTendered handle' cents =>
    cases hrequest
    simp only [perform, setTendered, changeCart_eq]
    cases engine.carts.cart? handle with
    | none => rfl
    | some cart =>
      simp only [Request.perform]
      cases cart.setTendered cents engine.config.changePolicy <;> rfl
  | payment handle' =>
    cases hrequest
    simp only [perform, payment, Registry.get]
    cases hcart : engine.carts.cart? handle with
    | none => rfl
    | some cart =>
      simp only [ok_bind, Request.perform]
      cases cart.payment engine.config.changePolicy with
      | error fault => rfl
      | ok payment =>
        simp only [Outcome.ofFaulting, ok_bind, pure, Except.pure, Registry.settle,
          Registry.put_self hcart]
  | snapshotText handle' =>
    cases hrequest
    simp only [perform, snapshotText, snapshot, Registry.get]
    cases hcart : engine.carts.cart? handle with
    | none => rfl
    | some cart =>
      simp only [ok_bind, Request.perform]
      cases Snapshot.ofCart cart engine.config.changePolicy with
      | error fault => rfl
      | ok snapshot =>
        simp only [Outcome.ofFaulting, ok_bind, pure, Except.pure, Registry.settle,
          Registry.put_self hcart]
  | loadCatalog text => cases hrequest
  | catalogText => cases hrequest
  | createCart => cases hrequest
  | reset => cases hrequest

/-- All that a command can do to an engine. -/
inductive Performed (engine : Engine) : Command → Answer → Engine → Prop where
  | load {text : String} {catalog : Catalog} (hcatalog : Catalog.ofText text = .ok catalog) :
      Performed engine (.loadCatalog text) (.count catalog.size)
        { engine with catalog := some catalog }
  | text : Performed engine .catalogText (.text engine.catalogText) engine
  | create {handle : Handle} {carts : Registry}
      (hcreate : engine.carts.create = .ok (handle, carts)) :
      Performed engine .createCart (.handle handle) { engine with carts }
  | request {command : Command} {handle : Handle} {request : Request} {cart : Cart}
      {answer : Answer} {content : Option Cart}
      (hrequest : command.request? = some (handle, request))
      (hcart : engine.carts.cart? handle = some cart)
      (hperform : request.perform engine.config engine.lookup cart = .ok (answer, content)) :
      Performed engine command answer
        { engine with carts := engine.carts.settle handle content }
  | reset {carts : Registry} (hcarts : engine.carts.releaseAll = .ok carts) :
      Performed engine .reset .done { engine with catalog := none, carts }

/-- The commands that name no cart. -/
theorem request?_eq_none_iff :
    command.request? = none ↔
      (∃ text, command = .loadCatalog text) ∨ command = .catalogText ∨
        command = .createCart ∨ command = .reset := by
  cases command <;> simp [Command.request?]

/-- A command does to an engine what is listed, and nothing else. -/
theorem perform_eq_ok_iff (h : engine.carts.WellFormed) :
    engine.perform command = .ok (answer, after) ↔ engine.Performed command answer after := by
  constructor
  · intro hperform
    cases hrequest : command.request? with
    | some named =>
      rcases named with ⟨handle, request⟩
      rw [perform_eq_of_request? h hrequest] at hperform
      cases hcart : engine.carts.cart? handle with
      | none => simp [hcart, Outcome.refuse] at hperform
      | some cart =>
        simp only [hcart, bind_eq_ok_iff] at hperform
        rcases hperform with ⟨⟨answer', content⟩, hcontent, hafter⟩
        cases hafter
        exact .request hrequest hcart hcontent
    | none =>
      rcases request?_eq_none_iff.1 hrequest with ⟨text, rfl⟩ | rfl | rfl | rfl
      · simp only [perform, loadCatalog] at hperform
        cases hcatalog : Catalog.ofText text with
        | error cause => simp [hcatalog, Outcome.refuse] at hperform
        | ok catalog =>
          rw [hcatalog] at hperform
          cases hperform
          exact .load hcatalog
      · cases hperform
        exact .text
      · simp only [perform, createCart, bind_eq_ok_iff] at hperform
        rcases hperform with ⟨_, ⟨⟨handle, carts⟩, hcreate, hengine⟩, hafter⟩
        cases hengine
        cases hafter
        exact .create hcreate
      · simp only [perform, reset, bind_eq_ok_iff] at hperform
        rcases hperform with ⟨_, ⟨carts, hcarts, hengine⟩, hafter⟩
        cases hengine
        cases hafter
        rw [h.releaseAll_eq] at hcarts
        cases hcarts
        exact .reset h.releaseAll_eq
  · intro hperformed
    cases hperformed with
    | load hcatalog => exact perform_loadCatalog hcatalog
    | text => rfl
    | create hcreate => simp only [perform, createCart, hcreate, ok_bind, pure, Except.pure]
    | request hrequest hcart hcontent =>
      rw [perform_eq_of_request? h hrequest, hcart]
      simp only [hcontent, ok_bind, pure, Except.pure]
    | reset hcarts =>
      simp only [perform, reset, hcarts, Outcome.ofFaulting, ok_bind, pure, Except.pure]

end Engine
end Till
