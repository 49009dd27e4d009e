import Till.Proofs.Engine.Ledger
import Till.Proofs.Engine.WellFormed

/-!
# What is entered and what is done

The entry that a successful command makes about a cart tells all that the command did to this
cart.  So whoever follows one cart through a run has to look at the entries about it only:
commands on other carts, loads, queries and failures enter nothing and leave the cart alone.

Main results:

- Theorem {lit}`Request.entered`: a cart that stays after a request to it is what the entry
  about the request makes of it.
- Theorem {lit}`Engine.entered_of_step`: a cart that is live after a step was opened by it, or
  it is what the entry about the step makes of a cart that was live before.
-/

namespace Till

variable {handle : Handle} {command : Command} {answer : Answer}

/-- What an entry makes of a cart, under a configuration and with a way to look up items. -/
inductive Cart.Entered (config : Config) (lookup : String → Outcome Item) (cart : Cart) :
    Option Entry → Cart → Prop where
  | nothing : Entered config lookup cart none cart
  | added {id : String} {amount : Int64} {item : Item} {after : Cart}
      (hitem : lookup id = .ok item)
      (hadd : cart.addItem item amount config.maxLineQuantity = .ok after) :
      Entered config lookup cart (some (.added id amount)) after
  | removed {index : Int64} {line : Line} {after : Cart}
      (hremove : cart.removeLine index = .ok (line, after)) :
      Entered config lookup cart (some (.removed line.itemId)) after
  | cleared : Entered config lookup cart (some .cleared) cart.clear
  | tendered {cents : Int64} {after : Cart}
      (htender : cart.setTendered cents config.changePolicy = .ok after) :
      Entered config lookup cart (some (.tendered cents)) after

/-- A cart that stays after a request to it is what the entry about the request makes of it. -/
theorem Request.entered {config : Config} {lookup : String → Outcome Item} {cart after : Cart}
    {request : Request} (hrequest : command.request? = some (handle, request))
    (hperform : request.perform config lookup cart = .ok (answer, some after)) :
    cart.Entered config lookup (Event.entry? handle (command, .ok answer)) after := by
  cases command with
  | releaseCart named =>
    cases hrequest
    cases hperform
  | addItem named id amount =>
    cases hrequest
    simp only [Request.perform, bind_eq_ok_iff] at hperform
    rcases hperform with ⟨_, _, item, hitem, added, hadded, hafter⟩
    cases hafter
    simp only [Event.entry?, if_true]
    exact .added hitem hadded
  | removeLine named index =>
    cases hrequest
    simp only [Request.perform, bind_eq_ok_iff] at hperform
    rcases hperform with ⟨⟨line, left⟩, hremove, hafter⟩
    cases hafter
    simp only [Event.entry?, if_true]
    exact .removed hremove
  | clearCart named =>
    cases hrequest
    cases hperform
    simp only [Event.entry?, if_true]
    exact .cleared
  | setTendered named cents =>
    cases hrequest
    simp only [Request.perform, bind_eq_ok_iff] at hperform
    rcases hperform with ⟨tendered, htendered, hafter⟩
    cases hafter
    simp only [Event.entry?, if_true]
    exact .tendered htendered
  | payment named | snapshotText named =>
    cases hrequest
    simp only [Request.perform, bind_eq_ok_iff] at hperform
    rcases hperform with ⟨_, _, hafter⟩
    cases hafter
    exact .nothing
  | loadCatalog _ | catalogText | createCart | reset => cases hrequest

/-- A request to another cart enters nothing. -/
theorem Event.entry?_of_ne {named : Handle} {request : Request}
    (hrequest : command.request? = some (named, request)) (hne : named ≠ handle)
    (result : Outcome Answer) : Event.entry? handle (command, result) = none := by
  rcases result with failure | answer
  · exact Event.entry?_error handle command failure
  · cases command with
    | removeLine other index =>
      cases hrequest
      cases answer with
      | line line => exact if_neg hne
      | _ => rfl
    | addItem other id amount =>
      cases hrequest
      exact if_neg hne
    | clearCart other =>
      cases hrequest
      exact if_neg hne
    | setTendered other cents =>
      cases hrequest
      exact if_neg hne
    | _ => first | rfl | cases hrequest

namespace Engine

variable {engine after : Engine} {cart : Cart}

/-- A cart that is live after a command was opened by it, or it is what the entry about the
command makes of a cart that was live before. -/
theorem Performed.entered (h : engine.carts.WellFormed)
    (hperformed : engine.Performed command answer after)
    (hcart : after.carts.cart? handle = some cart) :
    (Event.entry? handle (command, .ok answer) = some .opened ∧ cart = {}) ∨
      ∃ before, engine.carts.cart? handle = some before ∧
        before.Entered engine.config engine.lookup
          (Event.entry? handle (command, .ok answer)) cart := by
  cases hperformed with
  | load hcatalog => exact .inr ⟨cart, hcart, .nothing⟩
  | text => exact .inr ⟨cart, hcart, .nothing⟩
  | @create created carts hcreate =>
    rw [h.cart?_create hcreate] at hcart
    by_cases heq : handle = created
    · rw [if_pos heq] at hcart
      cases hcart
      exact .inl ⟨if_pos heq.symm, rfl⟩
    · rw [if_neg heq] at hcart
      have hnone : Event.entry? handle (.createCart, .ok (.handle created)) = none :=
        if_neg (Ne.symm heq)
      rw [hnone]
      exact .inr ⟨cart, hcart, .nothing⟩
  | @request _ named request before _ content hrequest hbefore hcontent =>
    rw [Registry.cart?_settle hbefore] at hcart
    by_cases heq : handle = named
    · subst heq
      rw [if_pos rfl] at hcart
      rw [hcart] at hcontent
      exact .inr ⟨before, hbefore, Request.entered hrequest hcontent⟩
    · rw [if_neg heq] at hcart
      rw [Event.entry?_of_ne hrequest (Ne.symm heq)]
      exact .inr ⟨cart, hcart, .nothing⟩
  | reset hcarts =>
    rw [h.cart?_releaseAll hcarts] at hcart
    cases hcart

/-- A cart that is live after a step was opened by it, or it is what the entry about the step
makes of a cart that was live before. -/
theorem entered_of_step (h : engine.carts.WellFormed) (command : Command)
    (hcart : (engine.step command).2.carts.cart? handle = some cart) :
    (Event.entry? handle (command, (engine.step command).1) = some .opened ∧ cart = {}) ∨
      ∃ before, engine.carts.cart? handle = some before ∧
        before.Entered engine.config engine.lookup
          (Event.entry? handle (command, (engine.step command).1)) cart := by
  rcases step_cases engine command with
    ⟨answer, after, hperform, hstep⟩ | ⟨failure, _, hstep⟩
  · rw [hstep] at hcart ⊢
    exact ((perform_eq_ok_iff h).1 hperform).entered h hcart
  · rw [hstep] at hcart ⊢
    rw [Event.entry?_error]
    exact .inr ⟨cart, hcart, .nothing⟩

end Engine
end Till
