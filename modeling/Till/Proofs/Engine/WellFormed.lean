import Mathlib.Data.List.Induction
import Till.Proofs.Cart.WellFormed
import Till.Proofs.Catalog.Text
import Till.Proofs.Engine.Request

/-!
# Well-formed engines

An engine that is started under any configuration, at any generation, and then only
given commands has a well-formed registry, a well-formed catalog if any, and
well-formed carts.  So none of its commands faults.

Main results:

- Theorem {lit}`Engine.WellFormed.perform`: a command to a well-formed engine does not
  fault and leaves it well-formed.
- Theorem {lit}`Engine.run_induction`: what holds of a new engine, and is preserved by every
  command together with its result, holds after every run together with its history.
- Theorem {lit}`Engine.run_answers_every_command`: no command of any run faults, and every
  cart that is live after the run has its amounts in range.
-/

namespace Till

/-! ## Requests -/

/-- A request to a well-formed cart does not fault and leaves it well-formed. -/
theorem Request.perform_ensures {config : Config} {lookup : String → Outcome Item}
    {cart : Cart} (h : cart.WellFormed config.maxLineQuantity)
    (hlookup : ∀ id, (lookup id).Ensures fun item => item.check = .ok ()) (request : Request) :
    (request.perform config lookup cart).Ensures fun result =>
      ∀ after, result.2 = some after → after.WellFormed config.maxLineQuantity := by
  have hsome : ∀ {answer : Answer} {after : Cart}, after.WellFormed config.maxLineQuantity →
      ∀ after', (answer, some after).2 = some after' →
        after'.WellFormed config.maxLineQuantity := by
    intro answer after hafter after' heq
    cases heq
    exact hafter
  cases request with
  | release =>
    intro after hafter
    cases hafter
  | addItem id amount =>
    apply Cart.checkQuantity_answered.bind
    intro _ _
    apply (hlookup id).bind
    intro item hitem
    apply (h.addItem (Item.price_nonneg_of_check hitem)).bind
    intro after hafter
    exact hsome hafter
  | removeLine index =>
    apply h.removeLine.bind
    intro result hresult
    exact hsome hresult
  | clear => exact hsome h.clear
  | setTendered cents =>
    apply h.setTendered.bind
    intro after hafter
    exact hsome hafter
  | payment =>
    rcases h.payment_eq_ok config.changePolicy with ⟨total, difference, hpayment, _⟩
    simp only [Request.perform, hpayment]
    exact hsome h
  | snapshotText =>
    rcases h.snapshot_eq_ok config.changePolicy with ⟨snapshot, hsnapshot⟩
    simp only [Request.perform, hsnapshot]
    exact hsome h

namespace Engine

/-- The registry, the catalog in force and the live carts are well-formed. -/
structure WellFormed (engine : Engine) : Prop where
  carts : engine.carts.WellFormed
  catalog : ∀ catalog, engine.catalog = some catalog → catalog.WellFormed
  cart : ∀ handle cart, engine.carts.cart? handle = some cart →
    cart.WellFormed engine.config.maxLineQuantity

variable {engine after : Engine} {command : Command} {answer : Answer}

/-- No handle is valid in a registry without slots. -/
theorem cart?_startingAt (generation : UInt32) (handle : Handle) :
    (Registry.startingAt generation).cart? handle = none :=
  Registry.cart?_eq_none_of_vacant (by simp [Registry.slot?, Registry.startingAt])

/-- A new engine is well-formed. -/
theorem wellFormed_startingAt (config : Config) (generation : UInt32) :
    (startingAt config generation).WellFormed where
  carts := Registry.wellFormed_startingAt generation
  catalog catalog h := by cases h
  cart handle cart h := by
    rw [startingAt, cart?_startingAt] at h
    cases h

/-! ## Commands -/

/-- Only the configuration of an engine is never changed. -/
theorem Performed.config_eq (h : engine.Performed command answer after) :
    after.config = engine.config := by
  cases h <;> rfl

/-- The item of an id in the catalog in force keeps the rules. -/
theorem WellFormed.lookup_ensures (h : engine.WellFormed) (id : String) :
    (engine.lookup id).Ensures fun item => item.check = .ok () := by
  unfold lookup
  cases hcatalog : engine.catalog with
  | none => trivial
  | some catalog => exact (h.catalog catalog hcatalog).lookup_ensures

/-- An engine is well-formed after a command. -/
theorem WellFormed.performed (h : engine.WellFormed)
    (hperformed : engine.Performed command answer after) : after.WellFormed := by
  cases hperformed with
  | load hcatalog =>
    refine ⟨h.carts, ?_, h.cart⟩
    intro catalog heq
    cases heq
    exact Catalog.wellFormed_of_ofText hcatalog
  | text => exact h
  | create hcreate =>
    refine ⟨h.carts.create hcreate, h.catalog, ?_⟩
    intro handle cart hcart
    rw [h.carts.cart?_create hcreate] at hcart
    split at hcart
    · cases hcart
      exact Cart.wellFormed_new
    · exact h.cart handle cart hcart
  | request hrequest hcart hcontent =>
    refine ⟨h.carts.settle hcart _, h.catalog, ?_⟩
    intro handle cart hcart'
    rw [Registry.cart?_settle hcart] at hcart'
    split at hcart'
    · have hensures := Request.perform_ensures (h.cart _ _ hcart) h.lookup_ensures
      exact (hensures _).of_eq_ok hcontent cart hcart'
    · exact h.cart handle cart hcart'
  | reset hcarts =>
    refine ⟨?_, by simp, ?_⟩
    · rw [h.carts.releaseAll_eq, Except.ok.injEq] at hcarts
      rw [← hcarts]
      exact (h.carts.foldl_vacated_induction (motive := fun _ => True) trivial
        (fun _ _ _ _ _ _ _ => trivial) _).1
    · intro handle cart hcart
      rw [h.carts.cart?_releaseAll hcarts] at hcart
      cases hcart

/-- No command to a well-formed engine faults. -/
theorem WellFormed.answered (h : engine.WellFormed) (command : Command) :
    (engine.perform command).Answered := by
  cases hrequest : command.request? with
  | some named =>
    rcases named with ⟨handle, request⟩
    rw [perform_eq_of_request? h.carts hrequest]
    cases hcart : engine.carts.cart? handle with
    | none => trivial
    | some cart =>
      apply (Request.perform_ensures (h.cart handle cart hcart) h.lookup_ensures request).bind
      intro _ _
      trivial
  | none =>
    rcases request?_eq_none_iff.1 hrequest with ⟨text, rfl⟩ | rfl | rfl | rfl
    · simp only [perform, loadCatalog]
      cases Catalog.ofText text <;> trivial
    · trivial
    · have hcreate : engine.createCart.Answered :=
        h.carts.create_answered.bind fun _ _ => trivial
      exact hcreate.bind fun _ _ => trivial
    · simp only [perform, reset, h.carts.releaseAll_eq]
      trivial

/-- A command to a well-formed engine does not fault and leaves it well-formed. -/
theorem WellFormed.perform (h : engine.WellFormed) (command : Command) :
    (engine.perform command).Ensures fun result => result.2.WellFormed := by
  apply (h.answered command).ensures
  intro result hresult
  exact h.performed ((perform_eq_ok_iff h.carts).1 hresult)

/-- The payment for a live cart has exact figures. -/
theorem WellFormed.payment_exact (h : engine.WellFormed) {handle : Handle} {cart : Cart}
    (hcart : engine.carts.cart? handle = some cart) :
    ∃ payment, engine.payment handle = .ok payment ∧
      payment.total.value = Cart.exactTotal cart.lines ∧ payment.given = cart.tendered ∧
      payment.change.value =
        if engine.config.changePolicy = .clampToZero then
          max 0 (cart.tendered.value - Cart.exactTotal cart.lines)
        else cart.tendered.value - Cart.exactTotal cart.lines := by
  rcases (h.cart handle cart hcart).payment_exact engine.config.changePolicy with
    ⟨payment, hpayment, hfigures⟩
  refine ⟨payment, ?_, hfigures⟩
  rw [Engine.payment, Registry.get_eq_ok_iff.2 hcart, ok_bind, hpayment]
  rfl

/-- A step of a command that succeeds has its answer and leaves the engine after it. -/
theorem step_of_perform {answer : Answer} {after : Engine} {command : Command}
    (h : engine.perform command = .ok (answer, after)) :
    engine.step command = (.ok answer, after) := by
  simp only [step, h]

/-- A step has the result of its command; only a success changes the engine. -/
theorem step_cases (engine : Engine) (command : Command) :
    (∃ answer after, engine.perform command = .ok (answer, after) ∧
      engine.step command = (.ok answer, after)) ∨
    ∃ failure, engine.perform command = .error failure ∧
      engine.step command = (.error failure, engine) := by
  cases hperform : engine.perform command with
  | error failure => exact Or.inr ⟨failure, rfl, step_eq_self_of_error hperform⟩
  | ok result => exact Or.inl ⟨result.1, result.2, rfl, step_of_perform hperform⟩

/-- An engine is well-formed after a step. -/
theorem WellFormed.step (h : engine.WellFormed) (command : Command) :
    (engine.step command).2.WellFormed := by
  rcases step_cases engine command with
    ⟨answer, after, hperform, hstep⟩ | ⟨failure, _, hstep⟩
  · rw [hstep]
    exact h.performed ((perform_eq_ok_iff h.carts).1 hperform)
  · rw [hstep]
    exact h

/-- The configuration of an engine is the same after a step. -/
theorem config_step (h : engine.carts.WellFormed) (command : Command) :
    (engine.step command).2.config = engine.config := by
  rcases step_cases engine command with ⟨answer, after, hperform, hstep⟩ | ⟨_, _, hstep⟩
  · rw [hstep]
    exact ((perform_eq_ok_iff h).1 hperform).config_eq
  · rw [hstep]

/-! ## Runs -/

/-- The commands of a run with their results, in order. -/
def history (engine : Engine) (commands : List Command) : List (Command × Outcome Answer) :=
  commands.zip (engine.run commands).1

/-- A run takes the step of its first command and goes on. -/
theorem run_cons (engine : Engine) (command : Command) (rest : List Command) :
    engine.run (command :: rest) =
      ((engine.step command).1 :: ((engine.step command).2.run rest).1,
        ((engine.step command).2.run rest).2) :=
  rfl

/-- A command has one result. -/
theorem length_run (engine : Engine) (commands : List Command) :
    (engine.run commands).1.length = commands.length := by
  induction commands generalizing engine with
  | nil => rfl
  | cons command rest ih => simp [run, ih]

/-- A run that is one command longer takes one step more. -/
theorem run_concat (engine : Engine) (commands : List Command) (command : Command) :
    (engine.run (commands ++ [command])).2 = ((engine.run commands).2.step command).2 ∧
      engine.history (commands ++ [command]) =
        engine.history commands ++
          [(command, ((engine.run commands).2.step command).1)] := by
  rw [history, run_append]
  refine ⟨rfl, ?_⟩
  rw [List.zip_append (length_run engine commands).symm]
  rfl

/-- What holds of a new engine and is preserved by every command together with its
result holds after every run together with its history. -/
theorem run_induction {motive : List (Command × Outcome Answer) → Engine → Prop}
    (hstart : motive [] engine)
    (hstep : ∀ history before command, motive history before →
      motive (history ++ [(command, (before.step command).1)]) (before.step command).2)
    (commands : List Command) :
    motive (engine.history commands) (engine.run commands).2 := by
  induction commands using List.reverseRecOn with
  | nil => exact hstart
  | append_singleton commands command ih =>
    rcases run_concat engine commands command with ⟨hengine, hhistory⟩
    rw [hengine, hhistory]
    exact hstep _ _ command ih

/-- An engine is well-formed after a run. -/
theorem WellFormed.run (h : engine.WellFormed) (commands : List Command) :
    (engine.run commands).2.WellFormed :=
  run_induction (motive := fun _ after => after.WellFormed) h
    (fun _ _ command hbefore => hbefore.step command) commands

/-- The configuration of an engine is the same after a run. -/
theorem WellFormed.config_run (h : engine.WellFormed) (commands : List Command) :
    (engine.run commands).2.config = engine.config := by
  have hboth := run_induction
    (motive := fun _ after => after.WellFormed ∧ after.config = engine.config) ⟨h, rfl⟩
    (fun _ before command hbefore =>
      ⟨hbefore.1.step command, (config_step hbefore.1.carts command).trans hbefore.2⟩)
    commands
  exact hboth.2

/-- The engine is one that was started and then only given commands. -/
def Reachable (engine : Engine) : Prop :=
  ∃ config generation commands, engine = ((startingAt config generation).run commands).2

/-- A reachable engine is well-formed. -/
theorem Reachable.wellFormed (h : engine.Reachable) : engine.WellFormed := by
  rcases h with ⟨config, generation, commands, rfl⟩
  exact (wellFormed_startingAt config generation).run commands

/-- No command of a run from a well-formed engine faults. -/
theorem WellFormed.run_answered (h : engine.WellFormed) (commands : List Command)
    {result : Outcome Answer} (hresult : result ∈ (engine.run commands).1) :
    result.Answered := by
  induction commands generalizing engine with
  | nil => cases hresult
  | cons command rest ih =>
    rw [run_cons] at hresult
    rcases List.mem_cons.1 hresult with heq | hresult
    · have hanswered := h.answered command
      rw [heq]
      rcases step_cases engine command with ⟨_, _, _, hstep⟩ | ⟨failure, hperform, hstep⟩
      · rw [hstep]
        trivial
      · rw [hstep]
        rw [hperform] at hanswered
        rcases failure with cause | fault
        · trivial
        · exact hanswered
    · exact ih (h.step command) hresult

/-- No command of any run faults, and every cart that is live after the run is
well-formed: its ids differ, its prices and its tender are not negative, its quantities
are positive and within the ceiling, and its totals are in range. -/
theorem run_answers_every_command (config : Config) (generation : UInt32)
    (commands : List Command) :
    (∀ result ∈ ((startingAt config generation).run commands).1,
      ∀ fault, result ≠ .error (.faulted fault)) ∧
    ∀ handle cart,
      ((startingAt config generation).run commands).2.carts.cart? handle = some cart →
        cart.WellFormed config.maxLineQuantity ∧
          (∀ line ∈ cart.lines, Bounded.Fits line.exactTotal) ∧
          Bounded.Fits (Cart.exactTotal cart.lines) := by
  have hstart := wellFormed_startingAt config generation
  constructor
  · intro result hresult
    exact Outcome.answered_iff.1 (hstart.run_answered commands hresult)
  · intro handle cart hcart
    have hwell := (hstart.run commands).cart handle cart hcart
    rw [hstart.config_run commands] at hwell
    exact ⟨hwell, fun line hline => hwell.line_fits hline, hwell.total_fits⟩

/-- Two gold bars and a grain of dust cost as much as a word can hold.  Another grain, more bars and
a negative tender are refused, as are a position without a line and a made-up handle, and the cart
stays in range. -/
theorem run_answers_every_command_refusals :
    let config : Config := { changePolicy := .rejectInsufficient }
    let bar : Item := ⟨"BAR", "Gold bar", ⟨4611686018427387903⟩⟩
    let dust : Item := ⟨"DUST", "Gold dust", ⟨1⟩⟩
    let table : Handle := ⟨1, 0⟩
    let commands : List Command :=
      [.loadCatalog (Catalog.textOfItems [bar, dust]), .createCart, .addItem table "BAR" 2,
        .addItem table "DUST" 1, .setTendered table 9223372036854775807, .addItem table "DUST" 1,
        .addItem table "BAR" 9223372036854775807, .setTendered table (-1), .removeLine table 7,
        .clearCart ⟨9, 9⟩, .payment table]
    let cart : Cart := ⟨[Line.ofItem bar 2, Line.ofItem dust 1], ⟨9223372036854775807⟩⟩
    ((startingAt config 1).run commands).2.carts.cart? table = some cart ∧
      ((startingAt config 1).run commands).1.drop 5 =
        [.refuse (Cart.quantityTooLarge none), .refuse (Cart.quantityTooLarge none),
          .refuse (.invalidAmount (.mustBeNonNegative "given_cents")),
          .refuse (.indexOutOfRange 7 2), .refuse (.invalidHandle ⟨9, 9⟩),
          .ok (.payment ⟨⟨9223372036854775807⟩, ⟨9223372036854775807⟩, ⟨0⟩⟩)] ∧
      Cart.WellFormed none cart ∧ Cart.exactTotal cart.lines = Bounded.greatest ∧
      Bounded.Fits (Cart.exactTotal cart.lines) ∧
      ∀ fault, Except.error (.faulted fault) ∉ ((startingAt config 1).run commands).1 := by
  intro config bar dust table commands cart
  rcases Catalog.exists_ofText_textOfItems [bar, dust] (by decide) (by decide) with
    ⟨catalog, hcatalog, _, hlookup⟩
  have hbar : catalog.lookup "BAR" = .ok bar := hlookup bar (by simp)
  have hdust : catalog.lookup "DUST" = .ok dust := hlookup dust (by simp)
  let holding (cart : Cart) : Engine := ⟨config, some catalog, ⟨#[⟨1, some cart⟩], [], 1, 1⟩⟩
  let bars : Cart := ⟨[Line.ofItem bar 2], ⟨0⟩⟩
  let both : Cart := { cart with tendered := ⟨0⟩ }
  have hbars : Cart.addItem {} bar 2 none = .ok bars := by decide +kernel
  have hboth : bars.addItem dust 1 none = .ok both := by decide +kernel
  have hgrain : cart.addItem dust 1 none = .refuse (Cart.quantityTooLarge none) := by
    decide +kernel
  have hheavy : cart.addItem bar 9223372036854775807 none =
      .refuse (Cart.quantityTooLarge none) := by
    decide +kernel
  have hlive : ∀ cart, (holding cart).carts.cart? table = some cart := fun _ => rfl
  have hload : (startingAt config 1).step (.loadCatalog (Catalog.textOfItems [bar, dust])) =
      (.ok (.count catalog.size), ⟨config, some catalog, .startingAt 1⟩) :=
    step_of_perform (perform_loadCatalog hcatalog)
  have hcreate : step ⟨config, some catalog, .startingAt 1⟩ .createCart =
      (.ok (.handle table), holding {}) := rfl
  have hadd : step (holding {}) (.addItem table "BAR" 2) = (.ok .done, holding bars) :=
    step_of_perform (perform_addItem (hlive _) hbar hbars)
  have hmore : step (holding bars) (.addItem table "DUST" 1) = (.ok .done, holding both) :=
    step_of_perform (perform_addItem (hlive _) hdust hboth)
  have htender : step (holding both) (.setTendered table 9223372036854775807) =
      (.ok .done, holding cart) := by
    have hpaid : both.setTendered 9223372036854775807 .rejectInsufficient = .ok cart := by
      decide +kernel
    simp only [step, perform, setTendered, changeCart_eq, hlive, holding, config, hpaid]
    rfl
  have hrefused : step (holding cart) (.addItem table "DUST" 1) =
      (.refuse (Cart.quantityTooLarge none), holding cart) :=
    step_eq_self_of_error (perform_addItem_eq_error (hlive _) hdust hgrain)
  have hrefused' : step (holding cart) (.addItem table "BAR" 9223372036854775807) =
      (.refuse (Cart.quantityTooLarge none), holding cart) :=
    step_eq_self_of_error (perform_addItem_eq_error (hlive _) hbar hheavy)
  have hnegative : step (holding cart) (.setTendered table (-1)) =
      (.refuse (.invalidAmount (.mustBeNonNegative "given_cents")), holding cart) := rfl
  have hmissing : step (holding cart) (.removeLine table 7) =
      (.refuse (.indexOutOfRange 7 2), holding cart) := rfl
  have hunknown : step (holding cart) (.clearCart ⟨9, 9⟩) =
      (.refuse (.invalidHandle ⟨9, 9⟩), holding cart) := rfl
  have hpayment : step (holding cart) (.payment table) =
      (.ok (.payment ⟨⟨9223372036854775807⟩, ⟨9223372036854775807⟩, ⟨0⟩⟩), holding cart) := by
    have hfigures : cart.payment .rejectInsufficient =
        .ok ⟨⟨9223372036854775807⟩, ⟨9223372036854775807⟩, ⟨0⟩⟩ := by
      decide +kernel
    simp only [step, perform, payment, Registry.get_eq_ok_iff.2 (hlive cart), ok_bind]
    simp only [holding, config, hfigures]
    rfl
  have hrun : (startingAt config 1).run commands =
      (.ok (.count catalog.size) :: .ok (.handle table) :: .ok .done :: .ok .done :: .ok .done ::
        [.refuse (Cart.quantityTooLarge none), .refuse (Cart.quantityTooLarge none),
          .refuse (.invalidAmount (.mustBeNonNegative "given_cents")),
          .refuse (.indexOutOfRange 7 2), .refuse (.invalidHandle ⟨9, 9⟩),
          .ok (.payment ⟨⟨9223372036854775807⟩, ⟨9223372036854775807⟩, ⟨0⟩⟩)], holding cart) := by
    change run _ (_ :: _) = _
    rw [run_cons, hload, run_cons, hcreate, run_cons, hadd, run_cons, hmore, run_cons, htender,
      run_cons, hrefused, run_cons, hrefused', run_cons, hnegative, run_cons, hmissing,
      run_cons, hunknown, run_cons, hpayment, run]
  have hcart : ((startingAt config 1).run commands).2.carts.cart? table = some cart := by
    rw [hrun]
    rfl
  rcases run_answers_every_command config 1 commands with ⟨hanswers, hcarts⟩
  rcases hcarts table cart hcart with ⟨hwell, _, hfits⟩
  refine ⟨hcart, by rw [hrun]; rfl, hwell, by decide +kernel, hfits, ?_⟩
  intro fault hfault
  exact hanswers _ hfault fault rfl

end Engine
end Till
