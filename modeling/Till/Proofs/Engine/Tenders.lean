import Till.Proofs.Engine.Entries

/-!
# Tenders that suffice

Where a tender that is smaller than the total is refused, a tender covers the total at the
moment when it is made.  The total may go beyond it later, but only by what is added to the
cart: no line has a negative total, so that lines that leave the cart lower it, and nothing
else touches the lines.  A new cart is covered as well, by a tender of nothing.

Main results:

- Theorem {lit}`Cart.Covered.entered`: a cart stays covered, or something was added to it.
- Theorem {lit}`Engine.WellFormed.step_setTendered`: which tenders are refused, and with which
  least amount.
- Theorem {lit}`Engine.run_tenders_suffice`: the change that is reported after a run, and the
  tenders that are accepted then.
-/

namespace Till

/-! ## Since the last tender -/

namespace Entry

/-- The entry opens the cart or tenders an amount for it. -/
def settles : Entry → Bool
  | opened => true
  | tendered _ => true
  | _ => false

/-- The entry adds a quantity of some item. -/
def adds : Entry → Bool
  | added _ _ => true
  | _ => false

end Entry

namespace Event

/-- The event opens the cart under a handle or tenders an amount for it. -/
def settles (handle : Handle) (event : Event) : Bool :=
  (event.entry? handle).any Entry.settles

/-- The event adds a quantity of some item to the cart under a handle. -/
def adds (handle : Handle) (event : Event) : Bool :=
  (event.entry? handle).any Entry.adds

end Event

namespace Ledger

/-- Nothing was added to a cart since it was opened or an amount was last tendered for it. -/
def NothingAdded (handle : Handle) (history : List Event) : Prop :=
  ∀ event ∈ history.rtakeWhile fun event => !event.settles handle,
    event.adds handle = false

variable {handle : Handle} {history : List Event} {event : Event}

/-- What one more event means for what was added since the last tender. -/
theorem nothingAdded_concat :
    NothingAdded handle (history ++ [event]) ↔
      event.settles handle = true ∨
        (NothingAdded handle history ∧ event.adds handle = false) := by
  unfold NothingAdded
  rw [List.rtakeWhile_concat]
  cases event.settles handle with
  | true => simp
  | false => simp [or_imp, forall_and]

end Ledger

open Ledger

variable {handle : Handle} {history : List Event} {event : Event} {cart after : Cart}

/-! ## Covered carts -/

/-- Where nothing was added since the last tender, the tender of a cart covers its total. -/
def Cart.Covered (handle : Handle) (history : List Event) (cart : Cart) : Prop :=
  NothingAdded handle history → exactTotal cart.lines ≤ cart.tendered.value

namespace Cart

/-- A new cart is covered by a tender of nothing. -/
theorem covered_new : Covered handle history {} := by
  intro _
  exact le_refl 0

/-- A covered cart of which some lines leave stays covered when it is not settled anew. -/
theorem Covered.of_sublist (h : cart.Covered handle history) {ceiling : Option Int64}
    (hwell : cart.WellFormed ceiling) (hsettles : event.settles handle = false)
    {lines : List Line} (hlines : lines.Sublist cart.lines) :
    Covered handle (history ++ [event]) { cart with lines } := by
  intro hnothing
  rw [nothingAdded_concat, hsettles] at hnothing
  have hcovered := h (hnothing.resolve_left Bool.false_ne_true).1
  exact (exactTotal_le_of_sublist hwell.allowed hlines).trans hcovered

/-- An entry leaves a cart covered unless it adds to the cart, when tenders have to suffice. -/
theorem Covered.entered (h : cart.Covered handle history) {config : Config}
    {lookup : String → Outcome Item} (hwell : cart.WellFormed config.maxLineQuantity)
    (hpolicy : config.changePolicy = .rejectInsufficient)
    (hentered : cart.Entered config lookup (event.entry? handle) after) :
    after.Covered handle (history ++ [event]) := by
  generalize hentry : event.entry? handle = entry at hentered
  cases hentered with
  | nothing =>
    have hsettles : event.settles handle = false := by simp [Event.settles, hentry]
    exact h.of_sublist hwell hsettles (List.Sublist.refl cart.lines)
  | added hitem hadd =>
    intro hnothing
    rw [nothingAdded_concat] at hnothing
    simp [Event.settles, Event.adds, hentry, Entry.settles, Entry.adds] at hnothing
  | removed hremove =>
    have hsettles : event.settles handle = false := by
      simp [Event.settles, hentry, Entry.settles]
    rcases removeLine_eq_ok_iff.1 hremove with ⟨_, _, rfl⟩
    exact h.of_sublist hwell hsettles (List.eraseIdx_sublist _ _)
  | cleared =>
    have hsettles : event.settles handle = false := by
      simp [Event.settles, hentry, Entry.settles]
    exact h.of_sublist hwell hsettles (List.nil_sublist _)
  | tendered htender =>
    intro _
    rcases setTendered_eq_ok_iff.1 htender with ⟨_, hsuffices, rfl⟩
    rcases hsuffices hpolicy with ⟨total, htotal, hle⟩
    rcases hwell.total_eq_ok with ⟨total', htotal', hvalue⟩
    rw [htotal] at htotal'
    cases htotal'
    rw [← hvalue]
    exact hle

end Cart

/-! ## Engines whose carts are covered -/

namespace Engine

variable {engine : Engine}

/-- Tenders have to suffice, and every live cart is covered. -/
structure Covered (history : List Event) (engine : Engine) : Prop where
  wellFormed : engine.WellFormed
  policy_eq : engine.config.changePolicy = .rejectInsufficient
  cart : ∀ handle cart, engine.carts.cart? handle = some cart → cart.Covered handle history

/-- A step leaves the carts covered. -/
theorem Covered.step (h : engine.Covered history) (command : Command) :
    (engine.step command).2.Covered (history ++ [(command, (engine.step command).1)]) where
  wellFormed := h.wellFormed.step command
  policy_eq := by
    rw [config_step h.wellFormed.carts]
    exact h.policy_eq
  cart shown cart hcart := by
    rcases entered_of_step h.wellFormed.carts command hcart with
      ⟨_, rfl⟩ | ⟨before, hbefore, hentered⟩
    · exact Cart.covered_new
    · exact (h.cart shown before hbefore).entered (h.wellFormed.cart shown before hbefore)
        h.policy_eq hentered

/-- The carts are covered after a run. -/
theorem covered_run (config : Config) (generation : UInt32)
    (hpolicy : config.changePolicy = .rejectInsufficient) (commands : List Command) :
    ((startingAt config generation).run commands).2.Covered
      ((startingAt config generation).history commands) := by
  have hstart : (startingAt config generation).Covered [] := by
    refine ⟨wellFormed_startingAt config generation, hpolicy, ?_⟩
    intro shown new hnew
    rw [startingAt, cart?_startingAt] at hnew
    cases hnew
  exact run_induction (motive := fun history engine => engine.Covered history) hstart
    (fun _ _ command h => h.step command) commands

/-! ## Tenders for live carts -/

/-- A tender for a live cart is refused when it is negative or, where the policy says so, less
than the exact total; otherwise it is set. -/
theorem WellFormed.step_setTendered (h : engine.WellFormed)
    (hcart : engine.carts.cart? handle = some cart) (cents : Int64) :
    engine.step (.setTendered handle cents) =
      if cents.toInt < 0 then
        (.refuse (.invalidAmount (.mustBeNonNegative "given_cents")), engine)
      else if engine.config.changePolicy = .rejectInsufficient ∧
          cents.toInt < Cart.exactTotal cart.lines then
        (.refuse (.invalidAmount
          (.belowMinimum "given_cents" (Int64.ofInt (Cart.exactTotal cart.lines)))), engine)
      else
        (.ok .done, { engine with
          carts := engine.carts.put handle { cart with tendered := ⟨cents⟩ } }) := by
  rw [Engine.step, perform_eq_of_request? h.carts rfl, hcart]
  simp only [Request.perform]
  rw [(h.cart handle cart hcart).setTendered_eq]
  by_cases hnegative : cents.toInt < 0
  · simp only [if_pos hnegative]
    rfl
  · simp only [if_neg hnegative]
    by_cases hless : engine.config.changePolicy = .rejectInsufficient ∧
        cents.toInt < Cart.exactTotal cart.lines
    · simp only [if_pos hless]
      rfl
    · simp only [if_neg hless]
      rfl

/-- Where tenders have to suffice, exactly those that cover the exact total are set. -/
theorem WellFormed.setTendered_eq_done_iff (h : engine.WellFormed)
    (hcart : engine.carts.cart? handle = some cart)
    (hpolicy : engine.config.changePolicy = .rejectInsufficient) (cents : Int64) :
    (engine.step (.setTendered handle cents)).1 = .ok .done ↔
      Cart.exactTotal cart.lines ≤ cents.toInt := by
  have htotal := Cart.exactTotal_nonneg (h.cart handle cart hcart).allowed
  rw [h.step_setTendered hcart, hpolicy]
  by_cases hnegative : cents.toInt < 0
  · simp [hnegative, Outcome.refuse, hnegative.trans_le htotal]
  · by_cases hless : cents.toInt < Cart.exactTotal cart.lines
    · simp [hnegative, hless, Outcome.refuse]
    · simp [hnegative, hless, not_lt.1 hless]

/-- The least amount that a refusal of a tender names is the exact total. -/
theorem WellFormed.toInt_minimum (h : engine.WellFormed)
    (hcart : engine.carts.cart? handle = some cart) {cents minimum : Int64} {field : String}
    (hrefused : (engine.step (.setTendered handle cents)).1 =
      .refuse (.invalidAmount (.belowMinimum field minimum))) :
    minimum.toInt = Cart.exactTotal cart.lines := by
  have hfits := (h.cart handle cart hcart).total_fits
  rw [h.step_setTendered hcart] at hrefused
  split at hrefused
  · cases hrefused
  · split at hrefused
    · cases hrefused
      exact Bounded.toInt_ofInt hfits.1 hfits.2
    · cases hrefused

/-- A tender of the exact total is set, and nothing is given back then. -/
theorem WellFormed.run_exact_tender (h : engine.WellFormed)
    (hcart : engine.carts.cart? handle = some cart)
    (hpolicy : engine.config.changePolicy = .rejectInsufficient) {cents : Int64}
    (hcents : cents.toInt = Cart.exactTotal cart.lines) :
    ∃ settled, settled.change = .zero ∧
      (engine.run [.setTendered handle cents, .payment handle]).1 =
        [.ok .done, .ok (.payment settled)] := by
  let settledCart : Cart := { cart with tendered := ⟨cents⟩ }
  let after : Engine := { engine with carts := engine.carts.put handle settledCart }
  have hnonneg := Cart.exactTotal_nonneg (h.cart handle cart hcart).allowed
  have hset : engine.step (.setTendered handle cents) = (.ok .done, after) := by
    rw [h.step_setTendered hcart, hcents, if_neg hnonneg.not_gt, if_neg (by simp)]
  have hafter : after.WellFormed := by
    have hstep := h.step (.setTendered handle cents)
    rwa [hset] at hstep
  have hsettled : after.carts.cart? handle = some settledCart := by
    rw [Registry.cart?_put hcart, if_pos rfl]
  rcases hafter.payment_exact hsettled with ⟨settled, hpayment, _, _, hchange⟩
  refine ⟨settled, ?_, ?_⟩
  · rw [← Money.value_inj, hchange, if_neg (by simp [after, hpolicy])]
    change cents.toInt - Cart.exactTotal cart.lines = 0
    rw [hcents, Int.sub_self]
  · have hanswer : after.step (.payment handle) = (.ok (.payment settled), after) := by
      simp only [Engine.step, Engine.perform, hpayment, ok_bind]
      rfl
    rw [run_cons, run_cons, hset, hanswer]
    rfl

/-! ## Runs -/

/-- After a run the change for a live cart is the exact difference of tender and total, less
a shortfall when the policy clamps it.  Where tenders have to suffice, the change is not
negative as long as nothing was added since the last tender; the tenders that cover the exact
total are the ones that are set; and a refusal names the least of them, which leaves no
change when it is tendered next. -/
theorem run_tenders_suffice (config : Config) (generation : UInt32) (commands : List Command)
    {handle : Handle} {cart : Cart}
    (hcart : ((startingAt config generation).run commands).2.carts.cart? handle = some cart) :
    let engine := ((startingAt config generation).run commands).2
    (∃ payment, engine.payment handle = .ok payment ∧
      payment.total.value = Cart.exactTotal cart.lines ∧ payment.given = cart.tendered ∧
      payment.change.value =
        (if config.changePolicy = .clampToZero then
          max 0 (payment.given.value - payment.total.value)
        else payment.given.value - payment.total.value) ∧
      (config.changePolicy = .rejectInsufficient →
        NothingAdded handle ((startingAt config generation).history commands) →
        0 ≤ payment.change.value)) ∧
    (config.changePolicy = .rejectInsufficient → ∀ cents,
      ((engine.step (.setTendered handle cents)).1 = .ok .done ↔
        Cart.exactTotal cart.lines ≤ cents.toInt) ∧
      ∀ field minimum,
        (engine.step (.setTendered handle cents)).1 =
            .refuse (.invalidAmount (.belowMinimum field minimum)) →
          (∀ other, (engine.step (.setTendered handle other)).1 = .ok .done →
            minimum.toInt ≤ other.toInt) ∧
          ∃ settled, settled.change = .zero ∧
            (engine.run [.setTendered handle cents, .setTendered handle minimum,
                .payment handle]).1 =
              [.refuse (.invalidAmount (.belowMinimum field minimum)), .ok .done,
                .ok (.payment settled)]) := by
  intro engine
  have hwell : engine.WellFormed := (wellFormed_startingAt config generation).run commands
  have hconfig : engine.config = config :=
    (wellFormed_startingAt config generation).config_run commands
  constructor
  · rcases hwell.payment_exact hcart with ⟨payment, hpayment, htotal, hgiven, hchange⟩
    rw [hconfig, ← htotal, ← hgiven] at hchange
    refine ⟨payment, hpayment, htotal, hgiven, hchange, ?_⟩
    intro hpolicy hnothing
    have hcovered := (covered_run config generation hpolicy commands).cart handle cart hcart
      hnothing
    rw [← htotal, ← hgiven] at hcovered
    rw [hchange, if_neg (by simp [hpolicy])]
    exact Int.sub_nonneg_of_le hcovered
  · intro hpolicy cents
    rw [← hconfig] at hpolicy
    refine ⟨hwell.setTendered_eq_done_iff hcart hpolicy cents, ?_⟩
    intro field minimum hrefused
    have hminimum := hwell.toInt_minimum hcart hrefused
    have hsame : (engine.step (.setTendered handle cents)).2 = engine := by
      rcases step_cases engine (.setTendered handle cents) with
        ⟨answer, after, _, hstep⟩ | ⟨failure, _, hstep⟩
      · rw [hstep] at hrefused
        cases hrefused
      · rw [hstep]
    constructor
    · intro other hother
      rw [hminimum]
      exact (hwell.setTendered_eq_done_iff hcart hpolicy other).1 hother
    · rcases hwell.run_exact_tender hcart hpolicy hminimum with ⟨settled, hchange, hrun⟩
      refine ⟨settled, hchange, ?_⟩
      rw [run_cons, hrefused, hsame, hrun]

/-- A tender of two teas less a cent names the least tender; when that is made and a tea is
taken back, the change is the price of a tea. -/
theorem run_tenders_suffice_line_removed :
    let config : Config := { changePolicy := .rejectInsufficient }
    let items : List Item := [⟨"TEA", "Tea", ⟨400⟩⟩, ⟨"BUN", "Bun", ⟨250⟩⟩]
    let table : Handle := ⟨1, 0⟩
    let commands : List Command :=
      [.loadCatalog (Catalog.textOfItems items), .createCart, .addItem table "TEA" 2,
        .addItem table "BUN" 1, .setTendered table 1050, .removeLine table 1]
    let engine := ((startingAt config 1).run commands).2
    let history := (startingAt config 1).history commands
    engine.carts.cart? table = some ⟨[⟨"TEA", "Tea", ⟨400⟩, 2⟩], ⟨1050⟩⟩ ∧
      config.changePolicy = .rejectInsufficient ∧ NothingAdded table history ∧
      (∃ payment, engine.payment table = .ok payment ∧ payment.change.value = 250 ∧
        0 ≤ payment.change.value) ∧
      (engine.step (.setTendered table 799)).1 =
        .refuse (.invalidAmount (.belowMinimum "given_cents" 800)) ∧
      (engine.step (.setTendered table 801)).1 = .ok .done ∧
      ∃ settled, settled.change = .zero ∧
        (engine.run [.setTendered table 799, .setTendered table 800, .payment table]).1 =
          [.refuse (.invalidAmount (.belowMinimum "given_cents" 800)), .ok .done,
            .ok (.payment settled)] := by
  intro config items table commands
  rcases Catalog.exists_ofText_textOfItems items (by decide) (by decide) with
    ⟨catalog, hcatalog, _, hlookup⟩
  have htea : catalog.lookup "TEA" = .ok ⟨"TEA", "Tea", ⟨400⟩⟩ := hlookup _ List.mem_cons_self
  have hbun : catalog.lookup "BUN" = .ok ⟨"BUN", "Bun", ⟨250⟩⟩ :=
    hlookup _ (List.mem_cons_of_mem _ List.mem_cons_self)
  let holding (cart : Cart) : Engine := ⟨config, some catalog, ⟨#[⟨1, some cart⟩], [], 1, 1⟩⟩
  let two : Cart := ⟨[⟨"TEA", "Tea", ⟨400⟩, 2⟩], ⟨0⟩⟩
  let both : Cart := ⟨[⟨"TEA", "Tea", ⟨400⟩, 2⟩, ⟨"BUN", "Bun", ⟨250⟩, 1⟩], ⟨0⟩⟩
  let paid : Cart := { both with tendered := ⟨1050⟩ }
  let left : Cart := { two with tendered := ⟨1050⟩ }
  have htwo : Cart.addItem {} ⟨"TEA", "Tea", ⟨400⟩⟩ 2 none = .ok two := by decide +kernel
  have hboth : two.addItem ⟨"BUN", "Bun", ⟨250⟩⟩ 1 none = .ok both := by decide +kernel
  have hload : (startingAt config 1).step (.loadCatalog (Catalog.textOfItems items)) =
      (.ok (.count catalog.size), ⟨config, some catalog, .startingAt 1⟩) :=
    step_of_perform (perform_loadCatalog hcatalog)
  have hcreate : step ⟨config, some catalog, .startingAt 1⟩ .createCart =
      (.ok (.handle table), holding {}) := rfl
  have hadd : step (holding {}) (.addItem table "TEA" 2) = (.ok .done, holding two) :=
    step_of_perform (perform_addItem rfl htea htwo)
  have hmore : step (holding two) (.addItem table "BUN" 1) = (.ok .done, holding both) :=
    step_of_perform (perform_addItem rfl hbun hboth)
  have htender : step (holding both) (.setTendered table 1050) =
      (.ok .done, holding paid) := rfl
  have hremove : step (holding paid) (.removeLine table 1) =
      (.ok (.line ⟨"BUN", "Bun", ⟨250⟩, 1⟩), holding left) := rfl
  have hengine : ((startingAt config 1).run commands).2 = holding left := by
    simp only [commands, run_cons, hload, hcreate, hadd, hmore, htender, hremove]
    rfl
  have hcart : ((startingAt config 1).run commands).2.carts.cart? table = some left := by
    rw [hengine]
    rfl
  have hnothing : NothingAdded table ((startingAt config 1).history commands) := by
    simp only [commands, history, run_cons, hload, hcreate, hadd, hmore, htender, hremove]
    intro event hevent
    rcases List.mem_singleton.1 hevent with rfl
    rfl
  rcases run_tenders_suffice config 1 commands hcart with ⟨⟨payment, hpaid, hfigures⟩, htenders⟩
  rw [hengine] at hpaid htenders ⊢
  rcases hfigures with ⟨htotal, hgiven, hchange, hsuffices⟩
  have hrefused : (step (holding left) (.setTendered table 799)).1 =
      .refuse (.invalidAmount (.belowMinimum "given_cents" 800)) := rfl
  rcases htenders rfl 799 with ⟨_, hleast⟩
  refine ⟨rfl, rfl, hnothing, ⟨payment, hpaid, ?_, hsuffices rfl hnothing⟩, hrefused,
    (htenders rfl 801).1.2 (by decide), (hleast _ _ hrefused).2⟩
  have hpaid_total : payment.total.value = 800 := htotal.trans (by decide)
  have hpaid_given : payment.given.value = 1050 := by rw [hgiven]; decide
  rw [hchange, hpaid_total, hpaid_given]
  decide

end Engine
end Till
