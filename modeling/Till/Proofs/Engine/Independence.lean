import Till.Proofs.Engine.Live

/-!
# Carts do not interfere

What a client sees of a cart depends on the catalogs that are loaded and on the
commands that name this cart.  Other clients may open and give up carts in between, so
that slots are used again in other generations, and may try handles that are stale or
made up: none of this shows.

The argument compares two engines through what one handle shows of them, its view.  A
command that does not concern the handle leaves the view alone; one that does has the
same result, and leaves the same view, on engines of the same view.  A handle that is
live, or was, never becomes the handle of another cart.

Main results:

- Theorem {lit}`Engine.step_eq_of_view_eq`: a command that concerns a handle cannot tell
  engines of one view apart.
- Theorem {lit}`Engine.view_step_of_not_concerns`: no other command is seen.
- Theorem {lit}`Engine.run_independent`: two runs that agree on the commands that concern a
  live cart agree on their results and on the cart.
-/

namespace Till

namespace Command

/-- The command names this handle. -/
def names (handle : Handle) (command : Command) : Bool :=
  match command.request? with
  | some (named, _) => decide (named = handle)
  | none => false

/-- The command names this handle or puts a catalog into force. -/
def concerns (handle : Handle) : Command → Bool
  | loadCatalog _ => true
  | command => command.names handle

/-- A command that names a handle has a request for it. -/
theorem names_iff {handle : Handle} {command : Command} :
    command.names handle = true ↔ ∃ request, command.request? = some (handle, request) := by
  unfold names
  cases command.request? with
  | none => simp
  | some named =>
    rcases named with ⟨named, request⟩
    simp [eq_comm]

/-- A command that concerns a handle puts a catalog into force or has a request for the
handle. -/
theorem concerns_iff {handle : Handle} {command : Command} :
    command.concerns handle = true ↔
      (∃ text, command = loadCatalog text) ∨
        ∃ request, command.request? = some (handle, request) := by
  rw [← names_iff]
  cases command <;> simp [concerns, names, request?]

end Command

namespace Engine

variable {engine after first second : Engine} {command : Command} {answer : Answer}
  {handle : Handle}

/-! ## Settled handles -/

/-- The handle is not to be given out any more in a well-formed engine. -/
structure Settled (handle : Handle) (engine : Engine) : Prop where
  wellFormed : engine.WellFormed
  not_issuable : ¬ engine.carts.Issuable handle

/-- The handle of a live cart is settled. -/
theorem WellFormed.settled (h : engine.WellFormed) {cart : Cart}
    (hcart : engine.carts.cart? handle = some cart) : engine.Settled handle :=
  ⟨h, h.carts.not_issuable_of_occupied hcart⟩

/-- A handle stays settled. -/
theorem Settled.step (h : engine.Settled handle) (command : Command) :
    (engine.step command).2.Settled handle := by
  refine ⟨h.wellFormed.step command, ?_⟩
  rcases step_cases engine command with
    ⟨answer, after, hperform, hstep⟩ | ⟨failure, _, hstep⟩
  · rw [hstep]
    intro hissuable
    have hperformed := (perform_eq_ok_iff h.wellFormed.carts).1 hperform
    exact h.not_issuable (hperformed.issuable h.wellFormed.carts hissuable)
  · rw [hstep]
    exact h.not_issuable

/-! ## The view of a handle -/

/-- What a handle shows of an engine. -/
def view (engine : Engine) (handle : Handle) : Config × Option Catalog × Option Cart :=
  (engine.config, engine.catalog, engine.carts.cart? handle)

/-- A command that does not concern a settled handle leaves its view alone. -/
theorem view_step_of_not_concerns (h : engine.Settled handle)
    (hconcerns : command.concerns handle = false) (hreset : command ≠ .reset) :
    (engine.step command).2.view handle = engine.view handle := by
  rcases step_cases engine command with
    ⟨answer, after, hperform, hstep⟩ | ⟨failure, _, hstep⟩
  · rw [hstep]
    have hcarts := h.wellFormed.carts
    cases (perform_eq_ok_iff hcarts).1 hperform with
    | load _ => simp [Command.concerns] at hconcerns
    | text => rfl
    | @create created carts hcreate =>
      have hne : handle ≠ created := by
        intro heq
        rw [heq] at h
        exact h.not_issuable (hcarts.issuable_of_create hcreate)
      simp only [view, hcarts.cart?_create hcreate, if_neg hne]
    | @request _ named request cart _ content hrequest hcart _ =>
      have hne : handle ≠ named := by
        intro heq
        rw [← heq] at hrequest
        rw [Command.concerns_iff.2 (Or.inr ⟨request, hrequest⟩)] at hconcerns
        cases hconcerns
      simp only [view, Registry.cart?_settle hcart, if_neg hne]
    | reset _ => exact absurd rfl hreset
  · rw [hstep]

/-- A command that concerns a handle cannot tell engines of one view apart. -/
theorem step_eq_of_view_eq (hfirst : first.WellFormed) (hsecond : second.WellFormed)
    (hview : first.view handle = second.view handle)
    (hconcerns : command.concerns handle = true) :
    (first.step command).1 = (second.step command).1 ∧
      (first.step command).2.view handle = (second.step command).2.view handle := by
  simp only [view, Prod.mk.injEq] at hview
  rcases hview with ⟨hconfig, hcatalog, hcart⟩
  rcases Command.concerns_iff.1 hconcerns with ⟨text, rfl⟩ | ⟨request, hrequest⟩
  · simp only [step, perform, loadCatalog]
    cases Catalog.ofText text with
    | error cause =>
      simp only [Outcome.refuse, error_bind, view, hconfig, hcatalog, hcart, and_self]
    | ok catalog =>
      simp only [ok_bind, pure, Except.pure, view, hconfig, hcart, and_self]
  · have hlookup : first.lookup = second.lookup := by
      funext id
      simp only [lookup, hcatalog]
    simp only [step, perform_eq_of_request? hfirst.carts hrequest,
      perform_eq_of_request? hsecond.carts hrequest, hconfig, hlookup, hcart]
    cases hcart' : second.carts.cart? handle with
    | none =>
      simp only [Outcome.refuse, view, hconfig, hcatalog, hcart, hcart', and_self]
    | some cart =>
      dsimp only
      cases request.perform second.config second.lookup cart with
      | error failure =>
        simp only [error_bind, view, hconfig, hcatalog, hcart, hcart', and_self]
      | ok result =>
        rw [hcart'] at hcart
        simp only [ok_bind, pure, Except.pure, view, hcatalog,
          Registry.cart?_settle hcart, Registry.cart?_settle hcart', if_true, and_self]

/-! ## Runs -/

/-- The commands of a run that concern a handle, with their results. -/
def concerning (engine : Engine) (handle : Handle) (commands : List Command) :
    List (Command × Outcome Answer) :=
  (engine.history commands).filter fun event => event.1.concerns handle

/-- The commands that concern a handle have the results, and leave the view, that they
would have had alone. -/
theorem concerning_eq_alone (hfirst : first.Settled handle) (hsecond : second.Settled handle)
    (hview : first.view handle = second.view handle) {commands : List Command}
    (hreset : .reset ∉ commands) :
    first.concerning handle commands =
        second.history (commands.filter (Command.concerns handle)) ∧
      (first.run commands).2.view handle =
        (second.run (commands.filter (Command.concerns handle))).2.view handle := by
  induction commands generalizing first second with
  | nil => exact ⟨rfl, hview⟩
  | cons command rest ih =>
    rw [List.mem_cons, not_or] at hreset
    have hhistory : ∀ engine : Engine, engine.history (command :: rest) =
        (command, (engine.step command).1) :: (engine.step command).2.history rest :=
      fun _ => rfl
    cases hconcerns : command.concerns handle with
    | true =>
      rcases step_eq_of_view_eq hfirst.wellFormed hsecond.wellFormed hview hconcerns with
        ⟨hresult, hview'⟩
      rcases ih (hfirst.step command) (hsecond.step command) hview' hreset.2 with
        ⟨hrest, hlast⟩
      unfold concerning at hrest ⊢
      rw [List.filter_cons_of_pos hconcerns, hhistory, List.filter_cons, if_pos hconcerns,
        hrest, hresult]
      exact ⟨rfl, hlast⟩
    | false =>
      have hview' := view_step_of_not_concerns hfirst hconcerns (Ne.symm hreset.1)
      rcases ih (hfirst.step command) hsecond (hview'.trans hview) hreset.2 with
        ⟨hrest, hlast⟩
      have hnot : ¬ command.concerns handle = true := by simp [hconcerns]
      unfold concerning at hrest ⊢
      rw [List.filter_cons_of_neg hnot, hhistory, List.filter_cons, if_neg hnot, hrest]
      exact ⟨rfl, hlast⟩

/-- A command that names a cart puts no catalog into force. -/
theorem concerns_eq_names {commands : List Command} {other : Handle}
    (h : ∀ command ∈ commands, command.names handle = true ∨ command.names other = true)
    (shown : Handle) :
    commands.filter (Command.concerns shown) = commands.filter (Command.names shown) := by
  apply List.filter_congr
  intro command hcommand
  cases command with
  | loadCatalog text =>
    rcases h _ hcommand with hname | hname
    · cases hname
    · cases hname
  | _ => rfl

/-- Two runs that agree on the commands that concern a live cart agree on the results of
these commands and on the cart.  So clients that each name a cart of their own see what
they would have seen alone. -/
theorem run_independent (h : engine.Reachable) (hlive : engine.carts.cart? handle ≠ none) :
    (∀ first second : List Command, .reset ∉ first → .reset ∉ second →
      first.filter (Command.concerns handle) = second.filter (Command.concerns handle) →
        engine.concerning handle first = engine.concerning handle second ∧
          (engine.run first).2.carts.cart? handle =
            (engine.run second).2.carts.cart? handle) ∧
    ∀ other, engine.carts.cart? other ≠ none → ∀ commands : List Command,
      (∀ command ∈ commands, command.names handle = true ∨ command.names other = true) →
        engine.concerning handle commands =
            engine.history (commands.filter (Command.names handle)) ∧
          engine.concerning other commands =
            engine.history (commands.filter (Command.names other)) := by
  have hsettled : ∀ shown, engine.carts.cart? shown ≠ none → engine.Settled shown := by
    intro shown hshown
    rcases Option.ne_none_iff_exists'.1 hshown with ⟨cart, hcart⟩
    exact h.wellFormed.settled hcart
  constructor
  · intro first second hfirst hsecond hsame
    have halone := hsettled handle hlive
    rcases concerning_eq_alone halone halone rfl hfirst with ⟨hresults, hview⟩
    rcases concerning_eq_alone halone halone rfl hsecond with ⟨hresults', hview'⟩
    rw [hsame] at hresults hview
    refine ⟨hresults.trans hresults'.symm, ?_⟩
    have hboth := hview.trans hview'.symm
    simp only [view, Prod.mk.injEq] at hboth
    exact hboth.2.2
  · intro other hother commands hnames
    have hreset : .reset ∉ commands := by
      intro hmem
      rcases hnames _ hmem with hname | hname
      · cases hname
      · cases hname
    rw [← concerns_eq_names hnames handle, ← concerns_eq_names hnames other]
    have halone := hsettled handle hlive
    have halone' := hsettled other hother
    exact ⟨(concerning_eq_alone halone halone rfl hreset).1,
      (concerning_eq_alone halone' halone' rfl hreset).1⟩

/-- A client of the second of two carts does not see that the slot of the first one is
used again, nor that its own slot is once it has given up its cart. -/
theorem run_independent_slots_used_again :
    let engine := ((startingAt {} 1).run [.createCart, .createCart]).2
    let catalog := Catalog.textOfItems [⟨"TEA", "Tea", ⟨400⟩⟩]
    engine.carts.cart? ⟨1, 1⟩ ≠ none ∧
      engine.concerning ⟨1, 1⟩
          [.loadCatalog catalog, .releaseCart ⟨1, 0⟩, .createCart, .addItem ⟨1, 1⟩ "TEA" 2,
            .addItem ⟨2, 0⟩ "TEA" 9, .releaseCart ⟨1, 1⟩, .createCart, .payment ⟨1, 1⟩] =
        engine.concerning ⟨1, 1⟩
          [.loadCatalog catalog, .addItem ⟨1, 1⟩ "TEA" 2, .releaseCart ⟨1, 1⟩,
            .payment ⟨1, 1⟩] := by
  intro engine catalog
  have hreach : engine.Reachable := ⟨{}, 1, [.createCart, .createCart], rfl⟩
  have hlive : engine.carts.cart? ⟨1, 1⟩ ≠ none := by decide
  refine ⟨hlive, ((run_independent hreach hlive).1 _ _ (by simp) (by simp) ?_).1⟩
  decide

end Engine
end Till
