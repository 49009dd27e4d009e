import Till.Proofs.Engine.Independence

/-!
# Successors

The successor of an engine has its configuration, no catalog and no carts, and its handles start
above all generations that the engine came to.  So no handle under which the engine has ever held a
cart is live in the successor, whatever it is asked to do.

Main results:

- Theorem {lit}`Engine.Settled.cart?_run_eq_none`: a handle that is used up stays dead.
- Theorem {lit}`Engine.WellFormed.cart?_run_successor`: no handle of an engine is live in its
  successor.
-/

namespace Till
namespace Engine

variable {engine next : Engine} {handle : Handle} {floor : UInt32}

/-! ## Handles that are used up -/

/-- No command makes a handle live that is used up and not live. -/
theorem Settled.cart?_step_eq_none (h : engine.Settled handle)
    (hdead : engine.carts.cart? handle = none) (command : Command) :
    (engine.step command).2.carts.cart? handle = none := by
  rcases step_cases engine command with
    ⟨answer, after, hperform, hstep⟩ | ⟨failure, _, hstep⟩
  · rw [hstep]
    have hcarts := h.wellFormed.carts
    have hperformed := (perform_eq_ok_iff hcarts).1 hperform
    by_contra hlive
    rcases (hperformed.live_iff hcarts handle).1 hlive with ⟨rfl, rfl⟩ | ⟨hbefore, _⟩
    · cases hperformed with
      | create hcreate => exact h.not_issuable (hcarts.issuable_of_create hcreate)
      | request hrequest _ _ => cases hrequest
    · exact hbefore hdead
  · rw [hstep]
    exact hdead

/-- A handle that is used up and not live is not live after any commands. -/
theorem Settled.cart?_run_eq_none (h : engine.Settled handle)
    (hdead : engine.carts.cart? handle = none) (commands : List Command) :
    (engine.run commands).2.carts.cart? handle = none := by
  induction commands generalizing engine with
  | nil => exact hdead
  | cons command rest ih =>
    rw [run_cons]
    exact ih (h.step command) (h.cart?_step_eq_none hdead command)

/-- A handle stays used up. -/
theorem Settled.run (h : engine.Settled handle) (commands : List Command) :
    (engine.run commands).2.Settled handle := by
  induction commands generalizing engine with
  | nil => exact h
  | cons command rest ih =>
    rw [run_cons]
    exact ih (h.step command)

/-! ## Successors -/

/-- The successor of an engine starts under its configuration, at the next floor. -/
theorem successor?_eq_some_iff :
    engine.successor? = some (floor, next) ↔
      engine.nextFloor = some floor ∧ next = startingAt engine.config floor := by
  rw [successor?, Option.map_eq_some_iff]
  constructor
  · rintro ⟨_, hfloor, heq⟩
    cases heq
    exact ⟨hfloor, rfl⟩
  · rintro ⟨hfloor, rfl⟩
    exact ⟨floor, hfloor, rfl⟩

/-- What is used up in an engine is used up in its successor. -/
theorem Settled.successor (h : engine.Settled handle)
    (hnext : engine.successor? = some (floor, next)) : next.Settled handle := by
  rcases successor?_eq_some_iff.1 hnext with ⟨hfloor, rfl⟩
  refine ⟨wellFormed_startingAt engine.config floor, ?_⟩
  intro hissuable
  exact h.not_issuable (Registry.issuable_of_nextFloor hfloor hissuable)

/-- No handle under which an engine has ever held a cart is live in its successor. -/
theorem WellFormed.cart?_run_successor (h : engine.WellFormed)
    (hlive : engine.carts.cart? handle ≠ none) (commands : List Command)
    (hnext : (engine.run commands).2.successor? = some (floor, next)) (later : List Command) :
    (next.run later).2.carts.cart? handle = none := by
  rcases Option.ne_none_iff_exists'.1 hlive with ⟨cart, hcart⟩
  have hsettled := ((h.settled hcart).run commands).successor hnext
  apply hsettled.cart?_run_eq_none
  rcases successor?_eq_some_iff.1 hnext with ⟨_, rfl⟩
  exact cart?_startingAt floor handle

end Engine
end Till
