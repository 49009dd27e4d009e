import Till.Proofs.Registry.WellFormed

/-!
# Runs of a registry

A registry is asked to create and release carts, and to look at or change the cart under
some handle, where every handle may be tried.  What fails leaves it as it is.  Over all runs
the slots, the free list and the count represent the carts: each vacant slot is either to be
used again or retired for good, and the count is what was created less what was released.

Main results:

- Theorem {lit}`Registry.WellFormed.step_performed`: all that an operation can do.
- Theorem {lit}`Registry.Retired.performed`: a retired slot stays as it is.
- Theorem {lit}`Registry.WellFormed.live_performed`: the count follows the tally of the
  carts.
- Theorem {lit}`Registry.run_represents`: what holds of a registry after every run.
-/

namespace Till
namespace Registry

/-! ## Operations -/

/-- What a registry can be asked to do. -/
inductive Operation where
  | create
  | release (handle : Handle)
  | releaseAll
  | get (handle : Handle)
  /-- The cart under a handle becomes what a function makes of it. -/
  | change (handle : Handle) (content : Cart → Cart)

/-- What a registry answers. -/
inductive Answer where
  | done
  | handle (handle : Handle)
  | cart (cart : Cart)
  deriving DecidableEq, Repr

/-- The answer to an operation and the registry after it. -/
def perform (registry : Registry) : Operation → Outcome (Answer × Registry)
  | .create => do
    let (handle, after) ← registry.create
    return (.handle handle, after)
  | .release handle => do
    let (cart, after) ← registry.release handle
    return (.cart cart, after)
  | .releaseAll => return (.done, ← Outcome.ofFaulting registry.releaseAll)
  | .get handle => return (.cart (← registry.get handle), registry)
  | .change handle content => do
    let ((), after) ← registry.update handle fun cart => .ok ((), content cart)
    return (.done, after)

/-- What comes of an operation, and the registry after it. -/
def step (registry : Registry) (operation : Operation) : Outcome Answer × Registry :=
  match registry.perform operation with
  | .ok (answer, after) => (.ok answer, after)
  | .error failure => (.error failure, registry)

/-- What comes of some operations in order, and the registry after them. -/
def run (registry : Registry) : List Operation → List (Outcome Answer) × Registry
  | [] => ([], registry)
  | operation :: rest =>
    let (result, after) := registry.step operation
    let (results, last) := after.run rest
    (result :: results, last)

/-- All that an operation can do to a registry, with what comes of it. -/
inductive Performed (registry : Registry) : Operation → Outcome Answer → Registry → Prop where
  | refused {operation : Operation} (cause : Refusal) :
      Performed registry operation (.error (.refused cause)) registry
  | created {handle : Handle} {after : Registry}
      (hcreate : registry.create = .ok (handle, after)) :
      Performed registry .create (.ok (.handle handle)) after
  | released {handle : Handle} {cart : Cart} (hcart : registry.cart? handle = some cart) :
      Performed registry (.release handle) (.ok (.cart cart))
        (registry.withVacated handle.slot.toNat handle.generation)
  | allReleased {after : Registry} (hafter : registry.releaseAll = .ok after) :
      Performed registry .releaseAll (.ok .done) after
  | shown {handle : Handle} {cart : Cart} (hcart : registry.cart? handle = some cart) :
      Performed registry (.get handle) (.ok (.cart cart)) registry
  | changed {handle : Handle} {cart : Cart} (content : Cart → Cart)
      (hcart : registry.cart? handle = some cart) :
      Performed registry (.change handle content) (.ok .done)
        (registry.put handle (content cart))

variable {registry after : Registry} {operation : Operation} {result : Outcome Answer}

/-- An operation does to a well-formed registry what is listed, and nothing else. -/
theorem WellFormed.step_performed (h : registry.WellFormed) (operation : Operation) :
    registry.Performed operation (registry.step operation).1 (registry.step operation).2 := by
  cases operation with
  | create =>
    have hanswered := h.create_answered
    simp only [step, perform]
    cases hcreate : registry.create with
    | ok created => exact .created hcreate
    | error failure =>
      rcases failure with cause | fault
      · exact .refused cause
      · rw [hcreate] at hanswered
        exact hanswered.elim
  | release handle =>
    simp only [step, perform, h.release_eq]
    cases hcart : registry.cart? handle with
    | none => exact .refused _
    | some cart => exact .released hcart
  | releaseAll =>
    simp only [step, perform, h.releaseAll_eq]
    exact .allReleased h.releaseAll_eq
  | get handle =>
    simp only [step, perform, get]
    cases hcart : registry.cart? handle with
    | none => exact .refused _
    | some cart => exact .shown hcart
  | change handle content =>
    simp only [step, perform, update, get]
    cases hcart : registry.cart? handle with
    | none => exact .refused _
    | some cart => exact .changed content hcart

/-! ## One operation -/

/-- A registry in which all slots have been vacated is well-formed and holds no cart. -/
theorem WellFormed.releaseAll (h : registry.WellFormed)
    (hafter : registry.releaseAll = .ok after) : after.WellFormed ∧ after.live = 0 := by
  have hwell : after.WellFormed := by
    rw [h.releaseAll_eq, Except.ok.injEq] at hafter
    rw [← hafter]
    exact (h.foldl_vacated_induction (motive := fun _ => True) trivial
      (fun _ _ _ _ _ _ _ => trivial) _).1
  refine ⟨hwell, ?_⟩
  rw [hwell.live_eq, occupied, Array.countP_eq_zero]
  intro slot hmem hcart
  rcases Array.mem_iff_getElem?.1 hmem with ⟨index, hslot⟩
  have hindex := Handle.toNat_ofNat_slot (hwell.lt_halfSize hslot)
  have hnone := h.cart?_releaseAll hafter ⟨slot.generation, UInt32.ofNat index⟩
  unfold cart? at hnone
  rw [hindex, slot?, hslot] at hnone
  simp only [if_true] at hnone
  rw [hnone] at hcart
  cases hcart

/-- A registry starts at the generation that is asked for, or at one where that is zero. -/
theorem firstGeneration_startingAt (generation : UInt32) :
    (startingAt generation).firstGeneration.toNat = max generation.toNat 1 := by
  by_cases h : generation = 0
  · simp [startingAt, h]
  · have hne : generation.toNat ≠ 0 := by
      intro hzero
      exact h (UInt32.toNat_inj.1 hzero)
    simp only [startingAt, h, if_false]
    omega

/-- A registry is well-formed after an operation, and new slots start as before. -/
theorem WellFormed.performed (h : registry.WellFormed)
    (hperformed : registry.Performed operation result after) :
    after.WellFormed ∧ after.firstGeneration = registry.firstGeneration := by
  cases hperformed with
  | refused cause => exact ⟨h, rfl⟩
  | created hcreate => exact ⟨h.create hcreate, h.firstGeneration_create hcreate⟩
  | released hcart =>
    exact ⟨h.withVacated (cart?_eq_some_iff.1 hcart), firstGeneration_withVacated⟩
  | allReleased hafter =>
    refine ⟨(h.releaseAll hafter).1, ?_⟩
    rw [h.releaseAll_eq, Except.ok.injEq] at hafter
    rw [← hafter]
    refine (h.foldl_vacated_induction (motive := fun after =>
      after.firstGeneration = registry.firstGeneration) rfl ?_ _).2
    intro before index generation cart _ ih _
    rw [firstGeneration_withVacated, ih]
  | shown hcart => exact ⟨h, rfl⟩
  | changed content hcart => exact ⟨h.put hcart, rfl⟩

/-! ## Retired slots -/

/-- The slot is vacant in this generation, which is the last one, and is not to be used
again. -/
structure Retired (registry : Registry) (index : Nat) (generation : UInt32) : Prop where
  slot?_eq : registry.slot? index = some ⟨generation, none⟩
  spent : generation.toNat + 1 = Handle.halfSize
  notMem_free : index ∉ registry.free

variable {index : Nat} {generation : UInt32}

/-- A retired slot stays as it is when another slot is vacated. -/
theorem Retired.withVacated (h : registry.Retired index generation) {other : Nat}
    {current : UInt32} {cart : Cart}
    (hother : registry.slot? other = some ⟨current, some cart⟩) :
    (registry.withVacated other current).Retired index generation := by
  have hne : index ≠ other := by
    intro heq
    rw [← heq, h.slot?_eq] at hother
    cases hother
  refine ⟨?_, h.spent, ?_⟩
  · rw [slot?_withVacated hother, if_neg hne]
    exact h.slot?_eq
  · rw [free_withVacated]
    split
    · exact fun hmem => h.notMem_free ((List.mem_cons.1 hmem).resolve_left hne)
    · exact h.notMem_free

/-- A retired slot stays as it is. -/
theorem Retired.performed (h : registry.Retired index generation)
    (hwell : registry.WellFormed) (hperformed : registry.Performed operation result after) :
    after.Retired index generation := by
  cases hperformed with
  | refused cause => exact h
  | @created handle _ hcreate =>
    have hslots := hwell.slot?_create hcreate index
    rcases hwell.create_eq_ok_iff.1 hcreate with
      ⟨rest, hfree, _, rfl⟩ | ⟨_, hindex, _, rfl⟩
    · have hnot := h.notMem_free
      rw [hfree, List.mem_cons, not_or] at hnot
      rw [if_neg hnot.1] at hslots
      exact ⟨hslots.trans h.slot?_eq, h.spent, hnot.2⟩
    · have hlt := lt_size_of_slot? h.slot?_eq
      rw [if_neg (by omega)] at hslots
      exact ⟨hslots.trans h.slot?_eq, h.spent, h.notMem_free⟩
  | released hcart => exact h.withVacated (cart?_eq_some_iff.1 hcart)
  | allReleased hafter =>
    rw [hwell.releaseAll_eq, Except.ok.injEq] at hafter
    rw [← hafter]
    exact (hwell.foldl_vacated_induction (motive := fun after =>
      after.Retired index generation) h (fun _ _ _ _ _ ih hslot => ih.withVacated hslot) _).2
  | shown hcart => exact h
  | @changed handle cart content hcart =>
    have hslot := cart?_eq_some_iff.1 hcart
    have hne : index ≠ handle.slot.toNat := by
      intro heq
      rw [← heq, h.slot?_eq] at hslot
      cases hslot
    refine ⟨?_, h.spent, h.notMem_free⟩
    rw [slot?_put_eq _ hcart, if_neg hne]
    exact h.slot?_eq

/-! ## Counting carts -/

/-- How many carts were created and how many of them were released. -/
structure Tally where
  created : Nat := 0
  released : Nat := 0
  deriving DecidableEq, Repr

/-- What one more operation makes of a tally.  When all carts are released, those are the
ones that were created and not released before. -/
def Tally.count (tally : Tally) : Operation × Outcome Answer → Tally
  | (.create, .ok _) => { tally with created := tally.created + 1 }
  | (.release _, .ok _) => { tally with released := tally.released + 1 }
  | (.releaseAll, .ok _) => { tally with released := tally.created }
  | _ => tally

/-- The tally of some operations with what came of them. -/
def tally (history : List (Operation × Outcome Answer)) : Tally :=
  history.foldl Tally.count {}

/-- What one more operation makes of a tally of them. -/
theorem tally_concat {history : List (Operation × Outcome Answer)}
    {turn : Operation × Outcome Answer} :
    tally (history ++ [turn]) = (tally history).count turn :=
  List.foldl_concat _ _ _ _

/-- The count of carts follows the tally. -/
theorem WellFormed.live_performed (h : registry.WellFormed)
    (hperformed : registry.Performed operation result after) {tally : Tally}
    (hlive : registry.live + tally.released = tally.created) :
    after.live + (tally.count (operation, result)).released =
      (tally.count (operation, result)).created := by
  cases hperformed with
  | refused cause => cases operation <;> exact hlive
  | created hcreate =>
    have hcount : after.live = registry.live + 1 := by
      rcases h.create_eq_ok_iff.1 hcreate with ⟨_, _, _, rfl⟩ | ⟨_, _, _, rfl⟩ <;> rfl
    simp only [Tally.count]
    omega
  | released hcart =>
    have hpos := occupied_pos (cart?_eq_some_iff.1 hcart)
    rw [← h.live_eq] at hpos
    simp only [Tally.count, live_withVacated]
    omega
  | allReleased hafter => simp [Tally.count, (h.releaseAll hafter).2]
  | shown hcart => exact hlive
  | changed content hcart => exact hlive

/-! ## Creating when slots run out -/

/-- The handle of a new cart named none before. -/
theorem WellFormed.cart?_eq_none_of_create (h : registry.WellFormed) {handle : Handle}
    (hcreate : registry.create = .ok (handle, after)) : registry.cart? handle = none := by
  apply cart?_eq_none_of_vacant
  intro slot hslot
  rw [h.vacant_of_create hcreate hslot]

/-- A cart is refused only when no slot is free and all slots that handles can name are
there, each of them occupied or in its last generation. -/
theorem WellFormed.of_create_eq_error (h : registry.WellFormed) {failure : Failure}
    (hcreate : registry.create = .error failure) :
    failure = .refused (.allocationFailure "cart handle") ∧ registry.free = [] ∧
      registry.slots.size = Handle.halfSize ∧
      ∀ index slot, registry.slot? index = some slot →
        slot.cart ≠ none ∨ slot.generation.toNat + 1 = Handle.halfSize := by
  have hfree : registry.free = [] := by
    cases hfree : registry.free with
    | nil => rfl
    | cons index rest =>
      rcases h.vacant_of_mem_free index (by simp [hfree]) with ⟨generation, hslot⟩
      simp only [Registry.create, hfree, hslot, reduceCtorEq] at hcreate
  unfold Registry.create at hcreate
  rw [hfree] at hcreate
  dsimp only at hcreate
  split at hcreate
  · cases hcreate
  · rename_i hsize
    cases hcreate
    refine ⟨rfl, hfree, Nat.le_antisymm h.size_le (Nat.le_of_not_lt hsize), ?_⟩
    rintro index ⟨generation, _ | cart⟩ hslot
    · right
      have hspent := h.mem_free_or_spent index generation hslot
      rw [hfree] at hspent
      exact hspent.resolve_left (by simp)
    · left
      simp

/-! ## Runs -/

/-- The operations of a run with what came of them, in order. -/
def history (registry : Registry) (operations : List Operation) :
    List (Operation × Outcome Answer) :=
  operations.zip (registry.run operations).1

/-- What holds of a well-formed registry and is preserved by every operation together with
what comes of it holds after every run together with its history. -/
theorem WellFormed.run_induction (h : registry.WellFormed)
    {motive : List (Operation × Outcome Answer) → Registry → Prop}
    (earlier : List (Operation × Outcome Answer)) (hstart : motive earlier registry)
    (hstep : ∀ history before operation result after, before.WellFormed →
      motive history before → before.Performed operation result after →
      motive (history ++ [(operation, result)]) after)
    (operations : List Operation) :
    (registry.run operations).2.WellFormed ∧
      motive (earlier ++ registry.history operations) (registry.run operations).2 := by
  induction operations generalizing registry earlier with
  | nil =>
    simp only [history, List.zip_nil_left, List.append_nil]
    exact ⟨h, hstart⟩
  | cons operation rest ih =>
    have hperformed := h.step_performed operation
    have hrest := ih (h.performed hperformed).1 _ (hstep _ _ _ _ _ h hstart hperformed)
    rw [List.append_assoc] at hrest
    exact hrest

/-- A slot that is retired is never used again. -/
theorem Retired.run (h : registry.Retired index generation) (hwell : registry.WellFormed)
    (operations : List Operation) :
    (registry.run operations).2.Retired index generation :=
  (hwell.run_induction (motive := fun _ after => after.Retired index generation) [] h
    (fun _ _ _ _ _ hbefore ih hperformed => ih.performed hbefore hperformed) operations).2

/-- No operation on a well-formed registry faults. -/
theorem Performed.ne_faulted (h : registry.Performed operation result after) (fault : Fault) :
    result ≠ .error (.faulted fault) := by
  cases h <;> simp

/-- After every run of a new registry nothing has faulted, new slots start as at first, and
the count agrees with the tally of the carts. -/
theorem run_account (first : UInt32) (operations : List Operation) :
    ((startingAt first).run operations).2.WellFormed ∧
      (∀ turn ∈ (startingAt first).history operations, ∀ fault,
        turn.2 ≠ .error (.faulted fault)) ∧
      ((startingAt first).run operations).2.firstGeneration =
        (startingAt first).firstGeneration ∧
      ((startingAt first).run operations).2.live +
          (tally ((startingAt first).history operations)).released =
        (tally ((startingAt first).history operations)).created := by
  refine (wellFormed_startingAt first).run_induction
    (motive := fun history after =>
      (∀ turn ∈ history, ∀ fault, turn.2 ≠ .error (.faulted fault)) ∧
        after.firstGeneration = (startingAt first).firstGeneration ∧
        after.live + (tally history).released = (tally history).created)
    [] ⟨by simp, rfl, rfl⟩ ?_ operations
  rintro history before operation result after hbefore ⟨hfaults, hfirst, hlive⟩ hperformed
  refine ⟨?_, (hbefore.performed hperformed).2.trans hfirst, ?_⟩
  · intro turn hturn
    rcases List.mem_append.1 hturn with hturn | hturn
    · exact hfaults turn hturn
    · rw [List.mem_singleton.1 hturn]
      exact hperformed.ne_faulted
  · rw [tally_concat]
    exact hbefore.live_performed hperformed hlive

/-- After every run of a new registry the free slots are vacant and listed once; a vacant
slot that is not free is in the last generation and never occupied again; the count is the
number of occupied slots, which is that of the carts created less those released; and no
slot is below the first generation.  So a new cart takes the place of none, and one is
refused only when every slot that handles can name is occupied or retired. -/
theorem run_represents (first : UInt32) (operations : List Operation) :
    let history := (startingAt first).history operations
    let registry := ((startingAt first).run operations).2
    (∀ turn ∈ history, ∀ fault, turn.2 ≠ .error (.faulted fault)) ∧
      registry.free.Nodup ∧
      (∀ index ∈ registry.free, index < registry.slots.size ∧
        ∃ generation, registry.slot? index = some ⟨generation, none⟩) ∧
      (∀ index generation, registry.slot? index = some ⟨generation, none⟩ →
        index ∈ registry.free ∨
          (generation.toNat + 1 = Handle.halfSize ∧
            ∀ later, (registry.run later).2.slot? index = some ⟨generation, none⟩)) ∧
      registry.live = registry.slots.countP (fun slot => slot.cart.isSome) ∧
      registry.live + (tally history).released = (tally history).created ∧
      (∀ index slot, registry.slot? index = some slot →
        max first.toNat 1 ≤ slot.generation.toNat) ∧
      (∀ handle after, registry.create = .ok (handle, after) →
        (∀ slot, registry.slot? handle.slot.toNat = some slot → slot.cart = none) ∧
          ∀ other, registry.cart? other ≠ none → after.cart? other = registry.cart? other) ∧
      (∀ failure, registry.create = .error failure →
        registry.free = [] ∧ registry.slots.size = Handle.halfSize ∧
          ∀ index slot, registry.slot? index = some slot →
            slot.cart ≠ none ∨ slot.generation.toNat + 1 = Handle.halfSize) := by
  intro history registry
  rcases run_account first operations with ⟨hwell, hfaults, hfirst, hlive⟩
  refine ⟨hfaults, hwell.free_nodup, ?_, ?_, hwell.live_eq, hlive, ?_, ?_, ?_⟩
  · intro index hindex
    rcases hwell.vacant_of_mem_free index hindex with ⟨generation, hslot⟩
    exact ⟨lt_size_of_slot? hslot, generation, hslot⟩
  · intro index generation hslot
    by_cases hfree : index ∈ registry.free
    · exact Or.inl hfree
    · have hspent := (hwell.mem_free_or_spent index generation hslot).resolve_left hfree
      have hretired : registry.Retired index generation := ⟨hslot, hspent, hfree⟩
      exact Or.inr ⟨hspent, fun later => (hretired.run hwell later).slot?_eq⟩
  · intro index slot hslot
    have hle := hwell.first_le index slot hslot
    rw [hfirst, firstGeneration_startingAt] at hle
    exact hle
  · intro handle after hcreate
    refine ⟨fun slot hslot => by rw [hwell.vacant_of_create hcreate hslot], ?_⟩
    intro other hother
    rw [hwell.cart?_create hcreate, if_neg]
    intro heq
    exact hother (heq ▸ hwell.cart?_eq_none_of_create hcreate)
  · intro failure hcreate
    rcases hwell.of_create_eq_error hcreate with ⟨_, hfree, hsize, hslots⟩
    exact ⟨hfree, hsize, hslots⟩

/-- A slot that is released in the last generation is retired, whatever is asked later; the
next carts go into new slots. -/
theorem run_represents_slot_retired :
    let operations : List Operation :=
      [.create, .release ⟨4294967295, 0⟩, .create, .get ⟨4294967295, 0⟩, .releaseAll,
        .create]
    let registry := ((startingAt 4294967295).run operations).2
    registry.slot? 0 = some ⟨4294967295, none⟩ ∧ 0 ∉ registry.free ∧
      (∀ later, (registry.run later).2.slot? 0 = some ⟨4294967295, none⟩) ∧
      tally ((startingAt 4294967295).history operations) = ⟨3, 2⟩ ∧ registry.live = 1 := by
  intro operations registry
  have hslot : registry.slot? 0 = some ⟨4294967295, none⟩ := by decide
  have hfree : 0 ∉ registry.free := by decide
  have htally : tally ((startingAt 4294967295).history operations) = ⟨3, 2⟩ := by decide
  rcases run_represents 4294967295 operations with
    ⟨_, _, _, hvacant, _, hlive, _⟩
  rw [htally] at hlive
  have hcount : registry.live + 2 = 3 := hlive
  exact ⟨hslot, hfree, ((hvacant 0 4294967295 hslot).resolve_left hfree).2, htally, by omega⟩

end Registry
end Till
