import Till.Proofs.Cart.Adding

/-!
# Carts at any prices

A cart takes whatever items it is given, at negative prices too, and under another ceiling each
time.  Then a sum on the way may leave the range although the last one does not, so that it
matters in which order the totals of the lines are added up: a new total is checked from the
line that has changed, and later it is added up from the first line.

As long as no line is taken out, all sums through the lines stay in range.  The sums in front
of the line that has changed are as before; those from this line on are the ones that were
checked.  A line that is taken out may leave a cart without a total, but never one to which
nothing can be added.

Main results:

- Theorem {lit}`Cart.run_induction`: what every change that is made preserves holds after all
  of them.
- Theorem {lit}`Cart.SumsFit.addItem`: with an item added all sums are in range, and the total
  is the one that was checked.
- Theorem {lit}`Cart.run_at_any_price`: what can be done to a cart that has come about by such
  changes.
-/

namespace Till
namespace Cart

/-! ## Changes of a cart -/

/-- What can be done to a cart. -/
inductive Change where
  | add (item : Item) (amount : Int64) (ceiling : Option Int64)
  | remove (index : Int64)
  | clear
  | tender (cents : Int64) (policy : ChangePolicy)

/-- A cart after a change, or why the change is not made. -/
def perform (cart : Cart) : Change → Outcome Cart
  | .add item amount ceiling => cart.addItem item amount ceiling
  | .remove index => do
    let (_, after) ← cart.removeLine index
    return after
  | .clear => .ok cart.clear
  | .tender cents policy => cart.setTendered cents policy

/-- A cart after a change; one that is not made leaves the cart as it is. -/
def step (cart : Cart) (change : Change) : Cart :=
  match cart.perform change with
  | .ok after => after
  | .error _ => cart

/-- A cart after some changes in order. -/
def run (cart : Cart) (changes : List Change) : Cart :=
  changes.foldl step cart

variable {cart after : Cart} {change : Change}

/-- What every change that is made preserves holds after all of them. -/
theorem run_induction {motive : Cart → Prop} {changes : List Change} (hstart : motive cart)
    (hstep : ∀ before change after, motive before → change ∈ changes →
      before.perform change = .ok after → motive after) : motive (cart.run changes) := by
  induction changes generalizing cart with
  | nil => exact hstart
  | cons change rest ih =>
    have hnext : motive (cart.step change) := by
      unfold step
      cases hperform : cart.perform change with
      | error failure => exact hstart
      | ok after => exact hstep cart change after hstart List.mem_cons_self hperform
    apply ih hnext
    intro before other after hbefore hmem
    exact hstep before other after hbefore (List.mem_cons_of_mem _ hmem)

/-- A line is taken out as it leaves the cart. -/
theorem perform_remove_eq_ok_iff {index : Int64} :
    cart.perform (.remove index) = .ok after ↔
      ∃ line, cart.removeLine index = .ok (line, after) := by
  unfold perform
  rw [bind_eq_ok_iff]
  constructor
  · rintro ⟨⟨line, left⟩, hremove, hafter⟩
    cases hafter
    exact ⟨line, hremove⟩
  · rintro ⟨line, hremove⟩
    exact ⟨(line, after), hremove, rfl⟩

/-- The lines of a cart after a change: one has been added to, one has been taken out, all
have, or they are as before. -/
theorem lines_of_perform (h : cart.perform change = .ok after) :
    (∃ item amount ceiling, change = .add item amount ceiling ∧
      cart.addItem item amount ceiling = .ok after) ∨
    (∃ index, change = .remove index ∧ after.lines = cart.lines.eraseIdx index.toInt.toNat) ∨
    (change = .clear ∧ after.lines = []) ∨
    ∃ cents policy, change = .tender cents policy ∧ after.lines = cart.lines := by
  cases change with
  | add item amount ceiling => exact .inl ⟨item, amount, ceiling, rfl, h⟩
  | remove index =>
    rcases perform_remove_eq_ok_iff.1 h with ⟨line, hremove⟩
    rcases removeLine_eq_ok_iff.1 hremove with ⟨_, _, rfl⟩
    exact .inr (.inl ⟨index, rfl, rfl⟩)
  | clear =>
    cases h
    exact .inr (.inr (.inl ⟨rfl, rfl⟩))
  | tender cents policy =>
    rcases setTendered_eq_ok_iff.1 h with ⟨_, _, rfl⟩
    exact .inr (.inr (.inr ⟨cents, policy, rfl, rfl⟩))

/-! ## Lines in range -/

/-- The exact total of every line is in range. -/
def LinesFit (cart : Cart) : Prop :=
  ∀ line ∈ cart.lines, Bounded.Fits line.exactTotal

/-- The totals of the lines stay in range. -/
theorem LinesFit.perform (h : cart.LinesFit) (hperform : cart.perform change = .ok after) :
    after.LinesFit := by
  rcases lines_of_perform hperform with
    ⟨item, amount, ceiling, _, hadd⟩ | ⟨index, _, hlines⟩ | ⟨_, hlines⟩ | ⟨_, _, _, hlines⟩
  · rcases addItem_eq_ok_iff.1 hadd with ⟨_, line, _, ⟨total, htotal⟩, rfl⟩
    intro other hother
    rcases List.mem_cons.1 ((put_perm line cart.lines).mem_iff.1 hother) with rfl | hother
    · exact (totalWith?_eq_some_iff.1 htotal).1
    · exact h other (List.mem_of_mem_eraseP hother)
  · intro line hline
    rw [hlines] at hline
    exact h line (List.mem_of_mem_eraseIdx hline)
  · intro line hline
    rw [hlines] at hline
    cases hline
  · intro line hline
    rw [hlines] at hline
    exact h line hline

/-- A change that tenders nothing is made or refused where the totals of the lines are in
range. -/
theorem LinesFit.answered (h : cart.LinesFit)
    (htender : ∀ cents policy, change ≠ .tender cents policy) :
    (cart.perform change).Answered := by
  cases change with
  | add item amount ceiling => exact addItem_answered h
  | remove index => exact removeLine_answered.bind fun _ _ => trivial
  | clear => trivial
  | tender cents policy => exact absurd rfl (htender cents policy)

/-! ## Sums in range -/

/-- All sums through the lines stay in range when a line takes its place, if those are that go
from this line through the others. -/
theorem SumsFit.put {line : Line} (h : SumsFit 0 cart.lines)
    (hline : Bounded.Fits line.exactTotal)
    (hothers : SumsFit line.exactTotal (cart.otherLines line.itemId)) :
    SumsFit 0 (Cart.put line cart.lines) := by
  have hplace : ∀ front back, SumsFit 0 front → SumsFit line.exactTotal (front ++ back) →
      SumsFit 0 (front ++ line :: back) := by
    intro front back hfront hsums
    rcases sumsFit_append.1 hsums with ⟨hbefore, hbehind⟩
    rw [add_comm] at hbehind
    have hsum := hbefore.fits_total hline
    rw [add_comm] at hsum
    rw [sumsFit_append, zero_add]
    exact ⟨hfront, hline, hsum, hbehind⟩
  unfold otherLines at hothers
  cases hold : cart.line? line.itemId with
  | none =>
    have hnew := line?_eq_none_iff.1 hold
    rw [put_of_forall_ne hnew]
    rw [List.eraseP_of_forall_not (by simpa using hnew)] at hothers
    exact hplace cart.lines [] h (by rwa [List.append_nil])
  | some old =>
    rcases exists_append_of_line? hold with ⟨front, back, hlines, hid, hfront⟩
    rw [hlines] at h hothers ⊢
    rw [eraseP_append_cons hid hfront] at hothers
    rw [put_append_cons hid hfront]
    exact hplace front back (sumsFit_append.1 h).1 hothers

/-- With an item added all sums through the lines are in range, and the total is the one that
was checked before. -/
theorem SumsFit.addItem (h : SumsFit 0 cart.lines) {item : Item} {amount : Int64}
    {ceiling : Option Int64} (hadd : cart.addItem item amount ceiling = .ok after) :
    SumsFit 0 after.lines ∧ ∃ line total, cart.mergedLine item amount ceiling = .ok line ∧
      cart.totalWith? line = .ok (some total) ∧ total.value = exactTotal after.lines := by
  rcases addItem_eq_ok_iff.1 hadd with ⟨_, line, hline, ⟨total, htotal⟩, rfl⟩
  rcases totalWith?_eq_some_iff.1 htotal with ⟨hfits, hothers, hvalue⟩
  exact ⟨h.put hfits hothers, line, total, hline, htotal, hvalue⟩

/-- All sums through the lines stay in range unless a line is taken out. -/
theorem SumsFit.perform (h : SumsFit 0 cart.lines) (hremove : ∀ index, change ≠ .remove index)
    (hperform : cart.perform change = .ok after) : SumsFit 0 after.lines := by
  rcases lines_of_perform hperform with
    ⟨item, amount, ceiling, _, hadd⟩ | ⟨index, heq, _⟩ | ⟨_, hlines⟩ | ⟨_, _, _, hlines⟩
  · exact (h.addItem hadd).1
  · exact absurd heq (hremove index)
  · rw [hlines]
    trivial
  · rwa [hlines]

/-- A cart with a total takes a tender or refuses it. -/
theorem setTendered_answered {total : Money} (h : cart.total = .ok total) {cents : Int64}
    {policy : ChangePolicy} : (cart.setTendered cents policy).Answered := by
  unfold setTendered
  cases Rules.tendered cents with
  | error rule => trivial
  | ok _ =>
    cases policy with
    | report => trivial
    | clampToZero => trivial
    | rejectInsufficient =>
      simp only [h, Outcome.ofFaulting, ok_bind]
      split <;> trivial

/-! ## Runs -/

/-- A new cart may be given items at any prices, may be cleared and tendered for, in any order.
As long as no line is taken out it has a total, the exact one, no tender faults, and when an
item is added the total is the one that was checked in front of it.  Whether or not lines are
taken out, nothing but a tender can fault. -/
theorem run_at_any_price (changes : List Change) :
    let cart := run {} changes
    ((∀ index, .remove index ∉ changes) →
      (∃ total, cart.total = .ok total ∧ total.value = exactTotal cart.lines) ∧
      (∀ cents policy fault, cart.setTendered cents policy ≠ .error (.faulted fault)) ∧
      ∀ item amount ceiling after, cart.addItem item amount ceiling = .ok after →
        ∃ line total, cart.mergedLine item amount ceiling = .ok line ∧
          cart.totalWith? line = .ok (some total) ∧ after.total = .ok total ∧
          total.value = exactTotal after.lines) ∧
    ∀ change, (∀ cents policy, change ≠ .tender cents policy) →
      ∀ fault, cart.perform change ≠ .error (.faulted fault) := by
  intro cart
  constructor
  · intro hremove
    have hsums : SumsFit 0 cart.lines := by
      apply run_induction (motive := fun cart => SumsFit 0 cart.lines)
      · trivial
      · intro before change after h hmem hperform
        apply h.perform _ hperform
        rintro index rfl
        exact hremove index hmem
    have hzero : Bounded.Fits 0 := Bounded.fits_of_nonneg (le_refl 0) (by decide)
    obtain ⟨total, hvalue⟩ := Money.exists_value (hsums.fits_total hzero)
    rw [zero_add] at hvalue
    have htotal := total_eq_ok_iff.2 ⟨hsums, hvalue⟩
    refine ⟨⟨total, htotal, hvalue⟩, ?_, ?_⟩
    · intro cents policy
      exact Outcome.answered_iff.1 (setTendered_answered htotal)
    · intro item amount ceiling after hadd
      rcases hsums.addItem hadd with ⟨hafter, line, checked, hline, hchecked, hvalue⟩
      exact ⟨line, checked, hline, hchecked, total_eq_ok_iff.2 ⟨hafter, hvalue⟩, hvalue⟩
  · intro change htender
    have hlines : cart.LinesFit := by
      apply run_induction (motive := LinesFit)
      · intro line hline
        cases hline
      · intro before change after h _ hperform
        exact h.perform hperform
    exact Outcome.answered_iff.1 (hlines.answered htender)

/-- A cart of the greatest price has room for a cent, since an item of less than nothing stands
in front. -/
theorem run_at_any_price_cent_to_spare :
    let changes : List Change :=
      [.add ⟨"OFF", "Cent off", ⟨-1⟩⟩ 1 none, .add ⟨"ALL", "All", ⟨Int64.maxValue⟩⟩ 1 (some 1),
        .tender 5 .rejectInsufficient, .tender 7 .report]
    let cent : Item := ⟨"CENT", "Cent", ⟨1⟩⟩
    let cart := run {} changes
    (∀ index, .remove index ∉ changes) ∧
      (∃ total, cart.total = .ok total ∧ total.value = 9223372036854775806) ∧
      cart.tendered = ⟨7⟩ ∧
      (∃ after line total, cart.addItem cent 1 none = .ok after ∧
        cart.mergedLine cent 1 none = .ok line ∧ cart.totalWith? line = .ok (some total) ∧
        after.total = .ok total ∧ total.value = 9223372036854775807) ∧
      ∀ index fault, cart.perform (.remove index) ≠ .error (.faulted fault) := by
  intro changes cent cart
  have hremove : ∀ index, .remove index ∉ changes := by simp [changes]
  rcases run_at_any_price changes with ⟨hkept, hanswered⟩
  rcases hkept hremove with ⟨⟨total, htotal, hvalue⟩, _, hadds⟩
  have hadd : cart.addItem cent 1 none =
      .ok { cart with lines := cart.lines ++ [⟨"CENT", "Cent", ⟨1⟩, 1⟩] } := by
    decide +kernel
  rcases hadds cent 1 none _ hadd with ⟨line, checked, hline, hchecked, hafter, hexact⟩
  refine ⟨hremove, ⟨total, htotal, hvalue.trans (by decide)⟩, rfl,
    ⟨_, line, checked, hadd, hline, hchecked, hafter, hexact.trans (by decide +kernel)⟩, ?_⟩
  intro index fault
  exact hanswered (.remove index) (by simp) fault

/-- Without the item of less than nothing, which made room for a cent, that cart has no
total. -/
example :
    (run {}
      [.add ⟨"OFF", "Cent off", ⟨-1⟩⟩ 1 none, .add ⟨"ALL", "All", ⟨Int64.maxValue⟩⟩ 1 none,
        .add ⟨"CENT", "Cent", ⟨1⟩⟩ 1 none, .remove 0]).total = .error (.overflow .add) := by
  rfl

end Cart
end Till
