import Till.Proofs.Boundary.Moves
import Till.Proofs.Cart.Snapshot
import Till.Proofs.Catalog.RoundTrip

/-!
# Queries

A cart is shown to a host by its snapshot, by its payment and by the calls that ask for one
figure of the payment.  All of them look at the same lines and the same tender, and none of
them changes anything, so that they agree on whatever they show.

Main results:

- Theorem {lit}`Thread.perform_figure`: a call that asks for a figure of a payment replies this
  figure.
- Theorem {lit}`Engine.WellFormed.exists_snapshot`: the snapshot of a live cart and its
  payment.
- Theorem {lit}`Engine.snapshot_shows_cart`: what the text of a cart presents.
-/

namespace Till

namespace Thread

variable [Wording] {thread : Thread} {call : Call} {errand : Errand} {engine : Engine}
  {answer : Answer} {output : Output}

/-- An errand that leaves the engine as it is leaves the thread as it is. -/
theorem perform_of_answered (herrand : call.errand? = some (.ok errand))
    (hengine : thread.boundary.engine = some engine)
    (hperform : engine.perform errand.command = .ok (answer, engine))
    (hdeliver : call.deliver answer = .ok output) :
    thread.perform call = .ok (⟨.success, output⟩, thread) := by
  rw [perform_of_carried_out herrand hengine hperform hdeliver, ← hengine]

/-- A call that asks for a figure of the payment for a cart replies this figure. -/
theorem perform_figure {handle : Handle} {figure : Payment → Money} {payment : Payment}
    (herrand : call.errand? = some (.ok ⟨.untouched, .payment handle⟩))
    (hdeliver : ∀ payment, call.deliver (.payment payment) = .ok (.cents (figure payment)))
    (hengine : thread.boundary.engine = some engine)
    (hpayment : engine.payment handle = .ok payment) :
    thread.perform call = .ok (⟨.success, .cents (figure payment)⟩, thread) := by
  have hperform : engine.perform (.payment handle) = .ok (.payment payment, engine) := by
    rw [Engine.perform, hpayment]
    rfl
  exact perform_of_answered herrand hengine hperform (hdeliver payment)

end Thread

namespace Engine

variable {engine : Engine} {handle : Handle} {cart : Cart}

/-- A live cart has a snapshot: its lines, in order, with their exact totals, and the payment
for it. -/
theorem WellFormed.exists_snapshot (h : engine.WellFormed)
    (hcart : engine.carts.cart? handle = some cart) :
    ∃ snapshot : Snapshot, engine.snapshotText handle = .ok snapshot.text ∧
      engine.payment handle = .ok snapshot.payment ∧
      snapshot.lines.map SnapshotLine.line = cart.lines ∧
      ∀ row ∈ snapshot.lines, row.lineTotal.value = row.line.exactTotal := by
  rcases (h.cart handle cart hcart).snapshot_eq_ok engine.config.changePolicy with
    ⟨snapshot, hsnapshot⟩
  rcases Snapshot.of_ofCart_eq_ok hsnapshot with ⟨hpayment, hlines, htotals⟩
  have hget := Registry.get_eq_ok_iff.2 hcart
  refine ⟨snapshot, ?_, ?_, hlines, htotals⟩
  · rw [snapshotText, Engine.snapshot, hget, ok_bind, hsnapshot]
    rfl
  · rw [Engine.payment, hget, ok_bind, hpayment]
    rfl

/-- The text of a live cart is one of the grammar, and what it presents is the object with
exactly the members of a snapshot: the lines of the cart, in order, with their exact totals, the
sum of these totals, and the amount that was tendered.  Its figures are those of the payment for
the cart and of the calls that ask for one of them.  No two snapshots share a text. -/
theorem snapshot_shows_cart [Wording] :
    (∀ (engine : Engine) (handle : Handle) (cart : Cart), engine.Reachable →
      engine.carts.cart? handle = some cart →
      ∃ (text : String) (snapshot : Snapshot), engine.snapshotText handle = .ok text ∧
        Json.Lexes text.toList snapshot.value.tokens [] ∧
        Json.Value.ofText? text = some snapshot.value ∧
        snapshot.lines.map SnapshotLine.line = cart.lines ∧
        (∀ row ∈ snapshot.lines,
          row.lineTotal.value = row.unitCents.value * row.quantity.toInt) ∧
        snapshot.payment.total.value =
          (snapshot.lines.map fun row => row.lineTotal.value).sum ∧
        snapshot.payment.given = cart.tendered ∧
        engine.payment handle = .ok snapshot.payment ∧
        ∀ thread : Thread, thread.boundary.engine = some engine →
          thread.perform (.total handle .cell) =
              .ok (⟨.success, .cents snapshot.payment.total⟩, thread) ∧
            thread.perform (.given handle .cell) =
              .ok (⟨.success, .cents snapshot.payment.given⟩, thread) ∧
            thread.perform (.change handle .cell) =
              .ok (⟨.success, .cents snapshot.payment.change⟩, thread)) ∧
    ∀ first second : Snapshot, first.text = second.text ↔ first = second := by
  refine ⟨?_, fun _ _ => Snapshot.text_inj⟩
  intro engine handle cart hreachable hcart
  rcases hreachable.wellFormed.exists_snapshot hcart with
    ⟨snapshot, htext, hpayment, hlines, htotals⟩
  rcases hreachable.wellFormed.payment_exact hcart with
    ⟨payment, hpayment', htotal, hgiven, _⟩
  rw [hpayment] at hpayment'
  cases hpayment'
  have hsum : (snapshot.lines.map fun row => row.lineTotal.value).sum =
      Cart.exactTotal cart.lines := by
    rw [← hlines, Cart.exactTotal, List.map_map]
    exact congrArg List.sum (List.map_congr_left htotals)
  refine ⟨snapshot.text, snapshot, htext, snapshot.lexes_text, snapshot.ofText?_text, hlines,
    htotals, htotal.trans hsum.symm, hgiven, hpayment, ?_⟩
  intro thread hengine
  exact ⟨Thread.perform_figure rfl (fun _ => rfl) hengine hpayment,
    Thread.perform_figure rfl (fun _ => rfl) hengine hpayment,
    Thread.perform_figure rfl (fun _ => rfl) hengine hpayment⟩

/-- An id that looks like the border of two lines and a name of control characters are members
of the text of a cart, and so is a change that is less than nothing. -/
theorem snapshot_shows_cart_any_character :
    let items : List Item := [⟨"\"\x7d,\x7b\"", "\\\x00\x1f\n", ⟨250⟩⟩]
    let table : Handle := ⟨1, 0⟩
    let commands : List Command :=
      [.loadCatalog (Catalog.textOfItems items), .createCart,
        .addItem table "\"\x7d,\x7b\"" 3, .setTendered table 700]
    let engine := ((startingAt {} 1).run commands).2
    let cart : Cart := ⟨[⟨"\"\x7d,\x7b\"", "\\\x00\x1f\n", ⟨250⟩, 3⟩], ⟨700⟩⟩
    let thread : Thread := ⟨⟨some engine, some 1⟩, ""⟩
    engine.Reachable ∧ engine.carts.cart? table = some cart ∧
      thread.boundary.engine = some engine ∧
      ∃ text, engine.snapshotText table = .ok text ∧
        Json.Value.ofText? text = some (.object
          [(some "lines", .array [.object
              [(some "id", .string (some "\"\x7d,\x7b\"")),
                (some "name", .string (some "\\\x00\x1f\n")),
                (some "unit_cents", .number ['2', '5', '0']), (some "qty", .number ['3']),
                (some "line_total_cents", .number ['7', '5', '0'])]]),
            (some "total_cents", .number ['7', '5', '0']),
            (some "given_cents", .number ['7', '0', '0']),
            (some "change_cents", .number ['-', '5', '0'])]) ∧
        thread.perform (.total table .cell) = .ok (⟨.success, .cents ⟨750⟩⟩, thread) ∧
        thread.perform (.change table .cell) = .ok (⟨.success, .cents ⟨-50⟩⟩, thread) := by
  intro items table commands engine cart thread
  rcases Catalog.exists_ofText_textOfItems items (by decide) (by decide) with
    ⟨catalog, hcatalog, _, hlookup⟩
  have hitem : catalog.lookup "\"\x7d,\x7b\"" =
      .ok ⟨"\"\x7d,\x7b\"", "\\\x00\x1f\n", ⟨250⟩⟩ := hlookup _ List.mem_cons_self
  let holding (cart : Cart) : Engine := ⟨{}, some catalog, ⟨#[⟨1, some cart⟩], [], 1, 1⟩⟩
  have hload : (startingAt {} 1).step (.loadCatalog (Catalog.textOfItems items)) =
      (.ok (.count catalog.size), ⟨{}, some catalog, .startingAt 1⟩) :=
    step_of_perform (perform_loadCatalog hcatalog)
  have hcreate : step ⟨{}, some catalog, .startingAt 1⟩ .createCart =
      (.ok (.handle table), holding {}) := rfl
  have hadd : step (holding {}) (.addItem table "\"\x7d,\x7b\"" 3) =
      (.ok .done, holding { cart with tendered := ⟨0⟩ }) := by
    have hsold : Cart.addItem {} ⟨"\"\x7d,\x7b\"", "\\\x00\x1f\n", ⟨250⟩⟩ 3 none =
        .ok { cart with tendered := ⟨0⟩ } := by
      decide +kernel
    exact step_of_perform (perform_addItem rfl hitem hsold)
  have htender : step (holding { cart with tendered := ⟨0⟩ }) (.setTendered table 700) =
      (.ok .done, holding cart) := rfl
  have hcart : engine.carts.cart? table = some cart := by
    simp only [engine, commands, run_cons, hload, hcreate, hadd, htender]
    rfl
  have hreachable : engine.Reachable := ⟨{}, 1, commands, rfl⟩
  let shown : Snapshot :=
    ⟨[⟨"\"\x7d,\x7b\"", "\\\x00\x1f\n", ⟨250⟩, 3, ⟨750⟩⟩], ⟨⟨750⟩, ⟨700⟩, ⟨-50⟩⟩⟩
  have hshown : engine.snapshotText table = .ok shown.text := by
    simp only [engine, commands, run_cons, hload, hcreate, hadd, htender]
    rfl
  rcases snapshot_shows_cart.1 engine table cart hreachable hcart with
    ⟨text, snapshot, htext, _, hvalue, _, _, _, _, _, hthread⟩
  have hsame : text = shown.text := Except.ok.inj (htext.symm.trans hshown)
  have hread := shown.ofText?_text
  rw [← hsame, hvalue] at hread
  have hsnapshot := Snapshot.value_inj.1 (Option.some.inj hread)
  rw [hsnapshot] at hvalue hthread
  rcases hthread thread rfl with ⟨htotal, _, hchange⟩
  refine ⟨hreachable, hcart, rfl, text, htext, ?_, htotal, hchange⟩
  simp only [hvalue, shown]
  rfl

end Engine
end Till
