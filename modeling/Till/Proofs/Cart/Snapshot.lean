import Till.Json.Record
import Till.Proofs.Cart.WellFormed
import Till.Proofs.Json.Writing

/-!
# Snapshots written and read back

The text of a snapshot presents an object with exactly the members of the snapshot: its lines,
in order and with every character that an id or a name may have, and its figures.  Whoever reads
it therefore finds the whole snapshot, and two snapshots never share a text.

Main results:

- Theorem {lit}`SnapshotLine.ofLine_eq_ok_iff`: a line of a snapshot is a cart line with its
  exact total.
- Theorem {lit}`Snapshot.ofText?_text`: what the text of a snapshot presents.
- Theorem {lit}`Snapshot.value_inj`: snapshots are told apart by what their texts present.
- Theorem {lit}`Snapshot.text_inj`: snapshots are told apart by their texts.
-/

namespace Till

/-! ## Lines -/

namespace SnapshotLine

/-- The cart line that a line of a snapshot shows. -/
def line (row : SnapshotLine) : Line :=
  ⟨row.id, row.name, row.unitCents, row.quantity⟩

/-- A line of a snapshot is a cart line with its exact total. -/
theorem ofLine_eq_ok_iff {line : Line} {row : SnapshotLine} :
    ofLine line = .ok row ↔ row.line = line ∧ row.lineTotal.value = line.exactTotal := by
  unfold ofLine
  rw [bind_eq_ok_iff]
  constructor
  · rintro ⟨total, htotal, hrow⟩
    cases hrow
    exact ⟨rfl, Line.total_eq_ok_iff.1 htotal⟩
  · rintro ⟨rfl, htotal⟩
    exact ⟨row.lineTotal, Line.total_eq_ok_iff.2 htotal, rfl⟩

/-- The lines of a snapshot are the cart lines, in order, with their exact totals. -/
theorem of_mapM_ofLine_eq_ok {lines : List Line} {rows : List SnapshotLine}
    (h : lines.mapM ofLine = .ok rows) :
    rows.map line = lines ∧ ∀ row ∈ rows, row.lineTotal.value = row.line.exactTotal := by
  induction lines generalizing rows with
  | nil =>
    cases h
    exact ⟨rfl, by simp⟩
  | cons first rest ih =>
    simp only [List.mapM_cons, bind_eq_ok_iff] at h
    rcases h with ⟨row, hrow, others, hothers, hrows⟩
    cases hrows
    rcases ofLine_eq_ok_iff.1 hrow with ⟨rfl, htotal⟩
    rcases ih hothers with ⟨hlines, htotals⟩
    refine ⟨by rw [List.map_cons, hlines], ?_⟩
    intro other hother
    rcases List.mem_cons.1 hother with rfl | hother
    · exact htotal
    · exact htotals other hother

/-- A line of a snapshot as a value. -/
def value (row : SnapshotLine) : Json.Value :=
  .object
    [(some "id", .string (some row.id)),
     (some "name", .string (some row.name)),
     (some "unit_cents", .number (Decimal.write row.unitCents.value)),
     (some "qty", .number (Decimal.write row.quantity.toInt)),
     (some "line_total_cents", .number (Decimal.write row.lineTotal.value))]

/-- A written line stands for the line as a value. -/
theorem standsFor_write (row : SnapshotLine) :
    Json.Compact.StandsFor row.write row.value.tokens := by
  apply Json.Compact.StandsFor.object
  exact .cons ⟨rfl, .string row.id⟩ (.cons ⟨rfl, .string row.name⟩
    (.cons ⟨rfl, .integer row.unitCents.value⟩ (.cons ⟨rfl, .integer row.quantity.toInt⟩
      (.cons ⟨rfl, .integer row.lineTotal.value⟩ .nil))))

/-- Lines of snapshots are told apart by their values. -/
theorem value_inj {first second : SnapshotLine} :
    first.value = second.value ↔ first = second := by
  constructor
  · intro h
    simp only [value, Json.Value.object.injEq, List.cons.injEq, Prod.mk.injEq,
      Json.Value.string.injEq, Json.Value.number.injEq, Option.some.injEq, true_and, and_true,
      Json.Number.write_inj, Money.value_inj, Int64.toInt_inj] at h
    rcases h with ⟨hid, hname, hprice, hquantity, htotal⟩
    exact (SnapshotLine.mk.injEq ..).mpr ⟨hid, hname, hprice, hquantity, htotal⟩
  · rintro rfl
    rfl

end SnapshotLine

/-! ## Snapshots -/

namespace Snapshot

/-- A snapshot as a value. -/
def value (snapshot : Snapshot) : Json.Value :=
  .object
    [(some "lines", .array (snapshot.lines.map SnapshotLine.value)),
     (some "total_cents", .number (Decimal.write snapshot.payment.total.value)),
     (some "given_cents", .number (Decimal.write snapshot.payment.given.value)),
     (some "change_cents", .number (Decimal.write snapshot.payment.change.value))]

/-- The text of a snapshot is one of the grammar, for the snapshot as a value. -/
theorem lexes_text (snapshot : Snapshot) :
    Json.Lexes snapshot.text.toList snapshot.value.tokens [] := by
  have hlines := Json.Compact.StandsFor.array_map SnapshotLine.standsFor_write snapshot.lines
  rw [text, String.toList_ofList]
  apply Json.Compact.StandsFor.lexes
  apply Json.Compact.StandsFor.object
  exact .cons ⟨rfl, hlines⟩ (.cons ⟨rfl, .integer snapshot.payment.total.value⟩
    (.cons ⟨rfl, .integer snapshot.payment.given.value⟩
      (.cons ⟨rfl, .integer snapshot.payment.change.value⟩ .nil)))

/-- The text of a snapshot presents the snapshot as a value. -/
theorem ofText?_text (snapshot : Snapshot) :
    Json.Value.ofText? snapshot.text = some snapshot.value :=
  Json.Value.ofText?_of_lexes snapshot.lexes_text

/-- Snapshots are told apart by their values. -/
theorem value_inj {first second : Snapshot} : first.value = second.value ↔ first = second := by
  constructor
  · intro h
    simp only [value, Json.Value.object.injEq, List.cons.injEq, Prod.mk.injEq,
      Json.Value.array.injEq, Json.Value.number.injEq, true_and, and_true,
      Json.Number.write_inj, Money.value_inj] at h
    rcases h with ⟨hlines, htotal, hgiven, hchange⟩
    have hlines := (List.map_inj_right fun _ _ => SnapshotLine.value_inj.1).1 hlines
    have hpayment : first.payment = second.payment :=
      (Payment.mk.injEq ..).mpr ⟨htotal, hgiven, hchange⟩
    exact (Snapshot.mk.injEq ..).mpr ⟨hlines, hpayment⟩
  · rintro rfl
    rfl

/-- Snapshots are told apart by their texts. -/
theorem text_inj {first second : Snapshot} :
    first.text = second.text ↔ first = second := by
  constructor
  · intro h
    have hread := second.ofText?_text
    rw [← h, first.ofText?_text] at hread
    exact value_inj.1 (Option.some.inj hread)
  · rintro rfl
    rfl

variable {cart : Cart} {policy : ChangePolicy} {snapshot : Snapshot}

/-- A snapshot of a cart shows its lines, in order, with their exact totals, and its
payment. -/
theorem of_ofCart_eq_ok (h : ofCart cart policy = .ok snapshot) :
    cart.payment policy = .ok snapshot.payment ∧
      snapshot.lines.map SnapshotLine.line = cart.lines ∧
      ∀ row ∈ snapshot.lines, row.lineTotal.value = row.line.exactTotal := by
  simp only [ofCart, bind_eq_ok_iff] at h
  rcases h with ⟨payment, hpayment, rows, hrows, hsnapshot⟩
  cases hsnapshot
  exact ⟨hpayment, SnapshotLine.of_mapM_ofLine_eq_ok hrows⟩

end Snapshot
end Till
