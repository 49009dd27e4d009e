import Till.Cart.Payment

/-!
# Snapshots

A snapshot is the whole of a cart at one moment as a host displays it: the lines
with their totals, and the figures of the payment.  It has one text.
-/

namespace Till

/-- A line of a snapshot. -/
structure SnapshotLine where
  id : String
  name : String
  unitCents : Money
  quantity : Int64
  lineTotal : Money
  deriving DecidableEq, Repr, Inhabited

/-- A cart at one moment. -/
structure Snapshot where
  lines : List SnapshotLine
  payment : Payment
  deriving DecidableEq, Repr, Inhabited

namespace SnapshotLine

/-- A cart line with its total. -/
def ofLine (line : Line) : Except Fault SnapshotLine := do
  return ⟨line.itemId, line.name, line.unitPrice, line.quantity, ← line.total⟩

/-- A line as a record. -/
def write (line : SnapshotLine) : List Char :=
  Json.Compact.object
    [("id", Json.Compact.string line.id),
     ("name", Json.Compact.string line.name),
     ("unit_cents", Json.Compact.integer line.unitCents.value),
     ("qty", Json.Compact.integer line.quantity.toInt),
     ("line_total_cents", Json.Compact.integer line.lineTotal.value)]

end SnapshotLine

namespace Snapshot

/-- A cart as it is, under a change policy. -/
def ofCart (cart : Cart) (policy : ChangePolicy) : Except Fault Snapshot := do
  let payment ← cart.payment policy
  return ⟨← cart.lines.mapM SnapshotLine.ofLine, payment⟩

/-- The text of a snapshot. -/
def text (snapshot : Snapshot) : String :=
  String.ofList <| Json.Compact.object
    [("lines", Json.Compact.array (snapshot.lines.map SnapshotLine.write)),
     ("total_cents", Json.Compact.integer snapshot.payment.total.value),
     ("given_cents", Json.Compact.integer snapshot.payment.given.value),
     ("change_cents", Json.Compact.integer snapshot.payment.change.value)]

end Snapshot
end Till
