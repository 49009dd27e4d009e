import Till.Cart.Line

/-!
# Carts

A cart is a row of lines and the amount of money tendered for them.  There is at
most one line for an item: more of an item that has a line already goes into that
line, and an item without one gets a new line at the end.  A quantity is added only
when the line stays within the ceiling and the new total fits.

Main results:

- Theorem {lit}`Cart.put_of_forall_ne`: a line of a new item goes to the end.
- Theorem {lit}`Cart.map_itemId_put`: a line of a known item keeps its place.
-/

namespace Till

/-- The lines of a purchase and what was tendered for it. -/
structure Cart where
  lines : List Line := []
  tendered : Money := .zero
  deriving DecidableEq, Repr, Inhabited

namespace Cart

/-- The number of lines. -/
def size (cart : Cart) : Nat :=
  cart.lines.length

/-- The line of an item. -/
def line? (cart : Cart) (id : String) : Option Line :=
  cart.lines.find? fun line => line.itemId == id

/-- The totals of some lines added to an amount from the left. -/
def addTotals (amount : Money) (lines : List Line) : Except Fault Money :=
  lines.foldlM (fun amount line => do amount.add (← line.total)) amount

/-- The total of a cart: the totals of its lines added from the left, starting with
nothing. -/
def total (cart : Cart) : Except Fault Money :=
  addTotals .zero cart.lines

/-! ## Adding -/

/-- The totals of some lines added to an amount from the left, or nothing as soon as
a sum does not fit. -/
def addTotals? (amount : Money) : List Line → Except Fault (Option Money)
  | [] => .ok (some amount)
  | line :: rest => do
    let lineTotal ← line.total
    match amount.checkedAdd lineTotal with
    | none => return none
    | some amount => addTotals? amount rest

/-- The lines other than the first one of an item. -/
def otherLines (cart : Cart) (id : String) : List Line :=
  cart.lines.eraseP fun line => line.itemId == id

/-- A line in place of the first line of the same item, or at the end. -/
def put (line : Line) : List Line → List Line
  | [] => [line]
  | first :: rest =>
    if first.itemId = line.itemId then line :: rest else first :: put line rest

/-- The refusal of a quantity, with the rule it breaks. -/
def checkQuantity (amount : Int64) (ceiling : Option Int64) : Outcome Unit :=
  match Rules.quantity amount ceiling with
  | .ok () => .ok ()
  | .error rule => .refuse (.invalidQuantity rule)

/-- The refusal of a quantity that leads to an amount out of range. -/
def quantityTooLarge (ceiling : Option Int64) : Refusal :=
  .invalidQuantity (.outOfRange "qty" 1 (ceiling.getD Int64.maxValue))

/-- The line of an item once a quantity has been added to it. -/
def mergedLine (cart : Cart) (item : Item) (amount : Int64) (ceiling : Option Int64) :
    Outcome Line :=
  match cart.line? item.id with
  | none => .ok (Line.ofItem item amount)
  | some line =>
    match Bounded.ofInt? (line.quantity.toInt + amount.toInt) with
    | none => .refuse (quantityTooLarge ceiling)
    | some merged => do
      checkQuantity merged ceiling
      return { line with quantity := merged }

/-- The total of a cart in which a line stands for the line of its item: the total
of the line, then those of the others from the left; nothing when it does not fit. -/
def totalWith? (cart : Cart) (line : Line) : Except Fault (Option Money) :=
  match line.total? with
  | none => .ok none
  | some lineTotal => addTotals? lineTotal (cart.otherLines line.itemId)

/-- A cart with a quantity of an item added.  The quantity itself, the quantity of
the line and the total are checked in this order. -/
def addItem (cart : Cart) (item : Item) (amount : Int64) (ceiling : Option Int64) :
    Outcome Cart := do
  checkQuantity amount ceiling
  let line ← cart.mergedLine item amount ceiling
  match ← Outcome.ofFaulting (cart.totalWith? line) with
  | none => .refuse (quantityTooLarge ceiling)
  | some _ => return { cart with lines := put line cart.lines }

/-! ## Removing -/

/-- The line at a position and the cart without it. -/
def removeLine (cart : Cart) (index : Int64) : Outcome (Line × Cart) :=
  if 0 ≤ index.toInt then
    match cart.lines[index.toInt.toNat]? with
    | some line => .ok (line, { cart with lines := cart.lines.eraseIdx index.toInt.toNat })
    | none => .refuse (.indexOutOfRange index cart.size)
  else .refuse (.indexOutOfRange index cart.size)

/-- A cart without its lines; the tendered amount stays. -/
def clear (cart : Cart) : Cart :=
  { cart with lines := [] }

/-! ## The place of a line -/

/-- A line of a new item goes to the end. -/
theorem put_of_forall_ne {line : Line} {lines : List Line}
    (h : ∀ other ∈ lines, other.itemId ≠ line.itemId) :
    put line lines = lines ++ [line] := by
  induction lines with
  | nil => rfl
  | cons first rest ih =>
    simp only [List.mem_cons, forall_eq_or_imp] at h
    simp [put, h.1, ih h.2]

/-- A line of a known item keeps its place. -/
theorem map_itemId_put {line : Line} {lines : List Line}
    (h : line.itemId ∈ lines.map Line.itemId) :
    (put line lines).map Line.itemId = lines.map Line.itemId := by
  induction lines with
  | nil => simp at h
  | cons first rest ih =>
    by_cases hfirst : first.itemId = line.itemId
    · simp [put, hfirst]
    · simp only [List.map_cons, List.mem_cons] at h
      simp only [put, hfirst, if_false, List.map_cons]
      rw [ih (h.resolve_left (Ne.symm hfirst))]

end Cart
end Till
