import Mathlib.Data.List.DropRight
import Till.Engine.Command

/-!
# Ledgers

A successful command may enter something about a cart: that it is opened, that a quantity
of an item is added, that the line of an item is removed, that all lines are removed, or
that an amount is tendered.  A failed command enters nothing, and neither does one on
another cart.

From these entries a history tells what a cart should hold.  An item counts from the last
entry on that takes it out of the cart, and the adds since then are what is in the cart.

Main results:

- Theorem {lit}`Ledger.adds_concat`: what one more event makes of the adds of an item.
- Theorem {lit}`Ledger.beforeFirstAdd_concat`: the first of these adds stays the first.
-/

namespace Till

/-- A command with what came of it. -/
abbrev Event := Command × Outcome Answer

/-- What a successful command enters about a cart. -/
inductive Entry where
  | opened
  | added (id : String) (amount : Int64)
  | removed (id : String)
  | cleared
  | tendered (cents : Int64)
  deriving DecidableEq, Repr

namespace Entry

/-- The entry takes an item out of the cart. -/
def resets (id : String) : Entry → Bool
  | opened => true
  | cleared => true
  | removed other => decide (other = id)
  | added _ _ => false
  | tendered _ => false

/-- The quantity of an item that the entry adds. -/
def amount? (id : String) : Entry → Option Int64
  | added other amount => if other = id then some amount else none
  | _ => none

/-- The amount that the entry tenders. -/
def tender? : Entry → Option Int64
  | tendered cents => some cents
  | _ => none

end Entry

namespace Event

/-- What an event enters about the cart under a handle. -/
def entry? (handle : Handle) : Event → Option Entry
  | (.createCart, .ok (.handle new)) => if new = handle then some .opened else none
  | (.addItem named id amount, .ok _) =>
    if named = handle then some (.added id amount) else none
  | (.removeLine named _, .ok (.line line)) =>
    if named = handle then some (.removed line.itemId) else none
  | (.clearCart named, .ok _) => if named = handle then some .cleared else none
  | (.setTendered named cents, .ok _) =>
    if named = handle then some (.tendered cents) else none
  | _ => none

/-- The event takes an item out of the cart under a handle. -/
def resets (handle : Handle) (id : String) (event : Event) : Bool :=
  (event.entry? handle).any (Entry.resets id)

/-- The quantity of an item that the event adds to the cart under a handle. -/
def amount? (handle : Handle) (id : String) (event : Event) : Option Int64 :=
  (event.entry? handle).bind (Entry.amount? id)

/-- The amount that the event tenders for the cart under a handle. -/
def tender? (handle : Handle) (event : Event) : Option Int64 :=
  (event.entry? handle).bind Entry.tender?

/-- The event opens the cart under a handle. -/
def opens (handle : Handle) (event : Event) : Bool :=
  decide (event.entry? handle = some .opened)

/-- The catalog in force after an event. -/
def catalogAfter (catalog : Option Catalog) : Event → Option Catalog
  | (.loadCatalog text, .ok _) => (Catalog.ofText text).toOption
  | (.reset, .ok _) => none
  | _ => catalog

/-- What fails enters nothing. -/
theorem entry?_error (handle : Handle) (command : Command) (failure : Failure) :
    entry? handle (command, .error failure) = none := by
  cases command <;> rfl

/-- An add takes no item out. -/
theorem resets_of_added {handle : Handle} {id : String} {amount : Int64} {event : Event}
    (h : event.entry? handle = some (.added id amount)) (other : String) :
    event.resets handle other = false := by
  simp [resets, h, Entry.resets]

/-- An add adds its quantity to its own item only. -/
theorem amount?_of_added {handle : Handle} {id : String} {amount : Int64} {event : Event}
    (h : event.entry? handle = some (.added id amount)) (other : String) :
    event.amount? handle other = if id = other then some amount else none := by
  simp [amount?, h, Entry.amount?]

/-- What fails leaves the catalog in force. -/
theorem catalogAfter_error (catalog : Option Catalog) (command : Command)
    (failure : Failure) : catalogAfter catalog (command, .error failure) = catalog := by
  cases command <;> rfl

end Event

namespace Ledger

/-! ## Reading a history -/

/-- The events after the last one that takes an item out of a cart. -/
def sinceReset (handle : Handle) (id : String) (history : List Event) : List Event :=
  history.rtakeWhile fun event => !event.resets handle id

/-- The quantities of an item that were added to a cart since it was last taken out. -/
def adds (handle : Handle) (id : String) (history : List Event) : List Int64 :=
  (sinceReset handle id history).filterMap (Event.amount? handle id)

/-- The events before the first of these adds, or all of them when there is no such add. -/
def beforeFirstAdd (handle : Handle) (id : String) (history : List Event) : List Event :=
  (history.rdropWhile fun event => !event.resets handle id) ++
    (sinceReset handle id history).takeWhile fun event => (event.amount? handle id).isNone

/-- The amounts that were tendered for a cart since it was opened. -/
def tenders (handle : Handle) (history : List Event) : List Int64 :=
  (history.rtakeWhile fun event => !event.opens handle).filterMap (Event.tender? handle)

/-- The catalog that is in force after a history. -/
def catalogInForce (history : List Event) : Option Catalog :=
  history.foldl Event.catalogAfter none

/-! ## One more event -/

variable {handle : Handle} {id : String} {history : List Event} {event : Event}

/-- What one more event makes of the adds of an item. -/
theorem adds_concat :
    adds handle id (history ++ [event]) =
      if event.resets handle id then []
      else adds handle id history ++ (event.amount? handle id).toList := by
  unfold adds sinceReset
  rw [List.rtakeWhile_concat]
  cases event.resets handle id with
  | true => simp
  | false =>
    simp only [Bool.not_false, if_true, List.filterMap_append, Bool.false_eq_true, if_false]
    cases hamount : event.amount? handle id <;> simp [hamount]

/-- What an add makes of the adds of its item. -/
theorem adds_concat_of_added {amount : Int64}
    (h : event.entry? handle = some (.added id amount)) :
    adds handle id (history ++ [event]) = adds handle id history ++ [amount] := by
  rw [adds_concat, Event.resets_of_added h, Event.amount?_of_added h, if_pos rfl]
  rfl

/-- What one more event makes of the tenders. -/
theorem tenders_concat :
    tenders handle (history ++ [event]) =
      if event.opens handle then []
      else tenders handle history ++ (event.tender? handle).toList := by
  unfold tenders
  rw [List.rtakeWhile_concat]
  cases event.opens handle with
  | true => simp
  | false =>
    simp only [Bool.not_false, if_true, List.filterMap_append, Bool.false_eq_true, if_false]
    cases htender : event.tender? handle <;> simp [htender]

/-- What one more event makes of the catalog in force. -/
theorem catalogInForce_concat :
    catalogInForce (history ++ [event]) = event.catalogAfter (catalogInForce history) := by
  simp [catalogInForce]

/-! ## The first add -/

/-- There are no adds where nothing since the last reset is one. -/
theorem adds_eq_nil_iff :
    adds handle id history = [] ↔
      ((sinceReset handle id history).takeWhile fun event =>
        (event.amount? handle id).isNone) = sinceReset handle id history := by
  rw [adds, List.filterMap_eq_nil_iff, List.takeWhile_eq_self_iff]
  simp only [Option.isNone_iff_eq_none]

/-- The events before the last reset and those after it are all events. -/
theorem append_sinceReset (handle : Handle) (id : String) (history : List Event) :
    (history.rdropWhile fun event => !event.resets handle id) ++ sinceReset handle id history =
      history :=
  List.rdropWhile_append_rtakeWhile

/-- The events before the first add are fewer than all. -/
theorem length_beforeFirstAdd_lt (h : adds handle id history ≠ []) :
    (beforeFirstAdd handle id history).length < history.length := by
  have hlt : ((sinceReset handle id history).takeWhile fun event =>
      (event.amount? handle id).isNone).length < (sinceReset handle id history).length := by
    apply lt_of_le_of_ne (List.takeWhile_sublist _).length_le
    intro heq
    exact h (adds_eq_nil_iff.2 ((List.takeWhile_sublist _).eq_of_length heq))
  have hall := congrArg List.length
    (append_sinceReset handle id history)
  rw [List.length_append] at hall
  rw [beforeFirstAdd, List.length_append]
  omega

/-- The first add stays the first until the item is taken out. -/
theorem beforeFirstAdd_concat (h : adds handle id history ≠ [])
    (hreset : event.resets handle id = false) :
    beforeFirstAdd handle id (history ++ [event]) = beforeFirstAdd handle id history := by
  rw [ne_eq, adds_eq_nil_iff] at h
  unfold beforeFirstAdd sinceReset at *
  rw [List.rdropWhile_concat_pos _ _ _ (by simp [hreset]),
    List.rtakeWhile_concat_pos _ _ _ (by simp [hreset]), List.takeWhile_append, if_neg]
  intro heq
  exact h ((List.takeWhile_sublist _).eq_of_length heq)

/-- An add of an item that has none is the first. -/
theorem beforeFirstAdd_concat_of_add (h : adds handle id history = [])
    (hreset : event.resets handle id = false) (hamount : event.amount? handle id ≠ none) :
    beforeFirstAdd handle id (history ++ [event]) = history := by
  rw [adds_eq_nil_iff] at h
  have hall := append_sinceReset handle id history
  unfold beforeFirstAdd sinceReset at *
  rw [List.rdropWhile_concat_pos _ _ _ (by simp [hreset]),
    List.rtakeWhile_concat_pos _ _ _ (by simp [hreset]), List.takeWhile_append, if_pos (by rw [h])]
  simp [hamount, hall]

end Ledger
end Till
