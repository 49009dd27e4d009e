import Till.Cart.Snapshot
import Till.Catalog.Document
import Till.Config.Basic
import Till.Registry

/-!
# Engines

An engine sells from one catalog into many carts under one configuration.  A
command gives a new engine together with its answer, or a failure and no engine;
what fails changes nothing.
-/

namespace Till

/-- A configuration, the catalog in force and the carts. -/
structure Engine where
  config : Config
  catalog : Option Catalog := none
  carts : Registry := .startingAt 1

namespace Engine

/-! ## Starting -/

/-- An engine whose handles start at a generation. -/
def startingAt (config : Config) (generation : UInt32) : Engine where
  config := config
  carts := .startingAt generation

/-- An engine whose handles start at a generation, if the configuration keeps the
rules. -/
def start (config : Config) (generation : UInt32) : Except Refusal Engine :=
  match config.check with
  | .error cause => .error cause
  | .ok () => .ok (startingAt config generation)

/-- A generation above those of all handles that were handed out, if there is one. -/
def nextFloor (engine : Engine) : Option UInt32 :=
  engine.carts.nextFloor

/-- An engine of the same configuration in which no handle of this one is valid, and
the generation at which it starts. -/
def successor? (engine : Engine) : Option (UInt32 × Engine) :=
  engine.nextFloor.map fun floor => (floor, startingAt engine.config floor)

/-! ## Catalog -/

/-- The catalog of a text comes into force; its size is the answer. -/
def loadCatalog (engine : Engine) (text : String) : Outcome (Nat × Engine) :=
  match Catalog.ofText text with
  | .error cause => .refuse cause
  | .ok catalog => .ok (catalog.size, { engine with catalog := some catalog })

/-- The text of the catalog in force; without one it is that of an empty catalog. -/
def catalogText (engine : Engine) : String :=
  (engine.catalog.getD .empty).text

/-! ## Carts -/

/-- A new cart. -/
def createCart (engine : Engine) : Outcome (Handle × Engine) := do
  let (handle, carts) ← engine.carts.create
  return (handle, { engine with carts })

/-- A cart is given up and its handle becomes invalid. -/
def releaseCart (engine : Engine) (handle : Handle) : Outcome Engine := do
  let (_, carts) ← engine.carts.release handle
  return { engine with carts }

/-- A change of one cart, with a value that comes of it. -/
def changeCart {α : Type} (engine : Engine) (handle : Handle)
    (change : Cart → Outcome (α × Cart)) : Outcome (α × Engine) := do
  let (value, carts) ← engine.carts.update handle change
  return (value, { engine with carts })

/-- The item of this id in the catalog in force. -/
def lookup (engine : Engine) (id : String) : Outcome Item :=
  match engine.catalog with
  | none => .refuse .catalogNotLoaded
  | some catalog => catalog.lookup id

/-- A quantity of an item goes into a cart.  The handle is checked first, then the
quantity, then the item. -/
def addItem (engine : Engine) (handle : Handle) (id : String) (amount : Int64) :
    Outcome Engine := do
  let ((), engine) ← engine.changeCart handle fun cart => do
    Cart.checkQuantity amount engine.config.maxLineQuantity
    let item ← engine.lookup id
    let cart ← cart.addItem item amount engine.config.maxLineQuantity
    return ((), cart)
  return engine

/-- The line at a position leaves a cart; it is the answer. -/
def removeLine (engine : Engine) (handle : Handle) (index : Int64) :
    Outcome (Line × Engine) :=
  engine.changeCart handle fun cart => cart.removeLine index

/-- All lines leave a cart; the tendered amount stays. -/
def clearCart (engine : Engine) (handle : Handle) : Outcome Engine := do
  let ((), engine) ← engine.changeCart handle fun cart => .ok ((), cart.clear)
  return engine

/-- The tendered amount of a cart is set. -/
def setTendered (engine : Engine) (handle : Handle) (cents : Int64) : Outcome Engine := do
  let ((), engine) ← engine.changeCart handle fun cart => do
    let cart ← cart.setTendered cents engine.config.changePolicy
    return ((), cart)
  return engine

/-! ## Queries -/

/-- The figures of the payment for a cart. -/
def payment (engine : Engine) (handle : Handle) : Outcome Payment := do
  let cart ← engine.carts.get handle
  Outcome.ofFaulting (cart.payment engine.config.changePolicy)

/-- A cart as it is. -/
def snapshot (engine : Engine) (handle : Handle) : Outcome Snapshot := do
  let cart ← engine.carts.get handle
  Outcome.ofFaulting (Snapshot.ofCart cart engine.config.changePolicy)

/-- The text of a cart as it is. -/
def snapshotText (engine : Engine) (handle : Handle) : Outcome String := do
  return (← engine.snapshot handle).text

/-! ## Ending -/

/-- All carts are given up and the catalog is forgotten. -/
def reset (engine : Engine) : Outcome Engine := do
  let carts ← Outcome.ofFaulting engine.carts.releaseAll
  return { engine with catalog := none, carts }

end Engine
end Till
