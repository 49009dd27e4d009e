import Till.Engine.Basic

/-!
# Commands

All that an engine can be asked to do forms one type, and so do its answers.  A run
carries out commands one after the other; a command that fails leaves the engine as
it is and the run goes on.

Main results:

- Theorem {lit}`Engine.step_eq_self_of_error`: a failed command changes nothing.
- Theorem {lit}`Engine.run_append`: a run may be cut anywhere.
-/

namespace Till

/-- What an engine can be asked to do. -/
inductive Command where
  | loadCatalog (text : String)
  | catalogText
  | createCart
  | releaseCart (handle : Handle)
  | addItem (handle : Handle) (id : String) (amount : Int64)
  | removeLine (handle : Handle) (index : Int64)
  | clearCart (handle : Handle)
  | setTendered (handle : Handle) (cents : Int64)
  | payment (handle : Handle)
  | snapshotText (handle : Handle)
  | reset
  deriving DecidableEq, Repr

/-- What a command answers. -/
inductive Answer where
  | done
  | count (items : Nat)
  | text (text : String)
  | handle (handle : Handle)
  | line (line : Line)
  | payment (payment : Payment)
  deriving DecidableEq, Repr

namespace Engine

/-- The answer to a command and the engine after it, or why it failed. -/
def perform (engine : Engine) : Command → Outcome (Answer × Engine)
  | .loadCatalog text => do
    let (items, engine) ← engine.loadCatalog text
    return (.count items, engine)
  | .catalogText => .ok (.text engine.catalogText, engine)
  | .createCart => do
    let (handle, engine) ← engine.createCart
    return (.handle handle, engine)
  | .releaseCart handle => return (.done, ← engine.releaseCart handle)
  | .addItem handle id amount => return (.done, ← engine.addItem handle id amount)
  | .removeLine handle index => do
    let (line, engine) ← engine.removeLine handle index
    return (.line line, engine)
  | .clearCart handle => return (.done, ← engine.clearCart handle)
  | .setTendered handle cents => return (.done, ← engine.setTendered handle cents)
  | .payment handle => return (.payment (← engine.payment handle), engine)
  | .snapshotText handle => return (.text (← engine.snapshotText handle), engine)
  | .reset => return (.done, ← engine.reset)

/-- What comes of a command, and the engine after it. -/
def step (engine : Engine) (command : Command) : Outcome Answer × Engine :=
  match engine.perform command with
  | .ok (answer, after) => (.ok answer, after)
  | .error failure => (.error failure, engine)

/-- What comes of some commands in order, and the engine after them. -/
def run (engine : Engine) : List Command → List (Outcome Answer) × Engine
  | [] => ([], engine)
  | command :: rest =>
    let (result, after) := engine.step command
    let (results, last) := after.run rest
    (result :: results, last)

/-- A failed command changes nothing. -/
theorem step_eq_self_of_error {engine : Engine} {command : Command} {failure : Failure}
    (h : engine.perform command = .error failure) :
    engine.step command = (.error failure, engine) := by
  simp [step, h]

/-- A run may be cut anywhere. -/
theorem run_append (engine : Engine) (first second : List Command) :
    engine.run (first ++ second) =
      ((engine.run first).1 ++ ((engine.run first).2.run second).1,
        ((engine.run first).2.run second).2) := by
  induction first generalizing engine with
  | nil => rfl
  | cons command rest ih => simp [run, ih]

end Engine
end Till
