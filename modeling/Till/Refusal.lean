import Till.Fault
import Till.Handle
import Till.Text.Decimal

/-!
# Refusals

A request that may not be carried out is refused for a cause.  The causes form one
type; the wording of each stands in one function, and each has a kind that tells
apart what a caller may do about it.

An outcome is either the value that was asked for, a refusal, or a fault.
-/

namespace Till

/-! ## Broken rules -/

/-- A rule that the value of a field breaks. -/
inductive Violation where
  /-- The field is empty. -/
  | required (field : String)
  /-- The value lies outside the given bounds. -/
  | outOfRange (field : String) (min max : Int64)
  /-- The value lies below the given bound. -/
  | belowMinimum (field : String) (min : Int64)
  /-- The value is zero or less. -/
  | mustBePositive (field : String)
  /-- The value is less than zero. -/
  | mustBeNonNegative (field : String)
  /-- The value was given before. -/
  | duplicate (field value : String)
  deriving DecidableEq, Repr

namespace Violation

/-- The text that reports a broken rule. -/
def message : Violation → String
  | required field => s!"{field} is required"
  | outOfRange field min max =>
    s!"{field} must be between {Decimal.text min.toInt} and {Decimal.text max.toInt}"
  | belowMinimum field min => s!"{field} must be at least {Decimal.text min.toInt}"
  | mustBePositive field => s!"{field} must be positive"
  | mustBeNonNegative field => s!"{field} must be non-negative"
  | duplicate field value => s!"{field} '{value}' already exists"

end Violation

/-! ## Malformed input -/

/-- What is wrong with a text that cannot be read. -/
inductive Malformation where
  /-- A catalog text has nothing but blanks. -/
  | blankCatalog
  /-- The text does not present a catalog. -/
  | catalogText (text : String)
  /-- The text does not present a config. -/
  | configText (text : String)
  /-- The ceiling of a config allows no quantity at all. -/
  | ceilingNotPositive
  /-- A text names no change policy. -/
  | unknownPolicy (name : String)
  /-- Any other reason. -/
  | other (reason : String)
  deriving DecidableEq, Repr

/-- The words in which the reader of documents says why a text does not present what it
should.  They are a parameter of whatever is said about such a text. -/
class Wording where
  /-- What the reader says about a text that does not present a catalog, if anything. -/
  onCatalog (text : String) : Option String
  /-- What the reader says about a text that does not present a config, if anything. -/
  onConfig (text : String) : Option String

/-- The reader that says nothing. -/
instance Wording.silent : Wording where
  onCatalog _ := none
  onConfig _ := none

namespace Malformation

/-- A finding, with the words of the reader after it. -/
def explained (finding : String) : Option String → String
  | none => finding
  | some words => s!"{finding}: {words}"

/-- The reason as it is quoted in a message. -/
def reason [Wording] : Malformation → String
  | blankCatalog => "catalog JSON must not be empty"
  | catalogText text => explained "invalid catalog JSON" (Wording.onCatalog text)
  | configText text => explained "invalid config JSON" (Wording.onConfig text)
  | ceilingNotPositive => "max_line_quantity must be positive"
  | unknownPolicy name =>
    s!"Unknown change policy: '{name}'. Valid options: report, clamp, reject"
  | other reason => reason

end Malformation

/-! ## Refusals -/

/-- The kinds of refusals. -/
inductive Kind where
  | notInitialized
  | malformedInput
  | invalidItem
  | catalogNotLoaded
  | itemNotFound
  | invalidHandle
  | indexOutOfRange
  | invalidQuantity
  | invalidAmount
  | serializationError
  | allocationFailure
  deriving DecidableEq, Repr

/-- The cause for which a request is refused. -/
inductive Refusal where
  /-- No engine is running. -/
  | notInitialized
  /-- The input cannot be read. -/
  | malformedInput (cause : Malformation)
  /-- A catalog record, counted from zero, breaks a rule. -/
  | invalidItem (position : Nat) (rule : Violation)
  /-- There is no catalog to look into. -/
  | catalogNotLoaded
  /-- The catalog has no item of this name. -/
  | itemNotFound (id : String)
  /-- The handle names no live cart. -/
  | invalidHandle (handle : Handle)
  /-- A cart of `size` lines has no line at this position. -/
  | indexOutOfRange (index : Int64) (size : Nat)
  /-- The quantity breaks a rule. -/
  | invalidQuantity (rule : Violation)
  /-- The amount breaks a rule. -/
  | invalidAmount (rule : Violation)
  /-- A text cannot be handed out. -/
  | serializationError (reason : String)
  /-- There is no room left for the thing named. -/
  | allocationFailure (thing : String)
  deriving DecidableEq, Repr

namespace Refusal

/-- The kind of a refusal. -/
def kind : Refusal → Kind
  | notInitialized => .notInitialized
  | malformedInput _ => .malformedInput
  | invalidItem _ _ => .invalidItem
  | catalogNotLoaded => .catalogNotLoaded
  | itemNotFound _ => .itemNotFound
  | invalidHandle _ => .invalidHandle
  | indexOutOfRange _ _ => .indexOutOfRange
  | invalidQuantity _ => .invalidQuantity
  | invalidAmount _ => .invalidAmount
  | serializationError _ => .serializationError
  | allocationFailure _ => .allocationFailure

/-- The broken rule behind a refusal, if there is one. -/
def rule? : Refusal → Option Violation
  | invalidItem _ rule => some rule
  | invalidQuantity rule => some rule
  | invalidAmount rule => some rule
  | _ => none

/-- The text that reports a refusal. -/
def message [Wording] : Refusal → String
  | notInitialized => "Core is not initialized; call cs_init first"
  | malformedInput cause => s!"Malformed input: {cause.reason}"
  | invalidItem position rule =>
    s!"Invalid catalog item at position {Decimal.text position}: {rule.message}"
  | catalogNotLoaded => "No catalog loaded"
  | itemNotFound id => s!"Unknown item_id: {id}"
  | invalidHandle handle => s!"Invalid cart handle: {handle.text}"
  | indexOutOfRange index size =>
    s!"line_index {Decimal.text index.toInt} out of range (cart has {Decimal.text size} lines)"
  | invalidQuantity rule => s!"Invalid quantity: {rule.message}"
  | invalidAmount rule => s!"Invalid amount: {rule.message}"
  | serializationError reason => s!"Serialization failed: {reason}"
  | allocationFailure thing => s!"Out of memory allocating {thing}"

end Refusal

/-! ## Outcomes -/

/-- Why a request has no value. -/
inductive Failure where
  | refused (cause : Refusal)
  | faulted (cause : Fault)
  deriving DecidableEq, Repr

/-- What comes of a request. -/
abbrev Outcome := Except Failure

namespace Outcome

/-- The request is refused. -/
def refuse {α : Type} (cause : Refusal) : Outcome α :=
  .error (.refused cause)

/-- A computation that cannot be refused, as an outcome. -/
def ofFaulting {α : Type} : Except Fault α → Outcome α
  | .ok a => .ok a
  | .error cause => .error (.faulted cause)

end Outcome
end Till
