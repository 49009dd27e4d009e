import Till.Refusal

/-!
# Statuses

Every call of a host returns a status: success, the kind of the refusal, or that an
argument cannot be used.  Each has a number of its own.

Main results:

- Theorem {lit}`Status.code_inj`: statuses are told apart by their numbers.
-/

namespace Till

/-- What a call returns. -/
inductive Status where
  | success
  | refused (kind : Kind)
  | invalidArgument
  deriving DecidableEq, Repr

namespace Status

/-- The number of a kind of refusal. -/
def codeOfKind : Kind → Nat
  | .notInitialized => 1
  | .malformedInput => 2
  | .invalidItem => 3
  | .catalogNotLoaded => 4
  | .itemNotFound => 5
  | .invalidHandle => 6
  | .indexOutOfRange => 7
  | .invalidQuantity => 8
  | .invalidAmount => 9
  | .serializationError => 10
  | .allocationFailure => 11

/-- The number of a status. -/
def code : Status → Nat
  | success => 0
  | refused kind => codeOfKind kind
  | invalidArgument => 12

/-- Statuses are told apart by their numbers. -/
theorem code_inj {a b : Status} : a.code = b.code ↔ a = b := by
  constructor
  · intro h
    cases a with
    | success =>
      cases b with
      | success => rfl
      | refused kind => cases kind <;> cases h
      | invalidArgument => cases h
    | refused kind =>
      cases b with
      | success => cases kind <;> cases h
      | refused other => cases kind <;> cases other <;> first | rfl | cases h
      | invalidArgument => cases kind <;> cases h
    | invalidArgument =>
      cases b with
      | success => cases h
      | refused kind => cases kind <;> cases h
      | invalidArgument => rfl
  · rintro rfl
    rfl

end Status

/-! ## Rejections -/

/-- Why a call is rejected. -/
inductive Rejection where
  /-- The engine refuses the request. -/
  | refused (cause : Refusal)
  /-- A required argument is a null pointer. -/
  | nullPointer (argument : String)
  /-- The bytes of a text argument are not UTF-8. -/
  | invalidUtf8 (argument : String)
  deriving DecidableEq, Repr

namespace Rejection

/-- The status that tells of a rejection. -/
def status : Rejection → Status
  | refused cause => .refused cause.kind
  | nullPointer _ => .invalidArgument
  | invalidUtf8 _ => .invalidArgument

/-- The text that tells of a rejection. -/
def message [Wording] : Rejection → String
  | refused cause => cause.message
  | nullPointer argument => s!"{argument} must not be null"
  | invalidUtf8 argument => s!"{argument} is not valid UTF-8"

end Rejection
end Till
