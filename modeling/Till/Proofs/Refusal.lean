import Till.Json.Number
import Till.Refusal

/-!
# What messages tell

The message of a refusal opens with words that no other kind of refusal opens with, and a refusal
for a broken rule ends with the message of the rule, which names the field first.  So whoever is
left with the message alone can tell the kind of the refusal, and the field that is to be mended.
The message of a fault tells all of it.

Main results:

- Theorem {lit}`Refusal.kind_eq_of_message_eq`: refusals of one message are of one kind.
- Theorem {lit}`Refusal.message_of_rule?`: the message of a refusal for a broken rule.
- Theorem {lit}`Fault.message_inj`: faults are told apart by their messages.
-/

namespace Till

/-! ## Rules -/

namespace Violation

/-- The field whose value breaks the rule. -/
def field : Violation → String
  | required field => field
  | outOfRange field _ _ => field
  | belowMinimum field _ => field
  | mustBePositive field => field
  | mustBeNonNegative field => field
  | duplicate field _ => field

/-- The message of a broken rule names the field first. -/
theorem message_names_field (rule : Violation) : ∃ rest, rule.message = rule.field ++ rest := by
  cases rule <;> simp only [message, String.append_assoc] <;> exact ⟨_, rfl⟩

end Violation

/-! ## Kinds -/

namespace Kind

/-- The words that the message of a refusal of this kind opens with. -/
def opening : Kind → String
  | notInitialized => "Core is not initialized; call cs_init first"
  | malformedInput => "Malformed input: "
  | invalidItem => "Invalid catalog item at position "
  | catalogNotLoaded => "No catalog loaded"
  | itemNotFound => "Unknown item_id: "
  | invalidHandle => "Invalid cart handle: "
  | indexOutOfRange => "line_index "
  | invalidQuantity => "Invalid quantity: "
  | invalidAmount => "Invalid amount: "
  | serializationError => "Serialization failed: "
  | allocationFailure => "Out of memory allocating "

/-- All kinds. -/
def all : List Kind :=
  [notInitialized, malformedInput, invalidItem, catalogNotLoaded, itemNotFound, invalidHandle,
    indexOutOfRange, invalidQuantity, invalidAmount, serializationError, allocationFailure]

theorem mem_all (kind : Kind) : kind ∈ all := by
  cases kind <;> decide

/-- The opening words of a kind are not the beginning of those of another one. -/
theorem eq_of_opening {first second : Kind}
    (h : first.opening.toList <+: second.opening.toList) : first = second := by
  have hall : ∀ first ∈ all, ∀ second ∈ all,
      first.opening.toList <+: second.opening.toList → first = second := by
    decide +kernel
  exact hall first first.mem_all second second.mem_all h

end Kind

namespace Refusal

variable {first second cause : Refusal} {rule : Violation}

/-- The refusals for a broken rule. -/
theorem rule?_isSome_iff :
    cause.rule?.isSome ↔ cause.kind ∈ [.invalidItem, .invalidQuantity, .invalidAmount] := by
  cases cause <;> simp [rule?, kind]

variable [Wording]

/-- The message of a refusal opens with the words of its kind. -/
theorem message_opens (cause : Refusal) : ∃ rest, cause.message = cause.kind.opening ++ rest := by
  cases cause with
  | notInitialized | catalogNotLoaded =>
    refine ⟨"", ?_⟩
    rw [String.append_empty]
    rfl
  | _ =>
    unfold message
    simp only [String.append_assoc]
    exact ⟨_, rfl⟩

/-- Refusals of one message are of one kind. -/
theorem kind_eq_of_message_eq (h : first.message = second.message) : first.kind = second.kind := by
  rcases first.message_opens with ⟨rest, hfirst⟩
  rcases second.message_opens with ⟨rest', hsecond⟩
  have hopens : first.kind.opening.toList <+: first.message.toList := by
    rw [hfirst, String.toList_append]
    exact List.prefix_append _ _
  have hopens' : second.kind.opening.toList <+: first.message.toList := by
    rw [h, hsecond, String.toList_append]
    exact List.prefix_append _ _
  rcases List.prefix_or_prefix_of_prefix hopens hopens' with hbegins | hbegins
  · exact Kind.eq_of_opening hbegins
  · exact (Kind.eq_of_opening hbegins).symm

/-- Among malformed inputs a message tells the reason. -/
theorem message_malformedInput_inj {first second : Malformation} :
    (malformedInput first).message = (malformedInput second).message ↔
      first.reason = second.reason := by
  have hmessage : ∀ cause : Malformation,
      (malformedInput cause).message = Kind.malformedInput.opening ++ cause.reason :=
    fun _ => rfl
  rw [hmessage, hmessage, ← String.toList_inj, String.toList_append, String.toList_append,
    List.append_cancel_left_eq, String.toList_inj]

/-- The message of a refusal for a broken rule ends with the message of the rule, which names the
field first. -/
theorem message_of_rule? (h : cause.rule? = some rule) :
    ∃ front wrong, cause.message = front ++ rule.message ∧ rule.message = rule.field ++ wrong := by
  rcases rule.message_names_field with ⟨wrong, hrule⟩
  cases cause with
  | invalidItem position broken | invalidQuantity broken | invalidAmount broken =>
    cases h
    exact ⟨_, wrong, rfl, hrule⟩
  | _ => cases h

end Refusal

/-! ## Faults -/

namespace Fault

/-- A number ends in front of a blank. -/
theorem takeWhile_write (n : Nat) (rest : List Char) :
    (Decimal.write n ++ ' ' :: rest).takeWhile Char.isDigit = Decimal.write n := by
  have hwrite : Decimal.write n = Decimal.digits n := by simp [Decimal.write]
  rw [hwrite, List.takeWhile_append_of_pos fun c hc => Decimal.isDigit_of_mem_digits hc,
    List.takeWhile_cons_of_neg (by decide), List.append_nil]

/-- The message of a position out of bounds, as a row of characters. -/
theorem toList_message_outOfBounds (index size : Nat) :
    (outOfBounds index size).message.toList =
      "index out of bounds: the len is ".toList ++
        (Decimal.write size ++ ' ' :: ("but the index is ".toList ++ Decimal.write index)) := by
  have hbut : " but the index is ".toList = ' ' :: "but the index is ".toList := by decide
  unfold message
  simp only [Decimal.text, toString, String.toList_append, String.toList_ofList, hbut,
    List.append_assoc, List.cons_append]

/-- Faults are told apart by their messages. -/
theorem message_inj {first second : Fault} : first.message = second.message ↔ first = second := by
  refine ⟨?_, congrArg message⟩
  intro h
  have hlist := congrArg String.toList h
  cases first with
  | overflow operation =>
    cases second with
    | overflow other => cases operation <;> cases other <;> first | rfl | exact absurd h (by decide)
    | outOfBounds index size =>
      rw [toList_message_outOfBounds] at hlist
      cases operation <;> cases hlist
  | outOfBounds index size =>
    rw [toList_message_outOfBounds] at hlist
    cases second with
    | overflow other => cases other <;> cases hlist
    | outOfBounds index' size' =>
      rw [toList_message_outOfBounds, List.append_cancel_left_eq] at hlist
      have hsize := congrArg (List.takeWhile Char.isDigit) hlist
      rw [takeWhile_write, takeWhile_write] at hsize
      rw [hsize, List.append_cancel_left_eq, List.cons.injEq, List.append_cancel_left_eq] at hlist
      have hindex := Json.Number.write_inj.1 hlist.2
      have hsize := Json.Number.write_inj.1 hsize
      rw [Int.ofNat.inj hindex, Int.ofNat.inj hsize]

end Fault
end Till
