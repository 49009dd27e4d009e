import Till.Json.Value
import Till.Proofs.Json.Grammar

/-!
# Values from their tokens

The machine that reads a row of tokens gives back the value that the row spells, however
deep its arrays and objects are nested.  So a text that stands for the tokens of a value
presents this value.

Main results:

- Theorem {lit}`Value.foldlM_tokens`: the tokens of a value are read as the value.
- Theorem {lit}`Value.ofText?_of_lexes`: what a text of the grammar presents.
-/

namespace Till
namespace Json
namespace Value

/-- The tokens of a value begin with one that closes no array. -/
theorem tokens_eq_cons (value : Value) :
    ∃ first rest, value.tokens = first :: rest ∧ first ≠ .closeBracket := by
  cases value with
  | array elements => exact ⟨_, _, rfl, by simp⟩
  | object members => exact ⟨_, _, rfl, by simp⟩
  | _ => exact ⟨_, _, rfl, by simp⟩

/-- The tokens of several elements begin with those of the first one. -/
theorem elementTokens_cons (first : Value) (rest : List Value) :
    ∃ more, elementTokens (first :: rest) = first.tokens ++ more := by
  cases rest with
  | nil => exact ⟨[], by simp [elementTokens]⟩
  | cons second rest => exact ⟨.comma :: elementTokens (second :: rest), rfl⟩

namespace Reading

/-- The first element of an array is read as any other one. -/
theorem foldlM_firstElement (value : Value) (tokens : List Token) (stack : List Frame) :
    (value.tokens ++ tokens).foldlM next? (.firstElement stack) =
      (value.tokens ++ tokens).foldlM next? (.value (.element [] :: stack)) := by
  rcases tokens_eq_cons value with ⟨first, rest, hvalue, hne⟩
  rw [hvalue, List.cons_append, List.foldlM_cons, List.foldlM_cons]
  cases first with
  | closeBracket => exact absurd rfl hne
  | _ => rfl

end Reading

-- The three rows of tokens are read together, as values hold one another.
mutual

/-- The tokens of a value are read as the value. -/
theorem foldlM_tokens (value : Value) (stack : List Frame) :
    value.tokens.foldlM Reading.next? (.value stack) = some (.done value stack) := by
  match value with
  | .null => rfl
  | .bool _ => rfl
  | .number _ => rfl
  | .string _ => rfl
  | .array [] => rfl
  | .array (first :: rest) =>
    have hclosed := foldlM_elementTokens first rest [] stack
    rcases elementTokens_cons first rest with ⟨more, hmore⟩
    rw [hmore, List.append_assoc, ← Reading.foldlM_firstElement, ← List.append_assoc,
      ← hmore] at hclosed
    exact hclosed
  | .object [] => rfl
  | .object ((key, value) :: rest) =>
    have hclosed := foldlM_memberTokens key value rest [] stack
    cases rest with
    | nil => exact hclosed
    | cons second rest => exact hclosed
termination_by sizeOf value

/-- The tokens of the elements of an array are read as the array when it is closed. -/
theorem foldlM_elementTokens (first : Value) (rest before : List Value)
    (stack : List Frame) :
    (elementTokens (first :: rest) ++ [Token.closeBracket]).foldlM Reading.next?
        (.value (.element before :: stack)) =
      some (.done (.array (before.reverse ++ first :: rest)) stack) := by
  have hfirst := foldlM_tokens first (.element before :: stack)
  match rest with
  | [] => simp [elementTokens, List.foldlM_append, hfirst, Reading.next?]
  | second :: rest =>
    have hrest := foldlM_elementTokens second rest (first :: before) stack
    rw [List.reverse_cons, List.append_assoc, List.singleton_append] at hrest
    rw [elementTokens, List.append_assoc, List.foldlM_append, hfirst]
    · exact hrest
    · exact List.cons_ne_nil _ _
termination_by sizeOf (first :: rest)

/-- The tokens of the members of an object are read as the object when it is closed. -/
theorem foldlM_memberTokens (key : Option String) (value : Value)
    (rest before : List (Option String × Value)) (stack : List Frame) :
    (memberTokens ((key, value) :: rest) ++ [Token.closeBrace]).foldlM Reading.next?
        (.key before stack) =
      some (.done (.object (before.reverse ++ (key, value) :: rest)) stack) := by
  have hvalue := foldlM_tokens value (.member before key :: stack)
  match rest with
  | [] =>
    change (value.tokens ++ [Token.closeBrace]).foldlM Reading.next?
      (.value (.member before key :: stack)) = _
    simp [List.foldlM_append, hvalue, Reading.next?]
  | (nextKey, nextValue) :: rest =>
    have hrest := foldlM_memberTokens nextKey nextValue rest ((key, value) :: before) stack
    rw [List.reverse_cons, List.append_assoc, List.singleton_append] at hrest
    rw [memberTokens, List.append_assoc]
    · change (value.tokens ++ _).foldlM Reading.next?
        (.value (.member before key :: stack)) = _
      rw [List.foldlM_append, hvalue]
      exact hrest
    · exact List.cons_ne_nil _ _
termination_by sizeOf (value, rest)

end

/-- The tokens of a value spell it. -/
theorem ofTokens?_tokens (value : Value) : ofTokens? value.tokens = some value := by
  rw [ofTokens?, foldlM_tokens]
  rfl

/-- Elements are read when each of them is. -/
theorem mapM_map_eq_some {α : Type} {read : Value → Option α} {value : α → Value}
    (h : ∀ a, read (value a) = some a) (elements : List α) :
    (elements.map value).mapM read = some elements := by
  induction elements with
  | nil => rfl
  | cons first rest ih => simp only [List.map_cons, List.mapM_cons, h, ih]; rfl

/-- A text that stands for the tokens of a value presents this value. -/
theorem ofText?_of_lexes {text : String} {value : Value}
    (h : Lexes text.toList value.tokens []) : ofText? text = some value := by
  rw [ofText?, h.scan_eq_some, Option.bind_some, ofTokens?_tokens]

end Value
end Json
end Till
