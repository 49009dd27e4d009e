import Till.Refusal

/-!
# Outcomes in sequence

A request is made of parts that follow one another until one of them has no value.
What a sequence comes to is read off its parts, and a promise about a sequence is
put together from promises about the parts.

Main results:

- Theorems {lit}`bind_eq_ok_iff` and {lit}`bind_eq_error_iff`: how a sequence of two
  parts succeeds, and how it fails.
- Theorem {lit}`foldlM_eq_ok_foldl`: a computation over a list whose steps all succeed.
- Theorem {lit}`Outcome.Ensures.bind`: what the first part promises may be used for
  the second one.
-/

namespace Till

section Sequence

variable {ε α β : Type}

@[simp]
theorem ok_bind (a : α) (next : α → Except ε β) : (Except.ok a >>= next) = next a :=
  rfl

@[simp]
theorem error_bind (e : ε) (next : α → Except ε β) :
    (Except.error e >>= next) = .error e :=
  rfl

/-- A sequence succeeds when both of its parts do. -/
theorem bind_eq_ok_iff {first : Except ε α} {next : α → Except ε β} {b : β} :
    (first >>= next) = .ok b ↔ ∃ a, first = .ok a ∧ next a = .ok b := by
  cases first with
  | error e =>
    constructor
    · intro h
      cases h
    · intro hall
      rcases hall with ⟨a, h, _⟩
      cases h
  | ok a =>
    constructor
    · intro h
      exact ⟨a, rfl, h⟩
    · intro hall
      rcases hall with ⟨a', h, hnext⟩
      cases h
      exact hnext

/-- A sequence fails where its first part does, or else its second one. -/
theorem bind_eq_error_iff {first : Except ε α} {next : α → Except ε β} {e : ε} :
    (first >>= next) = .error e ↔
      first = .error e ∨ ∃ a, first = .ok a ∧ next a = .error e := by
  cases first with
  | error e' =>
    rw [error_bind]
    constructor
    · intro h
      cases h
      exact Or.inl rfl
    · intro hcase
      rcases hcase with h | ⟨a, h, _⟩
      · cases h
        rfl
      · cases h
  | ok a =>
    constructor
    · intro h
      exact Or.inr ⟨a, rfl, h⟩
    · intro hcase
      rcases hcase with h | ⟨a', h, hnext⟩
      · cases h
      · cases h
        exact hnext

/-- A changed value is the change of a value. -/
theorem map_eq_ok_iff {first : Except ε α} {change : α → β} {b : β} :
    first.map change = .ok b ↔ ∃ a, first = .ok a ∧ change a = b := by
  cases first with
  | error e => simp [Except.map]
  | ok a => simp [Except.map]

/-- A changed value fails where the value does. -/
theorem map_eq_error_iff {first : Except ε α} {change : α → β} {e : ε} :
    first.map change = .error e ↔ first = .error e := by
  cases first with
  | error e' => simp [Except.map]
  | ok a => simp [Except.map]

/-- A computation over a list whose steps all succeed has the value of its steps. -/
theorem foldlM_eq_ok_foldl {step : β → α → Except ε β} {value : β → α → β}
    (holds : β → Prop)
    (hstep : ∀ b a, holds b → step b a = .ok (value b a) ∧ holds (value b a))
    {start : β} (hstart : holds start) (items : List α) :
    items.foldlM step start = .ok (items.foldl value start) := by
  induction items generalizing start with
  | nil => rfl
  | cons first rest ih =>
    rcases hstep start first hstart with ⟨hfirst, hnext⟩
    rw [List.foldlM_cons, hfirst, ok_bind, ih hnext, List.foldl_cons]

end Sequence

namespace Outcome

variable {α β : Type}

/-- The outcome is no fault, and a value keeps the promise. -/
def Ensures (promise : α → Prop) : Outcome α → Prop
  | .ok a => promise a
  | .error (.refused _) => True
  | .error (.faulted _) => False

/-- The outcome is a value or a refusal. -/
def Answered (outcome : Outcome α) : Prop :=
  outcome.Ensures fun _ => True

/-- An answered outcome is no fault. -/
theorem answered_iff {outcome : Outcome α} :
    outcome.Answered ↔ ∀ fault, outcome ≠ .error (.faulted fault) := by
  constructor
  · rintro h fault rfl
    exact h
  · intro h
    rcases outcome with (cause | fault) | a
    · trivial
    · exact h fault rfl
    · trivial

@[simp]
theorem ensures_ok {promise : α → Prop} {a : α} :
    Ensures promise (.ok a) ↔ promise a :=
  Iff.rfl

@[simp]
theorem ensures_refuse {promise : α → Prop} {cause : Refusal} :
    Ensures promise (refuse cause) :=
  trivial

/-- A value is as promised. -/
theorem Ensures.of_eq_ok {promise : α → Prop} {outcome : Outcome α} {a : α}
    (h : outcome.Ensures promise) (ha : outcome = .ok a) : promise a := by
  subst ha
  exact h

/-- What is answered keeps each promise that its values keep. -/
theorem Answered.ensures {promise : α → Prop} {outcome : Outcome α}
    (h : outcome.Answered) (hok : ∀ a, outcome = .ok a → promise a) :
    outcome.Ensures promise := by
  rcases outcome with (cause | fault) | a
  · trivial
  · exact h
  · exact hok a rfl

/-- What the first part promises may be used for the second one. -/
theorem Ensures.bind {promise : α → Prop} {result : β → Prop} {first : Outcome α}
    {next : α → Outcome β} (h : first.Ensures promise)
    (hnext : ∀ a, promise a → (next a).Ensures result) :
    Ensures result (first >>= next) := by
  rcases first with (cause | fault) | a
  · trivial
  · exact h
  · exact hnext a h

/-! ## Kinds of refusals -/

/-- A refusal, if the outcome is one, is of one of these kinds. -/
def RefusesOnly (kinds : List Kind) (outcome : Outcome α) : Prop :=
  ∀ cause, outcome = .error (.refused cause) → cause.kind ∈ kinds

@[simp]
theorem refusesOnly_ok {kinds : List Kind} {a : α} : RefusesOnly kinds (.ok a) := by
  intro cause h
  cases h

@[simp]
theorem refusesOnly_refuse {kinds : List Kind} {cause : Refusal} :
    RefusesOnly kinds (refuse cause : Outcome α) ↔ cause.kind ∈ kinds := by
  constructor
  · intro h
    exact h cause rfl
  · intro h cause' heq
    cases heq
    exact h

@[simp]
theorem refusesOnly_ofFaulting {kinds : List Kind} {computation : Except Fault α} :
    RefusesOnly kinds (ofFaulting computation) := by
  intro cause h
  cases computation <;> cases h

/-- More kinds may be allowed. -/
theorem RefusesOnly.mono {kinds more : List Kind} {outcome : Outcome α}
    (h : outcome.RefusesOnly kinds) (hsubset : kinds ⊆ more) : outcome.RefusesOnly more := by
  intro cause hcause
  exact hsubset (h cause hcause)

/-- A sequence refuses only for what its parts refuse for. -/
theorem RefusesOnly.bind {kinds : List Kind} {first : Outcome α} {next : α → Outcome β}
    (h : first.RefusesOnly kinds) (hnext : ∀ a, (next a).RefusesOnly kinds) :
    RefusesOnly kinds (first >>= next) := by
  intro cause hcause
  rcases bind_eq_error_iff.1 hcause with hfirst | ⟨a, _, ha⟩
  · exact h cause hfirst
  · exact hnext a cause ha

/-- The kind of a refusal, if the outcome is one. -/
def kind? : Outcome α → Option Kind
  | .ok _ => none
  | .error (.refused cause) => some cause.kind
  | .error (.faulted _) => none

@[simp]
theorem kind?_ok {a : α} : kind? (.ok a) = none :=
  rfl

@[simp]
theorem kind?_refuse {cause : Refusal} : kind? (refuse cause : Outcome α) = some cause.kind :=
  rfl

/-- An outcome is refused for no other kinds than these. -/
theorem RefusesOnly.kind?_ne {kinds : List Kind} {outcome : Outcome α} {kind : Kind}
    (h : outcome.RefusesOnly kinds) (hkind : kind ∉ kinds) : outcome.kind? ≠ some kind := by
  rcases outcome with (cause | fault) | a
  · intro heq
    cases heq
    exact hkind (h cause rfl)
  · simp [kind?]
  · simp

end Outcome
end Till
