import Till.Proofs.Boundary.HostText
import Till.Proofs.Boundary.Moves
import Till.Proofs.Catalog.RoundTrip
import Till.Proofs.Cart.Snapshot
import Till.Proofs.Engine.Kinds

/-!
# What an engine makes of a call

Every text that an engine hands out is one of the grammar of values, in which a zero character
is always escaped, even where an id or a name has one.  So whatever an engine answers can be
delivered, and the status of a call tells of the outcome of its command and of nothing else.

Main results:

- Theorem {lit}`Call.exists_deliver`: what an engine answers can be delivered.
- Theorem {lit}`Thread.exists_reports`: the status of an errand to a running engine.
-/

namespace Till

/-! ## Texts without a zero character -/

/-- The text of a snapshot has no zero character. -/
theorem Snapshot.zero_notMem_text (snapshot : Snapshot) : '\x00' ∉ snapshot.text.toList :=
  snapshot.lexes_text.zero_notMem List.not_mem_nil

namespace Engine

/-- The text of the catalog in force has no zero character. -/
theorem zero_notMem_catalogText (engine : Engine) : '\x00' ∉ engine.catalogText.toList :=
  (Catalog.lexes_textOfItems _).zero_notMem List.not_mem_nil

/-- The text of a cart has no zero character. -/
theorem zero_notMem_snapshotText {engine : Engine} {handle : Handle} {text : String}
    (h : engine.snapshotText handle = .ok text) : '\x00' ∉ text.toList := by
  rw [snapshotText, bind_eq_ok_iff] at h
  rcases h with ⟨snapshot, _, htext⟩
  rw [← Except.ok.inj htext]
  exact snapshot.zero_notMem_text

end Engine

namespace Call

variable {call : Call} {errand : Errand} {engine after : Engine} {answer : Answer}

/-- A text without a zero character can be handed out. -/
theorem textOutput_eq_ok {text : String} (h : '\x00' ∉ text.toList) :
    textOutput text = .ok (.text text) := by
  rw [textOutput, Action.zeroByte?_eq_none_iff.2 h]

/-- What an engine answers to an errand can be delivered. -/
theorem exists_deliver (herrand : call.errand? = some (.ok errand))
    (hperform : engine.perform errand.command = .ok (answer, after)) :
    ∃ output, call.deliver answer = .ok output := by
  cases hdeliver : call.deliver answer with
  | ok output => exact ⟨output, rfl⟩
  | error cause =>
    exfalso
    have hasks := asks_of_errand? herrand
    generalize errand.command = command at hasks hperform
    rcases of_deliver_eq_error hdeliver with ⟨place, rfl⟩ | ⟨handle, place, rfl⟩
    · cases hasks
      cases hperform
      rw [deliver, textOutput_eq_ok engine.zero_notMem_catalogText] at hdeliver
      cases hdeliver
    · cases hasks
      rw [Engine.perform, bind_eq_ok_iff] at hperform
      rcases hperform with ⟨text, htext, hanswer⟩
      cases hanswer
      rw [deliver, textOutput_eq_ok (Engine.zero_notMem_snapshotText htext)] at hdeliver
      cases hdeliver

end Call

/-! ## Statuses and outcomes -/

namespace Outcome

variable {α β : Type} {outcome : Outcome α} {status : Status}

/-- The status tells of the outcome: of success where there is a value, and else of the kind
of the refusal. -/
def Reports (outcome : Outcome α) (status : Status) : Prop :=
  match outcome with
  | .ok _ => status = .success
  | .error (.refused cause) => status = .refused cause.kind
  | .error (.faulted _) => False

/-- A status is that of a refusal exactly when it tells of one of this kind. -/
theorem Reports.eq_refused_iff (h : outcome.Reports status) {kind : Kind} :
    status = .refused kind ↔
      ∃ cause, outcome = .error (.refused cause) ∧ cause.kind = kind := by
  rcases outcome with (cause | fault) | a
  · rw [show status = .refused cause.kind from h]
    simp
  · exact h.elim
  · rw [show status = .success from h]
    simp

/-- No status that tells of an outcome is that of an invalid argument. -/
theorem Reports.ne_invalidArgument (h : outcome.Reports status) : status ≠ .invalidArgument := by
  rintro rfl
  rcases outcome with (cause | fault) | a
  · cases h
  · exact h
  · cases h

/-- A status tells of no refusal for which the outcome is not refused. -/
theorem Reports.ne_refused {kinds : List Kind} {kind : Kind} (h : outcome.Reports status)
    (honly : outcome.RefusesOnly kinds) (hkind : kind ∉ kinds) : status ≠ .refused kind := by
  intro heq
  rcases h.eq_refused_iff.1 heq with ⟨cause, hcause, rfl⟩
  exact hkind (honly cause hcause)

/-- What is made of a value does not matter for the status. -/
theorem reports_bind_iff {next : α → Outcome β} (hnext : ∀ a, ∃ b, next a = .ok b) :
    Reports (outcome >>= next) status ↔ outcome.Reports status := by
  rcases outcome with (cause | fault) | a
  · exact Iff.rfl
  · exact Iff.rfl
  · rcases hnext a with ⟨b, hb⟩
    rw [ok_bind, hb]
    exact Iff.rfl

end Outcome

/-! ## Errands to a running engine -/

namespace Thread

variable [Wording] {thread : Thread} {call : Call} {engine : Engine} {errand : Errand}

/-- The status of an errand to a running engine tells of the outcome of its command. -/
theorem exists_reports (h : engine.WellFormed) (hengine : thread.boundary.engine = some engine)
    (herrand : call.errand? = some (.ok errand)) :
    ∃ reply after, thread.perform call = .ok (reply, after) ∧
      (engine.perform errand.command).Reports reply.status := by
  have hanswered := h.answered errand.command
  cases hperform : engine.perform errand.command with
  | error failure =>
    rcases failure with cause | fault
    · exact ⟨_, _, perform_of_refused herrand hengine hperform, rfl⟩
    · rw [hperform] at hanswered
      exact hanswered.elim
  | ok result =>
    rcases result with ⟨answer, after⟩
    rcases Call.exists_deliver herrand hperform with ⟨output, hdeliver⟩
    exact ⟨_, _, perform_of_carried_out herrand hengine hperform hdeliver, rfl⟩

end Thread
end Till
