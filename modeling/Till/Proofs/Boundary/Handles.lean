import Mathlib.Data.List.DropRight
import Till.Proofs.Boundary.Replies
import Till.Proofs.Engine.Live

/-!
# Handles over the life of a process

A process may start and stop engines any number of times, and create and release carts in
each of them.  Over all of this no handle is given out twice, and a handle is accepted
exactly from when the running engine gave it out until its cart is released.

The invariant ties the boundary to the calls that were made so far with their replies: what
was given out is not to be given out any more, neither by the running engine nor by the
next one, and the handles that are held are those of the live carts.

Main results:

- Theorem {lit}`Boundary.Tracks.moved`: every call preserves the invariant.
- Theorem {lit}`Thread.run_handles`: what it means for the handles of a process.
-/

namespace Till

/-! ## Calls and their handles -/

namespace Call

/-- The handle that a call takes. -/
def handle? : Call → Option Handle
  | releaseCart handle => some handle
  | clearCart handle => some handle
  | addItem handle _ _ => some handle
  | removeLine handle _ => some handle
  | total handle _ => some handle
  | lines handle _ => some handle
  | setGiven handle _ => some handle
  | given handle _ => some handle
  | change handle _ => some handle
  | _ => none

/-- The other arguments of a call that takes a handle are in order: the cell for the output
is there, and an id is a text. -/
def Usable : Call → Prop
  | addItem _ id _ => ∃ text, id.read "item_id" = .ok text
  | total _ place => place = .cell
  | lines _ place => place = .cell
  | given _ place => place = .cell
  | change _ place => place = .cell
  | _ => True

variable {call : Call} {handle : Handle} {errand : Errand}

/-- A call that takes a handle is an errand to the cart under the handle. -/
theorem exists_errand (hhandle : call.handle? = some handle) (husable : call.Usable) :
    ∃ errand request, call.errand? = some (.ok errand) ∧
      errand.command.request? = some (handle, request) := by
  cases call with
  | addItem named id amount =>
    cases hhandle
    rcases husable with ⟨text, htext⟩
    refine ⟨⟨.untouched, .addItem handle text amount.toInt64⟩, _, ?_, rfl⟩
    simp only [errand?, htext, Except.map]
  | total named place =>
    cases hhandle
    cases husable
    exact ⟨_, _, rfl, rfl⟩
  | lines named place =>
    cases hhandle
    cases husable
    exact ⟨_, _, rfl, rfl⟩
  | given named place =>
    cases hhandle
    cases husable
    exact ⟨_, _, rfl, rfl⟩
  | change named place =>
    cases hhandle
    cases husable
    exact ⟨_, _, rfl, rfl⟩
  | releaseCart named =>
    cases hhandle
    exact ⟨_, _, rfl, rfl⟩
  | clearCart named =>
    cases hhandle
    exact ⟨_, _, rfl, rfl⟩
  | removeLine named index =>
    cases hhandle
    exact ⟨_, _, rfl, rfl⟩
  | setGiven named cents =>
    cases hhandle
    exact ⟨_, _, rfl, rfl⟩
  | _ => cases hhandle

end Call

/-- A call that takes a handle is refused for it exactly when no cart of the running engine
is live under the handle. -/
theorem Thread.status_invalidHandle_iff [Wording] {thread : Thread} {engine : Engine}
    (h : engine.WellFormed) (hengine : thread.boundary.engine = some engine) {call : Call}
    {handle : Handle} (hhandle : call.handle? = some handle) (husable : call.Usable) :
    ∃ reply after, thread.perform call = .ok (reply, after) ∧
      (reply.status = .refused .invalidHandle ↔ engine.carts.cart? handle = none) := by
  rcases Call.exists_errand hhandle husable with ⟨errand, request, herrand, hrequest⟩
  rcases exists_reports h hengine herrand with ⟨reply, after, hperform, hreports⟩
  refine ⟨reply, after, hperform, ?_⟩
  rw [hreports.eq_refused_iff, h.perform_invalidHandle_iff hrequest]

/-! ## What was given out -/

/-- A call with its reply. -/
abbrev Turn := Call × Reply

namespace Turn

/-- The handle that is given out. -/
def handedOut? : Turn → Option Handle
  | (.createCart _, ⟨.success, .handle handle⟩) => some handle
  | _ => none

/-- The engine is stopped, or the cart under a handle is released. -/
def ends (handle : Handle) : Turn → Bool
  | (.stop, ⟨.success, _⟩) => true
  | (.releaseCart named, ⟨.success, _⟩) => decide (named = handle)
  | _ => false

end Turn

/-- The handles that were given out, in order. -/
def handedOut (history : List Turn) : List Handle :=
  history.filterMap Turn.handedOut?

/-- The handle was given out, and since then neither was the engine stopped nor the cart
released. -/
def Held (handle : Handle) (history : List Turn) : Prop :=
  ∃ turn ∈ history.rtakeWhile fun turn => !turn.ends handle, turn.handedOut? = some handle

variable {history : List Turn} {turn : Turn} {handle : Handle}

/-- What one more turn makes of the handles that were given out. -/
theorem handedOut_concat :
    handedOut (history ++ [turn]) = handedOut history ++ turn.handedOut?.toList := by
  unfold handedOut
  rw [List.filterMap_append]
  cases hturn : turn.handedOut? <;> simp [hturn]

/-- What one more turn makes of the handles that are held. -/
theorem held_concat :
    Held handle (history ++ [turn]) ↔
      turn.ends handle = false ∧ (Held handle history ∨ turn.handedOut? = some handle) := by
  unfold Held
  rw [List.rtakeWhile_concat]
  cases turn.ends handle with
  | true => simp
  | false => simp [or_and_right, exists_or]

/-! ## The invariant -/

namespace Boundary

/-- The running engine, or the next one, may yet give out the handle. -/
def Issuable (boundary : Boundary) (handle : Handle) : Prop :=
  match boundary.engine with
  | some engine => engine.carts.Issuable handle
  | none => ∃ floor, boundary.floor = some floor ∧ (Registry.startingAt floor).Issuable handle

/-- The cart under the handle is live in the running engine. -/
def Live (boundary : Boundary) (handle : Handle) : Prop :=
  ∃ engine, boundary.engine = some engine ∧ engine.carts.cart? handle ≠ none

/-- What was given out in a history is not to be given out any more, and what is held are
the handles of the live carts. -/
structure Tracks (history : List Turn) (boundary : Boundary) : Prop where
  created : ∀ place output, (.createCart place, ⟨.success, output⟩) ∈ history →
    ∃ handle, output = .handle handle
  nodup : (handedOut history).Nodup
  toNat_ne_zero : ∀ handle ∈ handedOut history, handle.toNat ≠ 0
  not_issuable : ∀ handle ∈ handedOut history, ¬ boundary.Issuable handle
  held_iff : ∀ handle, Held handle history ↔ boundary.Live handle

variable {boundary after : Boundary} {call : Call} {reply : Reply}

/-- A fresh boundary has given out nothing. -/
theorem tracks_fresh : Tracks [] {} where
  created place output hmem := by cases hmem
  nodup := List.nodup_nil
  toNat_ne_zero handle hmem := by cases hmem
  not_issuable handle hmem := by cases hmem
  held_iff handle := by simp [Held, Live]

/-- A call that creates no cart preserves the invariant if it brings no handle back and ends
exactly the carts that the turn ends. -/
theorem Tracks.of_not_create (h : boundary.Tracks history)
    (hcreate : ∀ place, reply.status = .success → call ≠ .createCart place)
    (hissuable : ∀ handle, after.Issuable handle → boundary.Issuable handle)
    (hlive : ∀ handle, after.Live handle ↔
      Turn.ends handle (call, reply) = false ∧ boundary.Live handle) :
    after.Tracks (history ++ [(call, reply)]) := by
  have hnone : Turn.handedOut? (call, reply) = none := by
    cases call with
    | createCart place =>
      rcases reply with ⟨status, output⟩
      cases status with
      | success => exact absurd rfl (hcreate place rfl)
      | refused kind => rfl
      | invalidArgument => rfl
    | _ => rfl
  have hsame : handedOut (history ++ [(call, reply)]) = handedOut history := by
    rw [handedOut_concat, hnone]
    simp
  refine ⟨?_, ?_, ?_, ?_, ?_⟩
  · intro place output hmem
    rcases List.mem_append.1 hmem with hmem | hmem
    · exact h.created place output hmem
    · cases List.mem_singleton.1 hmem
      exact absurd rfl (hcreate place rfl)
  · rw [hsame]
    exact h.nodup
  · rw [hsame]
    exact h.toNat_ne_zero
  · rw [hsame]
    intro handle hmem hafter
    exact h.not_issuable handle hmem (hissuable handle hafter)
  · intro handle
    rw [held_concat, hnone, hlive, h.held_iff]
    simp

/-- The creation of a cart preserves the invariant. -/
theorem Tracks.create (h : boundary.Tracks history) {engine : Engine} {carts : Registry}
    {created : Handle} (hwell : engine.WellFormed) (hengine : boundary.engine = some engine)
    (hcreate : engine.carts.create = .ok (created, carts)) (place : Place) :
    Tracks (history ++ [(.createCart place, ⟨.success, .handle created⟩)])
      { boundary with engine := some { engine with carts } } := by
  have hturn : Turn.handedOut? (.createCart place, ⟨.success, .handle created⟩) =
      some created := rfl
  have hissuable : engine.carts.Issuable created := hwell.carts.issuable_of_create hcreate
  have hnew : created ∉ handedOut history := by
    intro hmem
    apply h.not_issuable created hmem
    simp only [Issuable, hengine]
    exact hissuable
  refine ⟨?_, ?_, ?_, ?_, ?_⟩
  · intro place' output hmem
    rcases List.mem_append.1 hmem with hmem | hmem
    · exact h.created place' output hmem
    · cases List.mem_singleton.1 hmem
      exact ⟨created, rfl⟩
  · rw [handedOut_concat, hturn]
    simpa [List.nodup_append] using ⟨h.nodup, fun handle hmem heq => hnew (heq ▸ hmem)⟩
  · intro handle hmem
    rw [handedOut_concat, hturn] at hmem
    rcases List.mem_append.1 hmem with hmem | hmem
    · exact h.toNat_ne_zero handle hmem
    · simp only [Option.toList_some, List.mem_singleton] at hmem
      rw [hmem]
      exact hwell.carts.toNat_ne_zero_of_issuable hissuable
  · intro handle hmem hafter
    have hafter : carts.Issuable handle := hafter
    rw [handedOut_concat, hturn] at hmem
    rcases List.mem_append.1 hmem with hmem | hmem
    · apply h.not_issuable handle hmem
      simp only [Issuable, hengine]
      exact hwell.carts.issuable_of_issuable_create hcreate hafter
    · simp only [Option.toList_some, List.mem_singleton] at hmem
      subst hmem
      have hlive := hwell.carts.cart?_create hcreate handle
      rw [if_pos rfl] at hlive
      exact (hwell.carts.create hcreate).not_issuable_of_occupied hlive hafter
  · intro handle
    rw [held_concat, hturn, h.held_iff]
    simp only [Live, hengine, Option.some.injEq, exists_eq_left',
      hwell.carts.cart?_create hcreate]
    by_cases heq : handle = created
    · simp [heq, Turn.ends]
    · simp [heq, Ne.symm heq, Turn.ends]

/-- An errand that is carried out preserves the invariant. -/
theorem Tracks.errand (h : boundary.Tracks history) {errand : Errand} {engine last : Engine}
    {answer : Answer} {output : Output} (hwell : engine.WellFormed)
    (herrand : call.errand? = some (.ok errand)) (hengine : boundary.engine = some engine)
    (hperformed : engine.Performed errand.command answer last)
    (hdeliver : call.deliver answer = .ok output) :
    Tracks (history ++ [(call, ⟨.success, output⟩)])
      { boundary with engine := some last } := by
  have hasks := Call.asks_of_errand? herrand
  generalize errand.command = command at hasks hperformed
  by_cases hcreate : ∃ place, call = .createCart place
  · rcases hcreate with ⟨place, rfl⟩
    cases hasks
    cases hperformed with
    | create hcreated =>
      cases hdeliver
      exact h.create hwell hengine hcreated place
    | request hrequest hcart hcontent => cases hrequest
  · apply h.of_not_create
    · intro place _ heq
      exact hcreate ⟨place, heq⟩
    · intro handle hissuable
      simp only [Issuable, hengine]
      exact hperformed.issuable hwell.carts hissuable
    · intro handle
      have hends : Turn.ends handle (call, ⟨.success, output⟩) = false ↔
          command ≠ .releaseCart handle := by
        cases hasks <;> simp [Turn.ends]
      simp only [Live, hengine, Option.some.injEq, exists_eq_left',
        hperformed.live_iff hwell.carts handle]
      simp [hends, hasks.createCart_iff, hcreate, hasks.ne_reset, and_comm]

/-- Every call preserves the invariant. -/
theorem Tracks.moved (h : boundary.Tracks history) (hwell : boundary.WellFormed)
    (hmoved : boundary.Moved call reply after) :
    after.Tracks (history ++ [(call, reply)]) := by
  cases hmoved with
  | rejected cause output =>
    have hstatus : cause.status ≠ .success := by cases cause <;> simp [Rejection.status]
    apply h.of_not_create
    · intro place hsuccess
      exact absurd hsuccess hstatus
    · exact fun handle hissuable => hissuable
    · intro handle
      have hends : Turn.ends handle (call, ⟨cause.status, output⟩) = false := by
        cases cause <;> cases call <;> rfl
      simp [hends]
  | errand herrand hengine hperformed hdeliver =>
    exact h.errand (hwell _ hengine) herrand hengine hperformed hdeliver
  | @started _ config floor hcall hengine hfloor =>
    apply h.of_not_create
    · rintro place _ rfl
      rcases hcall with ⟨environment, heq⟩ | ⟨text, heq⟩ <;> cases heq
    · intro handle hissuable
      simp only [Issuable, hengine]
      exact ⟨floor, hfloor, hissuable⟩
    · intro handle
      simp [Live, hengine, Engine.startingAt, Engine.cart?_startingAt]
  | @stopped engine hengine =>
    apply h.of_not_create
    · intro place _ heq
      cases heq
    · rintro handle ⟨floor, hfloor, hissuable⟩
      simp only [Issuable, hengine]
      exact Registry.issuable_of_nextFloor hfloor hissuable
    · intro handle
      simp [Live, Turn.ends]
  | idle output herrand hstop =>
    apply h.of_not_create
    · rintro place _ rfl
      cases herrand
    · exact fun handle hissuable => hissuable
    · intro handle
      cases call with
      | stop => simp [Live, hstop rfl]
      | releaseCart named => cases herrand
      | _ => simp [Turn.ends]

end Boundary

/-! ## Processes -/

/-- Over the life of a process every creation that succeeds gives out a handle.  The
numbers of these handles are not zero and differ.  While an engine is running, a call that
takes a handle, and whose other arguments are in order, is refused for it exactly when the
handle is not held: the running engine has not given it out, or the cart was released. -/
theorem Thread.run_handles [Wording] (calls : List Call) :
    ∃ replies last, Thread.run {} calls = .ok (replies, last) ∧
      replies.length = calls.length ∧
      (∀ place output, (.createCart place, ⟨.success, output⟩) ∈ calls.zip replies →
        ∃ handle, output = .handle handle) ∧
      (∀ handle ∈ handedOut (calls.zip replies), handle.toNat ≠ 0) ∧
      ((handedOut (calls.zip replies)).map Handle.toNat).Nodup ∧
      (last.boundary.engine ≠ none → ∀ handle call, call.handle? = some handle →
        call.Usable → ∃ reply after, last.perform call = .ok (reply, after) ∧
          (reply.status = .refused .invalidHandle ↔ ¬ Held handle (calls.zip replies))) := by
  have hfresh : Boundary.WellFormed {} := by
    intro engine heq
    cases heq
  rcases run_induction {}
    (motive := fun history boundary => boundary.Tracks history) hfresh Boundary.tracks_fresh
    (fun _ _ _ _ _ hwell h hmoved => h.moved hwell hmoved) calls with
    ⟨replies, last, hrun, hlength, hwell, htracks⟩
  refine ⟨replies, last, hrun, hlength, htracks.created, htracks.toNat_ne_zero, ?_, ?_⟩
  · exact htracks.nodup.map (Function.LeftInverse.injective Handle.ofNat_toNat)
  · intro hrunning handle call hhandle husable
    rcases Option.ne_none_iff_exists'.1 hrunning with ⟨engine, hengine⟩
    rcases status_invalidHandle_iff (hwell engine hengine) hengine hhandle husable with
      ⟨reply, after, hperform, hstatus⟩
    refine ⟨reply, after, hperform, ?_⟩
    rw [hstatus, htracks.held_iff]
    simp [Boundary.Live, hengine]

/-- Slots are used again and an engine follows another one, and no handle is given out
twice; one of the first engine is refused by the second. -/
theorem Thread.run_handles_started_twice :
    let calls : List Call :=
      [.start fun _ => none, .createCart .cell, .createCart .cell, .releaseCart ⟨1, 0⟩,
        .createCart .cell, .stop, .start fun _ => none, .createCart .cell]
    ∃ replies last, Thread.run {} calls = .ok (replies, last) ∧
      handedOut (calls.zip replies) = [⟨1, 0⟩, ⟨1, 1⟩, ⟨2, 0⟩, ⟨3, 0⟩] ∧
      ((handedOut (calls.zip replies)).map Handle.toNat).Nodup ∧
      (last.boundary.engine ≠ none ∧ (Call.clearCart ⟨1, 1⟩).Usable ∧
        ¬ Held ⟨1, 1⟩ (calls.zip replies)) ∧
      ∃ reply after, last.perform (.clearCart ⟨1, 1⟩) = .ok (reply, after) ∧
        reply.status = .refused .invalidHandle := by
  intro calls
  let engine : Engine := { carts := ⟨#[⟨3, some {}⟩], [], 1, 3⟩, config := {} }
  let replies : List Reply :=
    [⟨.success, .untouched⟩, ⟨.success, .handle ⟨1, 0⟩⟩, ⟨.success, .handle ⟨1, 1⟩⟩,
      ⟨.success, .untouched⟩, ⟨.success, .handle ⟨2, 0⟩⟩, ⟨.success, .untouched⟩,
      ⟨.success, .untouched⟩, ⟨.success, .handle ⟨3, 0⟩⟩]
  have hcalls : Thread.run {} calls = .ok (replies, ⟨⟨some engine, some 3⟩, ""⟩) := rfl
  rcases run_handles calls with
    ⟨replies', last, hrun, hlength, hcreated, hne_zero, hnodup, hstatus⟩
  rw [hcalls] at hrun
  cases hrun
  have hheld : ¬ Held ⟨1, 1⟩ (calls.zip replies) := by
    unfold Held
    decide
  have hrunning : some engine ≠ none := by simp
  rcases hstatus hrunning ⟨1, 1⟩ (.clearCart ⟨1, 1⟩) rfl trivial with
    ⟨reply, after, hperform, hinvalid⟩
  exact ⟨replies, _, hcalls, by decide, hnodup, ⟨hrunning, trivial, hheld⟩, reply, after,
    hperform, hinvalid.2 hheld⟩

end Till
