import Till.Proofs.Boundary.Shift

/-!
# Restarts

When the engine is stopped nothing is left of it but the floor, the generation at which the
next engine starts.  From there on calls do what they do in a fresh process, with all
generations higher by the floor less one: the statuses and the outputs are the same, handles
that are given out are higher as those that are handed in are, and messages differ in the
handle that they quote.

The invariant ties the generations to the floor: it is above the shift, and it is the first
generation of the running engine.

Main results:

- Theorem {lit}`Boundary.Restarted.moved`: every call preserves the invariant.
- Theorem {lit}`Thread.perform_lowered`: a call after a restart and in a fresh process.
- Theorem {lit}`Thread.RunsAlike.cons`: what one call adds to what runs have in common.
- Theorem {lit}`Thread.restart_runs_like_fresh`: over all histories and all runs that follow.
-/

namespace Till

variable {shift : Nat}

/-! ## Floors -/

/-- A command other than a reset leaves the first generation as it is. -/
theorem Engine.Performed.firstGeneration_eq {engine after : Engine} {command : Command}
    {answer : Answer} (h : engine.carts.WellFormed)
    (hperformed : engine.Performed command answer after) (hreset : command ≠ .reset) :
    after.carts.firstGeneration = engine.carts.firstGeneration := by
  cases hperformed with
  | load _ => rfl
  | text => rfl
  | create hcreate => exact h.firstGeneration_create hcreate
  | @request _ _ _ _ _ content _ _ _ =>
    cases content with
    | none => exact Registry.firstGeneration_withVacated
    | some new => rfl
  | reset _ => exact absurd rfl hreset

namespace Boundary

variable {boundary after : Boundary} {call : Call} {reply : Reply}

/-- Calls lead to no floor of zero. -/
theorem Reachable.floor_pos [Wording] (h : boundary.Reachable) {floor : UInt32}
    (hfloor : boundary.floor = some floor) : 0 < floor.toNat := by
  induction h generalizing floor with
  | fresh =>
    cases hfloor
    decide
  | @called thread after call reply hperform hreach ih =>
    rcases Thread.perform_moved hreach.wellFormed call with ⟨_, _, hperform', hmoved⟩
    rw [hperform] at hperform'
    cases hperform'
    generalize after.boundary = reached at hmoved hfloor
    cases hmoved with
    | rejected _ _ => exact ih hfloor
    | errand _ _ _ _ => exact ih hfloor
    | started _ _ _ _ => exact ih hfloor
    | stopped _ => exact Nat.lt_of_le_of_lt (Nat.zero_le _) (Registry.lt_of_nextFloor hfloor)
    | idle _ _ _ => exact ih hfloor

/-- No slot and no floor is in the last generation. -/
structure BelowLast (boundary : Boundary) : Prop where
  engine : ∀ engine, boundary.engine = some engine → engine.carts.BelowLast
  floor : ∀ floor, boundary.floor = some floor → floor.toNat + 1 < Handle.halfSize

/-- Since a restart there is a floor above the shift, and it is the first generation of the
running engine. -/
structure Restarted (shift : Nat) (boundary : Boundary) : Prop where
  wellFormed : boundary.WellFormed
  wellFormed_lowered : (boundary.lowered shift).WellFormed
  floor : ∃ floor, boundary.floor = some floor ∧ shift < floor.toNat ∧
    ∀ engine, boundary.engine = some engine → engine.carts.firstGeneration = floor

/-- No generation is below the shift or the last one. -/
theorem Restarted.atLeast (h : boundary.Restarted shift) (hbelow : boundary.BelowLast) :
    boundary.AtLeast shift := by
  rcases h.floor with ⟨floor, hfloor, hshift, hfirst⟩
  constructor
  · intro engine hengine
    have hlowered : (boundary.lowered shift).engine = some (engine.lowered shift) := by
      rw [lowered, hengine]
      rfl
    constructor
    · exact (h.wellFormed engine hengine).carts
    · exact (h.wellFormed_lowered _ hlowered).carts
    · rw [hfirst engine hengine]
      exact Nat.le_of_lt hshift
    · rw [hfirst engine hengine]
      exact hbelow.floor floor hfloor
    · exact hbelow.engine engine hengine
  · intro floor' hfloor'
    rw [hfloor] at hfloor'
    cases hfloor'
    exact hshift

/-- Every call preserves the invariant while no generation is the last one. -/
theorem Restarted.moved (h : boundary.Restarted shift) (hbelow : boundary.BelowLast)
    (hmoved : boundary.Moved call reply after)
    (hlowered : (after.lowered shift).WellFormed) : after.Restarted shift := by
  refine ⟨h.wellFormed.moved hmoved, hlowered, ?_⟩
  rcases h.floor with ⟨floor, hfloor, hshift, hfirst⟩
  cases hmoved with
  | rejected _ _ => exact h.floor
  | @errand _ errand engine last _ _ herrand hengine hperformed _ =>
    refine ⟨floor, hfloor, hshift, ?_⟩
    intro engine' heq
    cases heq
    rw [hperformed.firstGeneration_eq (h.wellFormed engine hengine).carts
      (Call.asks_of_errand? herrand).ne_reset]
    exact hfirst engine hengine
  | @started _ config floor' _ _ hfloor' =>
    rw [hfloor] at hfloor'
    cases hfloor'
    refine ⟨floor, hfloor, hshift, ?_⟩
    intro engine heq
    cases heq
    have hne : floor ≠ 0 := by
      rintro rfl
      exact absurd hshift (Nat.not_lt_zero _)
    simp [Engine.startingAt, Registry.startingAt, hne]
  | @stopped engine hengine =>
    have hatLeast := (h.atLeast hbelow).engine engine hengine
    have htop := hatLeast.belowLast.topGeneration_lt hatLeast.first_belowLast
    have hle := (Registry.le_topGeneration engine.carts).1
    have hnext : engine.nextFloor = some (UInt32.ofNat (engine.carts.topGeneration + 1)) :=
      if_pos htop
    refine ⟨_, hnext, ?_, by simp⟩
    rw [Handle.toNat_ofNat_slot htop]
    rw [hfirst engine hengine] at hle
    omega
  | idle _ _ _ => exact h.floor

/-- A boundary without an engine is a fresh one when its floor is lowered to one. -/
theorem lowered_eq_fresh {boundary : Boundary} {floor : UInt32} (hengine : boundary.engine = none)
    (hfloor : boundary.floor = some floor) (hpos : 0 < floor.toNat) :
    boundary.lowered (floor.toNat - 1) = {} := by
  have hone : Handle.lowerGeneration (floor.toNat - 1) floor = 1 := by
    rw [← UInt32.toNat_inj, Handle.toNat_lowerGeneration, UInt32.toNat_one]
    omega
  rw [Boundary.lowered, hengine, hfloor, Option.map_none, Option.map_some, hone]

end Boundary

namespace Thread

section Restarts

variable [Wording] {thread fresh : Thread} {call : Call}

/-! ## One call -/

/-- A handle that a call gives out does not wrap. -/
theorem shift_le_of_createCart (h : thread.boundary.Restarted shift) {place : Place}
    {reply : Reply} {after : Thread}
    (hperform : thread.perform (.createCart place) = .ok (reply, after)) {handle : Handle}
    (houtput : reply.output = .handle handle) : shift ≤ handle.generation.toNat := by
  rcases perform_moved h.wellFormed (.createCart place) with ⟨_, _, hperform', hmoved⟩
  rw [hperform] at hperform'
  cases hperform'
  generalize after.boundary = reached at hmoved
  cases hmoved with
  | rejected cause output =>
    have hnone := output_of_ne_success h.wellFormed hperform (status_ne_success cause)
    rw [houtput] at hnone
    cases hnone
  | errand herrand hengine hperformed hdeliver =>
    have hcommand := (Call.asks_of_errand? herrand).createCart_iff.2 ⟨place, rfl⟩
    rw [hcommand] at hperformed
    rcases h.floor with ⟨floor, _, hshift, hfirst⟩
    have hwell := (h.wellFormed _ hengine).carts
    cases hperformed with
    | create hcreate =>
      cases hdeliver
      cases houtput
      have hle := hwell.first_le_of_issuable (hwell.issuable_of_create hcreate)
      rw [hfirst _ hengine] at hle
      omega
    | request hrequest _ _ => cases hrequest
  | started _ hcall _ _ => rcases hcall with ⟨_, hcall⟩ | ⟨_, hcall⟩ <;> cases hcall
  | idle _ herrand _ => cases herrand

/-- A call after a restart and the call with the lower handle in a fresh process: what the
replies have in common. -/
structure RepliesAlike (shift : Nat) (thread fresh : Thread) (call : Call)
    (reply early : Reply) : Prop where
  status : early.status = reply.status
  rejection : fresh.rejection? (call.lowered shift) =
    (thread.rejection? call).map (Rejection.lowered shift)
  /-- Outputs differ in a handle that is given out. -/
  output : call ≠ .lastError → early.output = reply.output.lowered shift
  /-- A handle that is given out does not wrap. -/
  handle : ∀ place handle, call = .createCart place → reply.output = .handle handle →
    (handle.lowered shift).toNat + shift * Handle.halfSize = handle.toNat
  /-- Each thread tells its own last error. -/
  lastError : call = .lastError →
    reply.output = .text thread.lastError ∧ early.output = .text fresh.lastError

/-- A call after a restart does what it does in a fresh process with the lower handle. -/
theorem perform_lowered (h : thread.boundary.Restarted shift)
    (hbelow : thread.boundary.BelowLast)
    (hfresh : fresh.boundary = thread.boundary.lowered shift)
    (hhandle : ∀ handle, call.handle? = some handle → shift ≤ handle.generation.toNat) :
    ∃ reply after early earlyAfter, thread.perform call = .ok (reply, after) ∧
      fresh.perform (call.lowered shift) = .ok (early, earlyAfter) ∧
      after.boundary.Restarted shift ∧
      earlyAfter.boundary = after.boundary.lowered shift ∧
      RepliesAlike shift thread fresh call reply early := by
  have hwell : fresh.boundary.WellFormed := by
    rw [hfresh]
    exact h.wellFormed_lowered
  rcases perform_moved h.wellFormed call with ⟨reply, after, hperform, hmoved⟩
  rcases perform_moved hwell (call.lowered shift) with ⟨early, earlyAfter, hearly, hmoved'⟩
  refine ⟨reply, after, early, earlyAfter, hperform, hearly, ?_⟩
  have hrestarted : earlyAfter.boundary = after.boundary.lowered shift →
      after.boundary.Restarted shift := by
    intro heq
    apply h.moved hbelow hmoved
    rw [← heq]
    exact hwell.moved hmoved'
  by_cases hlast : call = .lastError
  · subst hlast
    cases hperform
    cases hearly
    refine ⟨hrestarted hfresh, hfresh, rfl, rfl, fun hne => absurd rfl hne, ?_, fun _ => ⟨rfl, rfl⟩⟩
    intro place handle heq
    cases heq
  · have hgiven : ∀ place handle, call = .createCart place → reply.output = .handle handle →
        (handle.lowered shift).toNat + shift * Handle.halfSize = handle.toNat := by
      intro place handle hcall houtput
      rw [hcall] at hperform
      exact Handle.toNat_lowered (shift_le_of_createCart h hperform houtput)
    have hon := Call.on_action_lowered (h.atLeast hbelow) hhandle hlast thread.lastError
      fresh.lastError
    rw [← hfresh] at hon
    have hsame : earlyAfter.boundary = after.boundary.lowered shift ∧
        early.status = reply.status ∧ early.output = reply.output.lowered shift ∧
        fresh.rejection? (call.lowered shift) =
          (thread.rejection? call).map (Rejection.lowered shift) := by
      unfold rejection?
      unfold perform at hperform hearly
      rw [hon] at hearly ⊢
      generalize (call.action thread.lastError).on ⟨thread.boundary, .untouched⟩ = done
        at hperform hearly ⊢
      rcases done with ⟨(cause | fault) | _, exchange⟩
      · cases hperform
        cases hearly
        exact ⟨rfl, Rejection.status_lowered cause, rfl, rfl⟩
      · cases hperform
      · cases hperform
        cases hearly
        exact ⟨rfl, rfl, rfl, rfl⟩
    rcases hsame with ⟨hboundary, hstatus, houtput, hrejection⟩
    exact ⟨hrestarted hboundary, hboundary, hstatus, hrejection, fun _ => houtput, hgiven,
      fun heq => absurd heq hlast⟩

/-! ## Runs -/

/-- Some calls after a restart and the calls with lower handles in a fresh process: what the
replies have in common. -/
structure RunsAlike (shift : Nat) (thread fresh : Thread) (calls : List Call)
    (replies earlier : List Reply) : Prop where
  length : replies.length = calls.length
  status : earlier.map Reply.status = replies.map Reply.status
  rejections : fresh.rejections (calls.map (Call.lowered shift)) =
    (thread.rejections calls).map (Option.map (Rejection.lowered shift))
  /-- Outputs differ in a handle that is given out. -/
  output : ∀ (n : Nat) (call : Call) (reply early : Reply), calls[n]? = some call →
    replies[n]? = some reply → earlier[n]? = some early → call ≠ .lastError →
      early.output = reply.output.lowered shift
  /-- A handle that is given out does not wrap. -/
  handle : ∀ (n : Nat) (place : Place) (reply : Reply) (handle : Handle),
    calls[n]? = some (.createCart place) →
    replies[n]? = some reply → reply.output = .handle handle →
      (handle.lowered shift).toNat + shift * Handle.halfSize = handle.toNat
  /-- The last error is told as the message of the latest rejection. -/
  lastError : ∀ (n : Nat) (reply early : Reply), calls[n]? = some .lastError →
    replies[n]? = some reply → earlier[n]? = some early →
      reply.output = .text (latestMessage thread.lastError ((thread.rejections calls).take n)) ∧
        early.output = .text (latestMessage fresh.lastError
          ((fresh.rejections (calls.map (Call.lowered shift))).take n))

/-- One call in front of a run. -/
theorem RunsAlike.cons {after earlyAfter : Thread} {rest : List Call} {reply early : Reply}
    {replies earlier : List Reply} (hwell : thread.boundary.WellFormed)
    (hfresh : fresh.boundary.WellFormed) (hperform : thread.perform call = .ok (reply, after))
    (hearly : fresh.perform (call.lowered shift) = .ok (early, earlyAfter))
    (hfirst : RepliesAlike shift thread fresh call reply early)
    (h : RunsAlike shift after earlyAfter rest replies earlier) :
    RunsAlike shift thread fresh (call :: rest) (reply :: replies) (early :: earlier) := by
  have hcauses := rejections_cons hperform rest
  have hcauses' : fresh.rejections ((call :: rest).map (Call.lowered shift)) = _ :=
    rejections_cons hearly (rest.map (Call.lowered shift))
  constructor
  · simp [h.length]
  · simp [hfirst.status, h.status]
  · rw [hcauses, hcauses', hfirst.rejection, h.rejections, List.map_cons]
  · intro n other reply' early' hother hreply' hearly' hne
    cases n with
    | zero =>
      cases hother
      cases hreply'
      cases hearly'
      exact hfirst.output hne
    | succ n => exact h.output n other reply' early' hother hreply' hearly' hne
  · intro n place reply' handle hcall hreply' hhandle
    cases n with
    | zero =>
      cases hreply'
      exact hfirst.handle place handle (Option.some.inj hcall) hhandle
    | succ n => exact h.handle n place reply' handle hcall hreply' hhandle
  · intro n reply' early' hcall hreply' hearly'
    rw [hcauses, hcauses']
    cases n with
    | zero =>
      cases hreply'
      cases hearly'
      exact hfirst.lastError (Option.some.inj hcall)
    | succ n =>
      -- What is left over from before the run is the message after the first call here.
      rw [List.take_succ_cons, List.take_succ_cons, latestMessage_cons, latestMessage_cons,
        ← (status_and_lastError_of_perform hwell hperform).2,
        ← (status_and_lastError_of_perform hfresh hearly).2]
      exact h.lastError n reply' early' hcall hreply' hearly'

/-- A run after a restart does what it does in a fresh process with lower handles. -/
theorem run_lowered (h : thread.boundary.Restarted shift)
    (hfresh : fresh.boundary = thread.boundary.lowered shift) (calls : List Call)
    (hhandles : ∀ call ∈ calls, ∀ handle, call.handle? = some handle →
      shift ≤ handle.generation.toNat)
    (hbelow : ∀ n replies reached, thread.run (calls.take n) = .ok (replies, reached) →
      reached.boundary.BelowLast) :
    ∃ replies last earlier earlierLast, thread.run calls = .ok (replies, last) ∧
      fresh.run (calls.map (Call.lowered shift)) = .ok (earlier, earlierLast) ∧
      RunsAlike shift thread fresh calls replies earlier := by
  induction calls generalizing thread fresh with
  | nil => exact ⟨[], thread, [], fresh, rfl, rfl, by constructor <;> simp [rejections]⟩
  | cons call rest ih =>
    rcases perform_lowered h (hbelow 0 [] thread rfl) hfresh
      (hhandles call List.mem_cons_self) with
      ⟨reply, after, early, earlyAfter, hperform, hearly, hrestarted, hboundary, hfirst⟩
    have hbelow' : ∀ n replies reached, after.run (rest.take n) = .ok (replies, reached) →
        reached.boundary.BelowLast := by
      intro n replies reached hrun
      apply hbelow (n + 1) (reply :: replies) reached
      simp only [List.take_succ_cons, run, hperform, hrun, ok_bind, pure, Except.pure]
    rcases ih hrestarted hboundary
      (fun other hother => hhandles other (List.mem_cons_of_mem _ hother)) hbelow' with
      ⟨replies, last, earlier, earlierLast, hrun, hrun', halike⟩
    have hwell : fresh.boundary.WellFormed := by
      rw [hfresh]
      exact h.wellFormed_lowered
    refine ⟨reply :: replies, last, early :: earlier, earlierLast, ?_, ?_,
      halike.cons h.wellFormed hwell hperform hearly hfirst⟩
    · simp only [run, hperform, hrun, ok_bind, pure, Except.pure]
    · simp only [List.map_cons, run, hearly, hrun', ok_bind, pure, Except.pure]

/-! ## Restarts -/

/-- Once an engine has been stopped none is running. -/
theorem exists_perform_stop (h : thread.boundary.WellFormed) :
    ∃ stopped, thread.perform .stop = .ok (⟨.success, .untouched⟩, stopped) ∧
      stopped.boundary.engine = none := by
  refine ⟨_, perform_stop h, ?_⟩
  cases hengine : thread.boundary.engine with
  | none => exact hengine
  | some engine => rfl

/-- After any history that ends with a stop and leaves a floor, whatever calls follow have the
replies that they have in a fresh process when each handle is lower by the floor less one
generations, as long as no handle that is handed in would wrap and no generation that is
reached is the last one.  Messages differ in the handle that is quoted, and in what the
thread recorded before. -/
theorem restart_runs_like_fresh (before : Thread) (hreach : before.boundary.Reachable) :
    ∃ stopped, before.perform .stop = .ok (⟨.success, .untouched⟩, stopped) ∧
      ∀ (thread : Thread) (floor : UInt32) (calls : List Call),
        thread.boundary = stopped.boundary → stopped.boundary.floor = some floor →
        (∀ call ∈ calls, ∀ handle, call.handle? = some handle →
          floor.toNat - 1 ≤ handle.generation.toNat) →
        (∀ n replies reached, thread.run (calls.take n) = .ok (replies, reached) →
          reached.boundary.BelowLast) →
        ∃ replies last earlier earlierLast,
          thread.run calls = .ok (replies, last) ∧
            run {} (calls.map (Call.lowered (floor.toNat - 1))) = .ok (earlier, earlierLast) ∧
            RunsAlike (floor.toNat - 1) thread {} calls replies earlier := by
  rcases exists_perform_stop hreach.wellFormed with ⟨stopped, hstop, hengine⟩
  refine ⟨stopped, hstop, ?_⟩
  intro thread floor calls hthread hfloor hhandles hbelow
  have hstopped := Boundary.Reachable.called hstop hreach
  have hpos := hstopped.floor_pos hfloor
  have hlowered := Boundary.lowered_eq_fresh hengine hfloor hpos
  have hrestarted : thread.boundary.Restarted (floor.toNat - 1) := by
    rw [hthread]
    refine ⟨hstopped.wellFormed, ?_, floor, hfloor, by omega, ?_⟩
    · rw [hlowered]
      exact Boundary.Reachable.fresh.wellFormed
    · intro engine heq
      rw [hengine] at heq
      cases heq
  apply run_lowered hrestarted _ calls hhandles hbelow
  rw [hthread, hlowered]

end Restarts

/-- An engine that gave out one handle is stopped: the next one gives out a handle that is one
generation higher than in a fresh process, and the handle from before is refused as the one
before the first is. -/
theorem restart_runs_like_fresh_stale_handle :
    let engine : Engine := { config := {}, carts := ⟨#[⟨1, some {}⟩], [], 1, 1⟩ }
    let before : Thread := ⟨⟨some engine, some 1⟩, "left over"⟩
    let stopped : Thread := ⟨⟨none, some 2⟩, "left over"⟩
    let calls : List Call := [.start fun _ => none, .createCart .cell, .releaseCart ⟨1, 0⟩]
    before.boundary.Reachable ∧
      before.perform .stop = .ok (⟨.success, .untouched⟩, stopped) ∧
      ∃ replies last earlier earlierLast,
        stopped.run calls = .ok (replies, last) ∧
          replies = [⟨.success, .untouched⟩, ⟨.success, .handle ⟨2, 0⟩⟩,
            ⟨.refused .invalidHandle, .untouched⟩] ∧
          run {} (calls.map (Call.lowered 1)) = .ok (earlier, earlierLast) ∧
          RunsAlike 1 stopped {} calls replies earlier := by
  intro engine before stopped calls
  have hreach : before.boundary.Reachable := Boundary.Reachable.created
  have hstop : before.perform .stop = .ok (⟨.success, .untouched⟩, stopped) := rfl
  have hhandles : ∀ call ∈ calls, ∀ handle, call.handle? = some handle →
      (2 : UInt32).toNat - 1 ≤ handle.generation.toNat := by
    intro call hcall handle hhandle
    simp only [calls, List.mem_cons, List.not_mem_nil, or_false] at hcall
    rcases hcall with rfl | rfl | rfl <;> cases hhandle
    decide
  let one : Registry := ⟨#[⟨2, some {}⟩], [], 1, 2⟩
  have hbelow : ∀ n replies reached, stopped.run (calls.take n) = .ok (replies, reached) →
      reached.boundary.BelowLast := by
    have hfloor : ∀ floor : UInt32, some 2 = some floor →
        floor.toNat + 1 < Handle.halfSize := by
      rintro floor heq
      cases heq
      decide
    have hone : Boundary.BelowLast ⟨some { config := {}, carts := one }, some 2⟩ := by
      refine ⟨?_, hfloor⟩
      intro engine heq index slot hslot
      cases heq
      have hmem := Array.mem_of_getElem? hslot
      simp only [one, List.mem_toArray, List.mem_cons, List.not_mem_nil, or_false] at hmem
      rw [hmem]
      decide
    intro n replies reached hrun
    rcases n with _ | _ | _ | n
    · cases hrun
      exact ⟨by simp [stopped], hfloor⟩
    · cases hrun
      refine ⟨?_, hfloor⟩
      intro engine heq index slot hslot
      cases heq
      cases hslot
    · cases hrun
      exact hone
    · rw [List.take_of_length_le (by simp [calls])] at hrun
      cases hrun
      exact hone
  rcases restart_runs_like_fresh before hreach with ⟨stopped', hstop', hall⟩
  cases hstop.symm.trans hstop'
  rcases hall stopped 2 calls rfl rfl hhandles hbelow with
    ⟨replies, last, earlier, earlierLast, hrun, hrun', halike⟩
  refine ⟨hreach, hstop, replies, last, earlier, earlierLast, hrun, ?_, hrun', halike⟩
  cases hrun
  rfl

end Thread
end Till
