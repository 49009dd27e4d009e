import Mathlib.Data.List.DropRight
import Till.Proofs.Boundary.Precedence
import Till.Proofs.Boundary.Process
import Till.Proofs.Boundary.Texts

/-!
# The configuration in force

An engine keeps the configuration that it was started under.  To start one while another is
running asks for nothing, whatever configuration is asked for, and so does to stop an engine when
none is running: the boundary stays as it is, and so does the last error of the thread.  Hence such
calls may be taken out of a run, and the other calls come to the same.

What is in force at any time is told by the calls and their statuses: the configuration that the
first successful start since the last stop has asked for.

Main results:

- Theorem {lit}`Process.eq_of_redundant`: a redundant call leaves the process as it is.
- Theorem {lit}`Process.run_of_pruned`: a run without redundant calls.
- Theorem {lit}`Process.config?_of_perform`: the configuration in force after a call.
- Theorem {lit}`Process.run_under_first_config`: both over all runs, and what the configuration in
  force decides about.
-/

namespace Till

/-! ## Starting and stopping -/

namespace Call

/-- The call starts an engine. -/
def starts : Call → Bool
  | start _ => true
  | startWith _ => true
  | _ => false

/-- The call stops the engine. -/
def stops : Call → Bool
  | stop => true
  | _ => false

/-- The configuration under which a call starts an engine, unless its text cannot be used. -/
def config? : Call → Option Config
  | start environment => some environment.texts.config
  | startWith text =>
    match text.read "config_json" with
    | .error _ => none
    | .ok text => (Config.ofText text).toOption
  | _ => none

variable {call : Call}

theorem stops_iff : call.stops = true ↔ call = .stop := by
  cases call <;> simp [stops]

/-- Only a call that starts an engine asks for a configuration. -/
theorem config?_eq_none (h : call.starts = false) : call.config? = none := by
  cases call with
  | start _ | startWith _ => cases h
  | _ => rfl

end Call

namespace Thread

variable [Wording] {thread after : Thread} {call : Call} {reply : Reply} {config : Config}

/-- An engine is started under the configuration that is asked for unless one is running. -/
theorem of_conclude_startEngine {boundary : Boundary} {lastError : String}
    (h : conclude lastError ((Action.startEngine config).on ⟨boundary, .untouched⟩).1
      ((Action.startEngine config).on ⟨boundary, .untouched⟩).2 = .ok (reply, after))
    (hsuccess : reply.status = .success) :
    (∃ engine, boundary.engine = some engine ∧ after = ⟨boundary, lastError⟩) ∨
      boundary.engine = none ∧
        ∃ floor, after.boundary.engine = some (.startingAt config floor) := by
  rw [Action.on_startEngine] at h
  cases hengine : boundary.engine with
  | some engine =>
    simp only [hengine] at h
    cases h
    exact .inl ⟨engine, rfl, rfl⟩
  | none =>
    right
    simp only [hengine] at h
    cases hfloor : boundary.floor with
    | none =>
      simp only [hfloor] at h
      cases h
      cases hsuccess
    | some floor =>
      simp only [hfloor, Engine.start] at h
      cases hcheck : config.check with
      | error cause =>
        simp only [hcheck] at h
        cases h
        cases hsuccess
      | ok _ =>
        simp only [hcheck] at h
        cases h
        exact ⟨rfl, floor, rfl⟩

/-- A call that starts an engine and succeeds asks for a configuration.  It does nothing while an
engine is running, and else the engine runs under this configuration. -/
theorem of_perform_start (hstarts : call.starts = true)
    (hperform : thread.perform call = .ok (reply, after)) (hsuccess : reply.status = .success) :
    ∃ config, call.config? = some config ∧
      ((∃ engine, thread.boundary.engine = some engine ∧ after = thread) ∨
        thread.boundary.engine = none ∧
          ∃ floor, after.boundary.engine = some (.startingAt config floor)) := by
  unfold perform at hperform
  cases call with
  | start environment =>
    exact ⟨environment.texts.config, rfl, of_conclude_startEngine hperform hsuccess⟩
  | startWith text =>
    simp only [Call.action, Action.on_bind, Action.on_readText] at hperform
    cases hread : text.read "config_json" with
    | error cause =>
      simp only [hread] at hperform
      cases hperform
      exact absurd hsuccess (status_ne_success cause)
    | ok content =>
      simp only [hread] at hperform
      cases htext : Config.ofText content with
      | error cause =>
        simp only [htext] at hperform
        cases hperform
        cases hsuccess
      | ok config =>
        simp only [htext] at hperform
        have hconfig : (Call.startWith text).config? = some config := by
          simp only [Call.config?, hread, htext]
          rfl
        exact ⟨config, hconfig, of_conclude_startEngine hperform hsuccess⟩
  | _ => cases hstarts

/-- Once an engine has been stopped none is running; where none was, nothing happens. -/
theorem of_perform_stop (hperform : thread.perform .stop = .ok (reply, after)) :
    after.boundary.engine = none ∧ (thread.boundary.engine = none → after = thread) := by
  simp only [perform, Call.action, Action.on_stopEngine] at hperform
  cases hengine : thread.boundary.engine with
  | none =>
    simp only [hengine] at hperform
    cases hperform
    exact ⟨hengine, fun _ => rfl⟩
  | some engine =>
    simp only [hengine, Action.on_ofOutcome] at hperform
    rcases hreset : engine.reset with (cause | cause) | last
    · rw [hreset] at hperform
      cases hperform
      exact ⟨rfl, fun h => by cases h⟩
    · rw [hreset] at hperform
      cases hperform
    · rw [hreset] at hperform
      cases hperform
      exact ⟨rfl, fun h => by cases h⟩

end Thread

/-! ## Visits -/

namespace Visit

/-- An engine was to be started while one was running, with success, or to be stopped while none
was. -/
def redundant (visit : Visit) : Bool :=
  (visit.call.starts && visit.running && decide (visit.reply.status = .success)) ||
    (visit.call.stops && !visit.running)

/-- Visits without some redundant ones. -/
inductive Pruned : List Visit → List Visit → Prop where
  | nil : Pruned [] []
  | keep (visit : Visit) {visits kept : List Visit} (h : Pruned visits kept) :
      Pruned (visit :: visits) (visit :: kept)
  | drop {visit : Visit} {visits kept : List Visit} (hredundant : visit.redundant = true)
      (h : Pruned visits kept) : Pruned (visit :: visits) kept

/-- No visit has to be left out. -/
theorem Pruned.refl (visits : List Visit) : Pruned visits visits := by
  induction visits with
  | nil => exact .nil
  | cons visit _ ih => exact .keep visit ih

/-- All redundant ones may be left out at once. -/
theorem pruned_filter (visits : List Visit) :
    Pruned visits (visits.filter fun visit => !visit.redundant) := by
  induction visits with
  | nil => exact .nil
  | cons visit rest ih =>
    by_cases hredundant : visit.redundant = true
    · rw [List.filter_cons_of_neg (by simp [hredundant])]
      exact .drop hredundant ih
    · rw [List.filter_cons_of_pos (by simp [hredundant])]
      exact .keep visit ih

/-- The configuration that a visit asks for with success. -/
def config? (visit : Visit) : Option Config :=
  if visit.reply.status = .success then visit.call.config? else none

/-- The configuration that was asked for first, with success, since an engine was last to be
stopped. -/
def configInForce (visits : List Visit) : Option Config :=
  (visits.rtakeWhile fun visit => !visit.call.stops).findSome? config?

/-- What one more visit makes of the configuration in force. -/
theorem configInForce_concat (visits : List Visit) (visit : Visit) :
    configInForce (visits ++ [visit]) =
      if visit.call.stops = true then none else (configInForce visits).or visit.config? := by
  unfold configInForce
  rw [List.rtakeWhile_concat]
  by_cases hstops : visit.call.stops = true
  · simp [hstops]
  · simp [hstops, List.findSome?_append]

end Visit

namespace Process

section Visits

variable [Wording] {process after last : Process} {id : Nat} {call : Call} {reply : Reply}
  {visit : Visit} {visits kept : List Visit}

/-! ## Redundant visits -/

/-- A redundant call leaves the process as it is. -/
theorem eq_of_redundant (hredundant : visit.redundant = true)
    (hrunning : visit.running = process.boundary.engine.isSome)
    (hperform : process.perform visit.thread visit.call = .ok (visit.reply, after)) :
    after = process := by
  rcases perform_eq_ok_iff.1 hperform with ⟨thread, hthread, rfl⟩
  have hsame : thread = process.thread visit.thread := by
    simp only [Visit.redundant, Bool.or_eq_true, Bool.and_eq_true, decide_eq_true_eq,
      Bool.not_eq_true'] at hredundant
    rcases hredundant with ⟨⟨hstarts, hrun⟩, hsuccess⟩ | ⟨hstops, hidle⟩
    · rcases Thread.of_perform_start hstarts hthread hsuccess with
        ⟨_, _, ⟨_, _, heq⟩ | ⟨hnone, _⟩⟩
      · exact heq
      · have hnone' : process.boundary.engine = none := hnone
        rw [hrun, hnone'] at hrunning
        cases hrunning
    · rw [Call.stops_iff.1 hstops] at hthread
      rw [hidle] at hrunning
      apply (Thread.of_perform_stop hthread).2
      exact Option.isSome_eq_false_iff.1 hrunning.symm |> Option.isNone_iff_eq_none.1
  rw [hsame, resume_thread]

/-- Without some redundant calls the other calls of a run have the same visits, and the process is
the same in the end. -/
theorem run_of_pruned {calls : List (Nat × Call)}
    (hrun : process.run calls = .ok (visits, last)) (hpruned : Visit.Pruned visits kept) :
    process.run (kept.map Visit.request) = .ok (kept, last) := by
  induction hpruned generalizing process calls with
  | nil =>
    cases calls with
    | nil => exact hrun
    | cons request rest =>
      simp only [run, bind_eq_ok_iff] at hrun
      rcases hrun with ⟨_, _, _, _, heq⟩
      cases heq
  | keep visit _ ih =>
    rcases run_eq_ok_cons_iff.1 hrun with
      ⟨rest, after, _, hperform, hrunning, hlastError, hrest⟩
    exact run_eq_ok_cons_iff.2 ⟨_, after, rfl, hperform, hrunning, hlastError, ih hrest⟩
  | drop hredundant _ ih =>
    rcases run_eq_ok_cons_iff.1 hrun with ⟨rest, after, _, hperform, hrunning, _, hrest⟩
    rw [eq_of_redundant hredundant hrunning hperform] at hrest
    exact ih hrest

/-! ## The configuration in force -/

/-- The configuration of the running engine. -/
def config? (process : Process) : Option Config :=
  process.boundary.engine.map Engine.config

omit [Wording] in
/-- A call that neither starts nor stops an engine leaves the configuration in force as it is. -/
theorem config_eq_of_moved {boundary after : Boundary} (hmoved : boundary.Moved call reply after)
    (hstarts : call.starts = false) (hstops : call.stops = false) :
    after.engine.map Engine.config = boundary.engine.map Engine.config := by
  cases hmoved with
  | rejected cause output => rfl
  | errand herrand hengine hperformed hdeliver =>
    rw [hengine, Option.map_some, Option.map_some, hperformed.config_eq]
  | started config hcall hengine hfloor =>
    rcases hcall with ⟨environment, rfl⟩ | ⟨text, rfl⟩ <;> cases hstarts
  | stopped hengine => cases hstops
  | idle output herrand hstop => rfl

/-- The configuration in force after a call: none when the engine is stopped, and else the one from
before, or where there was none the one that is asked for with success. -/
theorem config?_of_perform (h : process.boundary.WellFormed)
    (hperform : process.perform id call = .ok (reply, after)) :
    after.config? =
      if call.stops = true then none
      else process.config?.or (if reply.status = .success then call.config? else none) := by
  rcases perform_eq_ok_iff.1 hperform with ⟨thread, hthread, rfl⟩
  rcases perform_moved h id call with ⟨_, _, heq, hmoved⟩
  rw [hthread] at heq
  cases heq
  have hafter : (process.resume id thread).config? = thread.boundary.engine.map Engine.config := rfl
  have hbefore : process.config? = (process.thread id).boundary.engine.map Engine.config := rfl
  rw [hafter, hbefore]
  by_cases hstops : call.stops = true
  · rw [Call.stops_iff.1 hstops] at hthread
    rw [if_pos hstops, (Thread.of_perform_stop hthread).1]
    rfl
  · rw [if_neg hstops]
    by_cases hstarts : call.starts = true
    · by_cases hsuccess : reply.status = .success
      · rcases Thread.of_perform_start hstarts hthread hsuccess with
          ⟨config, hconfig, ⟨engine, hengine, rfl⟩ | ⟨hnone, floor, hengine⟩⟩
        · rw [hengine]
          rfl
        · rw [hengine, hnone, if_pos hsuccess, hconfig]
          rfl
      · rw [hmoved.eq_of_ne_success hsuccess, if_neg hsuccess, Option.or_none]
    · rw [Call.config?_eq_none (by simpa using hstarts), ite_self, Option.or_none]
      exact config_eq_of_moved hmoved (by simpa using hstarts) (by simpa using hstops)

/-- The cart that a handle names. -/
def cart? (process : Process) (handle : Handle) : Option Cart :=
  process.boundary.engine.bind fun engine => engine.carts.cart? handle

/-- The exact change for a cart as a policy has it reported. -/
def exactChange (policy : ChangePolicy) (cart : Cart) : Int :=
  if policy = .clampToZero then max 0 (cart.tendered.value - Cart.exactTotal cart.lines)
  else cart.tendered.value - Cart.exactTotal cart.lines

/-- What a configuration decides about a cart: its quantities are within the ceiling, and whether a
tender is taken and which change is reported is as the policy says, to all threads. -/
structure Governed (process : Process) (config : Config) (handle : Handle) (cart : Cart) :
    Prop where
  quantity_le : ∀ line ∈ cart.lines, ∀ max ∈ config.maxLineQuantity,
    line.quantity.toInt ≤ max.toInt
  tender : ∀ id cents, ∃ reply after,
    process.perform id (.setGiven handle cents) = .ok (reply, after) ∧
      reply.status =
        if cents.toInt < 0 ∨ (config.changePolicy = .rejectInsufficient ∧
          cents.toInt < Cart.exactTotal cart.lines) then .refused .invalidAmount else .success
  change : ∀ id, ∃ amount : Money,
    process.perform id (.change handle .cell) = .ok (⟨.success, .cents amount⟩, process) ∧
      amount.value = exactChange config.changePolicy cart
  lines : ∀ id, ∃ snapshot : Snapshot,
    process.perform id (.lines handle .cell) = .ok (⟨.success, .text snapshot.text⟩, process) ∧
      snapshot.payment.change.value = exactChange config.changePolicy cart

/-- The configuration of the running engine decides about its carts. -/
theorem governed_of_cart? (h : process.boundary.WellFormed) {handle : Handle} {cart : Cart}
    (hcart : process.cart? handle = some cart) :
    ∃ config, process.config? = some config ∧ process.Governed config handle cart := by
  rcases Option.bind_eq_some_iff.1 hcart with ⟨engine, hengine, hcart⟩
  have hwell := h engine hengine
  refine ⟨engine.config, by rw [config?, hengine]; rfl, ?_, ?_, ?_, ?_⟩
  · intro line hline
    exact ((hwell.cart handle cart hcart).allowed line hline).quantity_le
  · intro id cents
    have herrand : (Call.setGiven handle cents).errand? =
        some (.ok ⟨.untouched, .setTendered handle cents⟩) := rfl
    have hrunning : (process.thread id).boundary.engine = some engine := hengine
    rcases Thread.exists_reports hwell hrunning herrand with ⟨reply, after, hperform, hreports⟩
    have hstatus : (Call.setGiven handle cents).StatusOn engine cart reply.status :=
      Call.statusOn_of_reports hwell rfl hcart herrand hreports
    exact ⟨reply, _, perform_eq_ok_iff.2 ⟨after, hperform, rfl⟩, hstatus⟩
  · intro id
    rcases hwell.payment_exact hcart with ⟨payment, hpayment, _, _, hchange⟩
    refine ⟨payment.change, ?_, hchange⟩
    exact perform_of_kept (Thread.perform_figure rfl (fun _ => rfl) hengine hpayment)
  · intro id
    rcases hwell.payment_exact hcart with ⟨payment, hpayment, _, _, hchange⟩
    rcases hwell.exists_snapshot hcart with ⟨snapshot, htext, hpayment', _⟩
    rw [hpayment] at hpayment'
    cases hpayment'
    exact ⟨snapshot, perform_of_kept (Thread.perform_lines hengine htext), hchange⟩

/-! ## Runs -/

/-- Every run has visits, and without some or all of the redundant ones the other calls come to
the same: the replies, the last errors and the process in the end.  The configuration in force is
the one that was asked for first, with success, since an engine was last to be stopped, and it
decides about every live cart. -/
theorem run_under_first_config (calls : List (Nat × Call)) :
    ∃ visits last, run {} calls = .ok (visits, last) ∧ visits.map Visit.request = calls ∧
      (∀ kept, Visit.Pruned visits kept →
        run {} (kept.map Visit.request) = .ok (kept, last)) ∧
      Visit.Pruned visits (visits.filter fun visit => !visit.redundant) ∧
      last.config? = Visit.configInForce visits ∧
      ∀ handle cart, last.cart? handle = some cart →
        ∃ config, Visit.configInForce visits = some config ∧
          last.Governed config handle cart := by
  have hfresh : ({} : Process).boundary.WellFormed := Boundary.Reachable.fresh.wellFormed
  have hnone : ({} : Process).config? = Visit.configInForce [] := rfl
  rcases run_induction
    (motive := fun past process => process.config? = Visit.configInForce past) hfresh hnone (by
      intro past before id call reply after hwell hconfig hperform
      rw [config?_of_perform hwell hperform, Visit.configInForce_concat, hconfig]
      rfl) calls with
    ⟨visits, last, hrun, hcalls, hwell, hconfig⟩
  rw [List.nil_append] at hconfig
  refine ⟨visits, last, hrun, hcalls, fun kept => run_of_pruned hrun, Visit.pruned_filter visits,
    hconfig, ?_⟩
  intro handle cart hcart
  rcases governed_of_cart? hwell hcart with ⟨config, hforce, hgoverned⟩
  exact ⟨config, hconfig ▸ hforce, hgoverned⟩

end Visits

/-- While an engine is running that reports no change below zero, a thread asks in vain for one that
refuses a tender below the total and every quantity above one.  A run without this start and without
a stop in front comes to the same. -/
theorem run_under_first_config_rejecting_too_late :
    let clamping : HostEnvironment := fun name =>
      if name = Environment.policyName then HostText.held "clamp" [] else none
    let rejecting : HostEnvironment := fun name =>
      if name = Environment.policyName then HostText.held "reject" []
      else if name = Environment.ceilingName then HostText.held "1" [] else none
    let items : List Item := [⟨"TEA", "Tea", ⟨400⟩⟩]
    let load : Call := .loadCatalog (.held (Catalog.textOfItems items) [])
    let table : Handle := ⟨1, 0⟩
    let cart : Cart := ⟨[⟨"TEA", "Tea", ⟨400⟩, 2⟩], ⟨500⟩⟩
    let calls : List (Nat × Call) :=
      [(0, .stop), (0, .start clamping), (1, .start rejecting), (1, load), (1, .createCart .cell),
        (0, .addItem table (.held "TEA" []) 2), (0, .setGiven table 500),
        (1, .change table .cell)]
    let others : List (Nat × Call) :=
      [(0, .start clamping), (1, load), (1, .createCart .cell),
        (0, .addItem table (.held "TEA" []) 2), (0, .setGiven table 500),
        (1, .change table .cell)]
    ∃ visits kept last, run {} calls = .ok (visits, last) ∧ Visit.Pruned visits kept ∧
      kept.map Visit.request = others ∧ run {} others = .ok (kept, last) ∧
      kept.map Visit.reply =
        [⟨.success, .untouched⟩, ⟨.success, .untouched⟩, ⟨.success, .handle table⟩,
          ⟨.success, .untouched⟩, ⟨.success, .untouched⟩, ⟨.success, .cents ⟨0⟩⟩] ∧
      last.cart? table = some cart ∧
      Visit.configInForce visits = some ⟨.clampToZero, none⟩ ∧
      last.Governed ⟨.clampToZero, none⟩ table cart := by
  intro clamping rejecting items load table cart calls others
  let config : Config := ⟨.clampToZero, none⟩
  let idle : Boundary := {}
  let serving (catalog : Option Catalog) (carts : Registry) : Boundary :=
    ⟨some ⟨config, catalog, carts⟩, some 1⟩
  let started : Boundary := serving none (.startingAt 1)
  have hconfig : clamping.texts.config = config := by decide +kernel
  rcases Thread.exists_perform_loadCatalog (rfl : (Thread.mk started "").boundary.engine = _) items
    (by decide) (by decide) [] with ⟨catalog, _, hlookup, hload⟩
  have hitem : catalog.lookup "TEA" = .ok ⟨"TEA", "Tea", ⟨400⟩⟩ := hlookup _ List.mem_cons_self
  let holding (cart : Cart) : Boundary := serving (some catalog) ⟨#[⟨1, some cart⟩], [], 1, 1⟩
  let untendered : Cart := ⟨cart.lines, ⟨0⟩⟩
  have hstop : Thread.perform ⟨idle, ""⟩ .stop = .ok (⟨.success, .untouched⟩, ⟨idle, ""⟩) := rfl
  have hstart : Thread.perform ⟨idle, ""⟩ (.start clamping) =
      .ok (⟨.success, .untouched⟩, ⟨started, ""⟩) := by
    rw [Thread.perform, Call.action, hconfig]
    rfl
  have hlate : Thread.perform ⟨started, ""⟩ (.start rejecting) =
      .ok (⟨.success, .untouched⟩, ⟨started, ""⟩) := rfl
  have hcreate : Thread.perform ⟨serving (some catalog) (.startingAt 1), ""⟩ (.createCart .cell) =
      .ok (⟨.success, .handle table⟩, ⟨holding {}, ""⟩) := rfl
  have hadd : Thread.perform ⟨holding {}, ""⟩ (.addItem table (.held "TEA" []) 2) =
      .ok (⟨.success, .untouched⟩, ⟨holding untendered, ""⟩) := by
    have hread : (HostText.held "TEA" []).read "item_id" = .ok "TEA" :=
      HostText.read_held (by decide) [] "item_id"
    have hsold : Cart.addItem {} ⟨"TEA", "Tea", ⟨400⟩⟩ (Int32.toInt64 2) none =
        .ok untendered := by
      decide +kernel
    exact Thread.perform_of_carried_out (Call.errand?_addItem hread) rfl
      (Engine.perform_addItem rfl hitem hsold) rfl
  have htender : Thread.perform ⟨holding untendered, ""⟩ (.setGiven table 500) =
      .ok (⟨.success, .untouched⟩, ⟨holding cart, ""⟩) := rfl
  have hchange : Thread.perform ⟨holding cart, ""⟩ (.change table .cell) =
      .ok (⟨.success, .cents ⟨0⟩⟩, ⟨holding cart, ""⟩) := rfl
  let stop : Visit := ⟨0, .stop, false, ⟨.success, .untouched⟩, ""⟩
  let start : Visit := ⟨0, .start clamping, false, ⟨.success, .untouched⟩, ""⟩
  let late : Visit := ⟨1, .start rejecting, true, ⟨.success, .untouched⟩, ""⟩
  let served : List Visit :=
    [⟨1, load, true, ⟨.success, .untouched⟩, ""⟩,
      ⟨1, .createCart .cell, true, ⟨.success, .handle table⟩, ""⟩,
      ⟨0, .addItem table (.held "TEA" []) 2, true, ⟨.success, .untouched⟩, ""⟩,
      ⟨0, .setGiven table 500, true, ⟨.success, .untouched⟩, ""⟩,
      ⟨1, .change table .cell, true, ⟨.success, .cents ⟨0⟩⟩, ""⟩]
  have hserved : run ⟨started, fun _ => ""⟩ (served.map Visit.request) =
      .ok (served, ⟨holding cart, fun _ => ""⟩) :=
    run_cons_of_kept hload (run_cons_of_kept hcreate (run_cons_of_kept hadd
      (run_cons_of_kept htender (run_cons_of_kept hchange rfl))))
  have hall : run {} calls =
      .ok (stop :: start :: late :: served, ⟨holding cart, fun _ => ""⟩) :=
    run_cons_of_kept hstop (run_cons_of_kept hstart (run_cons_of_kept hlate hserved))
  rcases run_under_first_config calls with
    ⟨visits, last, hrun, _, hpruned, _, _, hgoverned⟩
  rcases Prod.mk.inj (Except.ok.inj (hrun.symm.trans hall)) with ⟨rfl, rfl⟩
  have hkept : Visit.Pruned (stop :: start :: late :: served) (start :: served) :=
    .drop rfl (.keep start (.drop rfl (.refl served)))
  have hforce : Visit.configInForce (stop :: start :: late :: served) = some config := by
    have htaken : (stop :: start :: late :: served).rtakeWhile (fun visit => !visit.call.stops) =
        start :: late :: served := rfl
    have hasked : start.config? = some clamping.texts.config := rfl
    rw [Visit.configInForce, htaken, List.findSome?_cons, hasked, hconfig]
  have hcart : Process.cart? ⟨holding cart, fun _ => ""⟩ table = some cart := rfl
  rcases hgoverned table cart hcart with ⟨inForce, hinForce, hgoverned⟩
  rcases Option.some.inj (hinForce.symm.trans hforce) with rfl
  have hothers : (start :: served).map Visit.request = others := rfl
  have hrunOthers := hpruned _ hkept
  rw [hothers] at hrunOthers
  exact ⟨_, _, _, hrun, hkept, hothers, hrunOthers, rfl, hcart, hforce, hgoverned⟩

end Process

end Till
