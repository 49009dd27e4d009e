import Till.Proofs.Boundary.Failures
import Till.Proofs.Boundary.Handles
import Till.Proofs.Boundary.Replies

/-!
# The order of checks

A call that takes a handle looks at its arguments first, then for a running engine, then for a
cart under the handle, and then at what is asked of this cart.  Its status tells of the first
check that fails, and of success where none does.

Main results:

- Theorem {lit}`Call.usable_iff`: when the arguments of a call are in order.
- Theorem {lit}`Call.statusOn_of_reports`: the status of a call to a live cart.
- Theorem {lit}`Thread.status_by_precedence`: which check a status tells of.
-/

namespace Till

/-! ## Arguments -/

/-- The bytes of a text before the first zero byte are not UTF-8. -/
def HostText.Invalid (text : HostText) : Prop :=
  ∃ bytes, text = some bytes ∧ ¬(ByteArray.mk (content bytes).toArray).IsValidUTF8

/-- A text can be read unless its pointer is null or its bytes are not UTF-8. -/
theorem HostText.exists_read_iff {argument : String} {text : HostText} :
    (∃ read, text.read argument = .ok read) ↔ ¬(text = none ∨ text.Invalid) := by
  cases text with
  | none => simp [read]
  | some bytes =>
    by_cases hvalid : (ByteArray.mk (content bytes).toArray).IsValidUTF8
    · simp [read, decode?, String.fromUTF8?, Invalid, hvalid]
    · simp [read, decode?, String.fromUTF8?, Invalid, hvalid]

namespace Call

/-- A required pointer is null, or the bytes of an id are not UTF-8. -/
def InvalidArgument : Call → Prop
  | addItem _ id _ => id = none ∨ id.Invalid
  | total _ place => place = .null
  | lines _ place => place = .null
  | given _ place => place = .null
  | change _ place => place = .null
  | _ => False

variable {call : Call} {handle : Handle}

/-- The arguments of a call that takes a handle are in order unless one of them is invalid. -/
theorem usable_iff : call.Usable ↔ ¬call.InvalidArgument := by
  cases call with
  | addItem _ id _ => exact HostText.exists_read_iff
  | total _ place | lines _ place | given _ place | change _ place =>
    cases place <;> simp [Usable, InvalidArgument]
  | _ => simp [Usable, InvalidArgument]

/-- A call with an invalid argument is rejected before anything else is looked at. -/
theorem exists_errand?_error (h : call.InvalidArgument) :
    ∃ cause, call.errand? = some (.error cause) := by
  cases call with
  | addItem named id amount =>
    have hread : ¬∃ text, id.read "item_id" = .ok text := by
      rw [HostText.exists_read_iff, not_not]
      exact h
    cases hresult : id.read "item_id" with
    | error cause => exact ⟨cause, by rw [errand?, hresult]; rfl⟩
    | ok text => exact absurd ⟨text, hresult⟩ hread
  | total named place | lines named place | given named place | change named place =>
    cases h
    exact ⟨_, rfl⟩
  | _ => exact h.elim

end Call

/-! ## Calls to a live cart -/

/-- A command to a live cart has the status of its request to the cart. -/
theorem Engine.reports_request_iff {engine : Engine} (h : engine.carts.WellFormed)
    {command : Command} {handle : Handle} {request : Request} {cart : Cart} {status : Status}
    (hrequest : command.request? = some (handle, request))
    (hcart : engine.carts.cart? handle = some cart) :
    (engine.perform command).Reports status ↔
      (request.perform engine.config engine.lookup cart).Reports status := by
  rw [perform_eq_of_request? h hrequest, hcart]
  exact Outcome.reports_bind_iff fun _ => ⟨_, rfl⟩

/-- Removing a line is refused exactly where there is none at the position. -/
theorem Cart.status_of_removeLine {cart : Cart} {index : Int64} {status : Status}
    (h : (cart.removeLine index).Reports status) :
    status = if index.toInt < 0 ∨ cart.lines.length ≤ index.toInt then
      .refused .indexOutOfRange else .success := by
  unfold removeLine at h
  split at h
  · rename_i hindex
    split at h
    · rename_i line hline
      have hlt := (List.getElem?_eq_some_iff.1 hline).1
      rw [if_neg (by omega)]
      exact h
    · rename_i hline
      have hle := List.getElem?_eq_none_iff.1 hline
      rw [if_pos (by omega)]
      exact h
  · rw [if_pos (by omega)]
    exact h

/-- A tender is refused exactly where it is negative or where it has to cover the exact total
and does not. -/
theorem Cart.WellFormed.status_of_setTendered {cart : Cart} {ceiling : Option Int64}
    (h : cart.WellFormed ceiling) {cents : Int64} {policy : ChangePolicy} {status : Status}
    (hreports : (cart.setTendered cents policy).Reports status) :
    status = if cents.toInt < 0 ∨ (policy = .rejectInsufficient ∧
        cents.toInt < exactTotal cart.lines) then
      .refused .invalidAmount else .success := by
  rw [h.setTendered_eq] at hreports
  split at hreports
  · rename_i hnegative
    rw [if_pos (.inl hnegative)]
    exact hreports
  · rename_i hnegative
    split at hreports
    · rename_i hless
      rw [if_pos (.inr hless)]
      exact hreports
    · rename_i hless
      rw [if_neg (not_or.2 ⟨hnegative, hless⟩)]
      exact hreports

namespace Call

/-- The status of a call to a live cart: what comes of adding the item, whether there is a
line at the position, whether the tender is taken, and success for all other calls. -/
def StatusOn (engine : Engine) (cart : Cart) (status : Status) : Call → Prop
  | addItem handle id amount =>
    ∃ text, id.read "item_id" = .ok text ∧
      (engine.addItem handle text amount.toInt64).Reports status
  | removeLine _ index =>
    status = if index.toInt < 0 ∨ cart.lines.length ≤ index.toInt then
      .refused .indexOutOfRange else .success
  | setGiven _ cents =>
    status = if cents.toInt < 0 ∨ (engine.config.changePolicy = .rejectInsufficient ∧
        cents.toInt < Cart.exactTotal cart.lines) then
      .refused .invalidAmount else .success
  | _ => status = .success

variable {call : Call} {errand : Errand} {engine : Engine} {handle : Handle} {cart : Cart}
  {status : Status}

/-- A status that tells of the outcome of an errand to a live cart is as listed. -/
theorem statusOn_of_reports (h : engine.WellFormed) (hhandle : call.handle? = some handle)
    (hcart : engine.carts.cart? handle = some cart)
    (herrand : call.errand? = some (.ok errand))
    (hreports : (engine.perform errand.command).Reports status) :
    call.StatusOn engine cart status := by
  have hwell := h.cart handle cart hcart
  cases call with
  | addItem named id amount =>
    cases hhandle
    rcases map_eq_ok_iff.1 (Option.some.inj herrand) with ⟨text, hread, rfl⟩
    exact ⟨text, hread, (Outcome.reports_bind_iff fun _ => ⟨_, rfl⟩).1 hreports⟩
  | removeLine named index =>
    cases hhandle
    cases herrand
    rw [Engine.reports_request_iff h.carts rfl hcart] at hreports
    have hremove := (Outcome.reports_bind_iff fun _ => ⟨_, rfl⟩).1 hreports
    have hstatus := Cart.status_of_removeLine hremove
    rwa [Int32.toInt_toInt64] at hstatus
  | setGiven named cents =>
    cases hhandle
    cases herrand
    rw [Engine.reports_request_iff h.carts rfl hcart] at hreports
    have htender := (Outcome.reports_bind_iff fun _ => ⟨_, rfl⟩).1 hreports
    exact hwell.status_of_setTendered htender
  | releaseCart named | clearCart named =>
    cases hhandle
    cases herrand
    rw [Engine.reports_request_iff h.carts rfl hcart] at hreports
    exact hreports
  | total named place | given named place | change named place =>
    cases hhandle
    rcases map_eq_ok_iff.1 (Option.some.inj herrand) with ⟨_, _, rfl⟩
    rw [Engine.reports_request_iff h.carts rfl hcart] at hreports
    rcases hwell.payment_exact engine.config.changePolicy with ⟨payment, hpayment, _⟩
    simp only [Request.perform, hpayment] at hreports
    exact hreports
  | lines named place =>
    cases hhandle
    rcases map_eq_ok_iff.1 (Option.some.inj herrand) with ⟨_, _, rfl⟩
    rw [Engine.reports_request_iff h.carts rfl hcart] at hreports
    rcases hwell.snapshot_eq_ok engine.config.changePolicy with ⟨snapshot, hsnapshot⟩
    simp only [Request.perform, hsnapshot] at hreports
    exact hreports
  | _ => cases hhandle

end Call

/-! ## Statuses -/

/-- A call that takes a handle has a reply on every boundary that calls can lead to.  Its status
is that of an invalid argument exactly when a required pointer is null or the bytes of an id
are not UTF-8; otherwise it tells exactly of a missing engine where none is running; otherwise
exactly of an invalid handle where no cart is live under it; and for a live cart it tells of
what comes of the request. -/
theorem Thread.status_by_precedence [Wording] {thread : Thread} (h : thread.boundary.Reachable)
    {call : Call} {handle : Handle} (hhandle : call.handle? = some handle) :
    ∃ reply after, thread.perform call = .ok (reply, after) ∧
      (reply.status = .invalidArgument ↔ call.InvalidArgument) ∧
      (¬call.InvalidArgument →
        (reply.status = .refused .notInitialized ↔ thread.boundary.engine = none) ∧
        ∀ engine, thread.boundary.engine = some engine →
          (reply.status = .refused .invalidHandle ↔ engine.carts.cart? handle = none) ∧
          ∀ cart, engine.carts.cart? handle = some cart →
            call.StatusOn engine cart reply.status) := by
  by_cases hinvalid : call.InvalidArgument
  · rcases Call.exists_errand?_error hinvalid with ⟨cause, herrand⟩
    rw [perform_of_errand? herrand]
    exact ⟨_, _, rfl, iff_of_true (Call.status_of_errand?_eq_error herrand) hinvalid,
      fun hvalid => absurd hinvalid hvalid⟩
  rcases Call.exists_errand hhandle (Call.usable_iff.2 hinvalid) with
    ⟨errand, request, herrand, hrequest⟩
  cases hengine : thread.boundary.engine with
  | none =>
    rw [perform_of_errand? herrand]
    simp only [Call.carryOut, hengine]
    refine ⟨_, _, rfl, iff_of_false (by simp [Rejection.status]) hinvalid, ?_⟩
    intro _
    exact ⟨by simp [Rejection.status, Refusal.kind], by simp⟩
  | some engine =>
    have hwell := h.wellFormed engine hengine
    rcases exists_reports hwell hengine herrand with ⟨reply, after, hperform, hreports⟩
    refine ⟨reply, after, hperform, iff_of_false hreports.ne_invalidArgument hinvalid, ?_⟩
    intro _
    have hrunning := hreports.ne_refused (engine.perform_refusesOnly hwell.carts _)
      errand.command.notMem_kinds.1
    refine ⟨iff_of_false hrunning (by simp), ?_⟩
    intro running heq
    cases heq
    rw [hreports.eq_refused_iff, hwell.perform_invalidHandle_iff hrequest]
    refine ⟨Iff.rfl, ?_⟩
    intro cart hcart
    exact Call.statusOn_of_reports hwell hhandle hcart herrand hreports

/-- Of a null pointer and a made-up handle the pointer is told, of a made-up handle and a negative
tender the handle, and with a live cart the position without a line. -/
theorem Thread.status_by_precedence_faults_at_once :
    let engine : Engine := { config := {}, carts := ⟨#[⟨1, some {}⟩], [], 1, 1⟩ }
    let thread : Thread := ⟨⟨some engine, some 1⟩, ""⟩
    thread.boundary.Reachable ∧
      ((Call.total ⟨9, 9⟩ .null).handle? = some ⟨9, 9⟩ ∧ ∃ reply after,
        thread.perform (.total ⟨9, 9⟩ .null) = .ok (reply, after) ∧
          reply.status = .invalidArgument) ∧
      ((Call.setGiven ⟨9, 9⟩ (-1)).handle? = some ⟨9, 9⟩ ∧ ∃ reply after,
        thread.perform (.setGiven ⟨9, 9⟩ (-1)) = .ok (reply, after) ∧
          reply.status = .refused .invalidHandle) ∧
      (Call.removeLine ⟨1, 0⟩ (-1)).handle? = some ⟨1, 0⟩ ∧ ∃ reply after,
        thread.perform (.removeLine ⟨1, 0⟩ (-1)) = .ok (reply, after) ∧
          reply.status = .refused .indexOutOfRange := by
  intro engine thread
  have hreachable : thread.boundary.Reachable := Boundary.Reachable.created
  refine ⟨hreachable, ⟨rfl, ?_⟩, ⟨rfl, ?_⟩, rfl, ?_⟩
  · have hhandle : (Call.total ⟨9, 9⟩ .null).handle? = some ⟨9, 9⟩ := rfl
    rcases status_by_precedence hreachable hhandle with ⟨reply, after, hperform, hinvalid, _⟩
    exact ⟨reply, after, hperform, hinvalid.2 rfl⟩
  · have hhandle : (Call.setGiven ⟨9, 9⟩ (-1)).handle? = some ⟨9, 9⟩ := rfl
    rcases status_by_precedence hreachable hhandle with ⟨reply, after, hperform, _, hvalid⟩
    have hcart := ((hvalid id).2 engine rfl).1
    exact ⟨reply, after, hperform, hcart.2 (by decide)⟩
  · have hhandle : (Call.removeLine ⟨1, 0⟩ (-1)).handle? = some ⟨1, 0⟩ := rfl
    rcases status_by_precedence hreachable hhandle with ⟨reply, after, hperform, _, hvalid⟩
    exact ⟨reply, after, hperform, ((hvalid id).2 engine rfl).2 {} (by decide)⟩

end Till
