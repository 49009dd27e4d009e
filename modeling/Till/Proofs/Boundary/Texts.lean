import Till.Proofs.Boundary.Failures
import Till.Proofs.Boundary.Loading
import Till.Proofs.Boundary.Queries
import Till.Proofs.Boundary.Replies

/-!
# Texts that are handed out

No call is refused because a text cannot be handed out.  The texts of the catalog and of the
carts reach a host whole, and the text of the catalog can be loaded again.

Main results:

- Theorem {lit}`Thread.status_ne_serializationError`: no text is held back.
- Theorem {lit}`Thread.texts_handed_out_whole`: what it means for the texts of a process.
-/

namespace Till

/-- The text of the catalog in force gives a catalog of the same items. -/
theorem Engine.WellFormed.exists_ofText_catalogText {engine : Engine} (h : engine.WellFormed) :
    ∃ catalog, Catalog.ofText engine.catalogText = .ok catalog ∧
      catalog.toList = (engine.catalog.getD .empty).toList := by
  have hcatalog : (engine.catalog.getD .empty).WellFormed := by
    cases hengine : engine.catalog with
    | none => exact Catalog.wellFormed_empty
    | some catalog => exact h.catalog catalog hengine
  exact hcatalog.exists_ofText_text

/-- The text that tells of the version can be handed out. -/
theorem Call.zeroByte?_versionText : Action.zeroByte? versionText = none := by
  rw [Action.zeroByte?_eq_none_iff]
  decide

namespace Thread

section Texts

variable [Wording] {thread : Thread} {call : Call} {engine : Engine}

/-! ## Calls and their statuses -/

/-- Starting an engine is not refused because a text cannot be handed out. -/
theorem status_startEngine (boundary : Boundary) (config : Config) (lastError : String) :
    ∃ reply after,
      conclude lastError ((Action.startEngine config).on ⟨boundary, .untouched⟩).1
        ((Action.startEngine config).on ⟨boundary, .untouched⟩).2 = .ok (reply, after) ∧
      reply.status ≠ .refused .serializationError := by
  rw [Action.on_startEngine]
  cases boundary.engine with
  | some engine => exact ⟨_, _, rfl, by simp⟩
  | none =>
    cases boundary.floor with
    | none => exact ⟨_, _, rfl, by simp [Rejection.status, Refusal.kind]⟩
    | some floor =>
      dsimp only
      unfold Engine.start
      cases hcheck : config.check with
      | error cause =>
        exact ⟨_, _, rfl, by simp [Rejection.status, Config.kind_of_check_eq_error hcheck]⟩
      | ok _ => exact ⟨_, _, rfl, by simp⟩

/-- No call is refused because a text cannot be handed out. -/
theorem status_ne_serializationError (h : thread.boundary.WellFormed) (call : Call) :
    ∃ reply after, thread.perform call = .ok (reply, after) ∧
      reply.status ≠ .refused .serializationError := by
  cases herrand : call.errand? with
  | some prepared =>
    rcases prepared with cause | errand
    · rw [perform_of_errand? herrand]
      exact ⟨_, _, rfl, by simp [Call.status_of_errand?_eq_error herrand]⟩
    cases hengine : thread.boundary.engine with
    | none =>
      rw [perform_of_errand? herrand]
      simp only [Call.carryOut, hengine]
      exact ⟨_, _, rfl, by simp [Rejection.status, Refusal.kind]⟩
    | some engine =>
      have hwell := h engine hengine
      rcases exists_reports hwell hengine herrand with ⟨reply, after, hperform, hreports⟩
      exact ⟨reply, after, hperform, hreports.ne_refused
        (engine.perform_refusesOnly hwell.carts _) errand.command.notMem_kinds.2⟩
  | none =>
    unfold perform
    cases call with
    | start environment => exact status_startEngine _ _ _
    | startWith config =>
      simp only [Call.action, Action.on_bind, Action.on_readText]
      cases hread : config.read "config_json" with
      | error cause => exact ⟨_, _, rfl, by simp [HostText.status_of_read_eq_error hread]⟩
      | ok text =>
        dsimp only
        cases htext : Config.ofText text with
        | error cause =>
          exact ⟨_, _, rfl, by simp [Rejection.status, Config.kind_of_ofText_eq_error htext]⟩
        | ok config => exact status_startEngine _ _ _
    | stop =>
      simp only [Call.action, h.on_stopEngine]
      cases thread.boundary.engine <;> exact ⟨_, _, rfl, by simp⟩
    | version place =>
      cases place with
      | null => exact ⟨_, _, rfl, by simp [Rejection.status]⟩
      | cell =>
        simp only [Call.action, Action.needTextCell, Action.on_bind, Action.on_needCell_cell,
          Action.on_setOutput, Action.writeText, Call.zeroByte?_versionText]
        exact ⟨_, _, rfl, by simp⟩
    | lastError => exact ⟨_, _, rfl, by simp⟩
    | freeText => exact ⟨_, _, rfl, by simp⟩
    | _ => cases herrand

/-! ## Texts on the way to a host and back -/

/-- The text of the catalog in force is handed out. -/
theorem perform_catalogText (hengine : thread.boundary.engine = some engine) :
    thread.perform (.catalogText .cell) =
      .ok (⟨.success, .text engine.catalogText⟩, thread) := by
  have herrand : (Call.catalogText .cell).errand? = some (.ok ⟨.cleared, .catalogText⟩) := rfl
  apply perform_of_answered herrand hengine rfl
  rw [Call.deliver, Call.textOutput_eq_ok engine.zero_notMem_catalogText]

/-- The text of a live cart is handed out. -/
theorem perform_lines {handle : Handle} {text : String}
    (hengine : thread.boundary.engine = some engine)
    (htext : engine.snapshotText handle = .ok text) :
    thread.perform (.lines handle .cell) = .ok (⟨.success, .text text⟩, thread) := by
  have herrand : (Call.lines handle .cell).errand? =
      some (.ok ⟨.cleared, .snapshotText handle⟩) := rfl
  have hperform : engine.perform (.snapshotText handle) = .ok (.text text, engine) := by
    rw [Engine.perform, htext]
    rfl
  apply perform_of_answered herrand hengine hperform
  rw [Call.deliver, Call.textOutput_eq_ok (Engine.zero_notMem_snapshotText htext)]

/-- The text of the catalog in force is accepted back, whatever is behind its bytes. -/
theorem perform_loadCatalog_catalogText (h : engine.WellFormed)
    (hengine : thread.boundary.engine = some engine) (beyond : List UInt8) :
    ∃ catalog, catalog.toList = (engine.catalog.getD .empty).toList ∧
      thread.perform (.loadCatalog (.held engine.catalogText beyond)) =
        .ok (⟨.success, .untouched⟩,
          { thread with boundary := { thread.boundary with
              engine := some { engine with catalog := some catalog } } }) := by
  have hread : (HostText.held engine.catalogText beyond).read "json" = .ok engine.catalogText :=
    HostText.read_held engine.zero_notMem_catalogText beyond "json"
  rcases h.exists_ofText_catalogText with ⟨catalog, hcatalog, hlist⟩
  refine ⟨catalog, hlist, ?_⟩
  rw [perform_loadCatalog_eq hengine hread, hcatalog]

/-- On every boundary that calls can lead to, no call is refused because a text cannot be
handed out.  With a running engine the text of the catalog is handed out, and the text of
every live cart; neither has a zero byte, so that it ends where its bytes do, whatever is
behind them.  The text of the catalog can be loaded again: it gives a catalog of the same
items.  And the text of a cart presents its lines, in order, with their exact totals, and the
payment for it. -/
theorem texts_handed_out_whole (h : thread.boundary.Reachable) :
    (∀ call, ∃ reply after, thread.perform call = .ok (reply, after) ∧
      reply.status ≠ .refused .serializationError) ∧
    ∀ engine, thread.boundary.engine = some engine →
      (∃ text, text = engine.catalogText ∧
        thread.perform (.catalogText .cell) = .ok (⟨.success, .text text⟩, thread) ∧
        0 ∉ HostText.bytes text ∧ ∀ beyond,
          HostText.content (HostText.bytes text ++ 0 :: beyond) = HostText.bytes text ∧
            ∃ catalog, catalog.toList = (engine.catalog.getD .empty).toList ∧
              thread.perform (.loadCatalog (some (HostText.bytes text ++ 0 :: beyond))) =
                .ok (⟨.success, .untouched⟩,
                  { thread with boundary := { thread.boundary with
                      engine := some { engine with catalog := some catalog } } })) ∧
      ∀ handle cart, engine.carts.cart? handle = some cart →
        ∃ text, engine.snapshotText handle = .ok text ∧
          (∃ snapshot : Snapshot, Json.Value.ofText? text = some snapshot.value ∧
            snapshot.lines.map SnapshotLine.line = cart.lines ∧
            (∀ row ∈ snapshot.lines, row.lineTotal.value = row.line.exactTotal) ∧
            snapshot.payment.total.value = Cart.exactTotal cart.lines ∧
            snapshot.payment.given = cart.tendered ∧
            engine.payment handle = .ok snapshot.payment) ∧
          thread.perform (.lines handle .cell) = .ok (⟨.success, .text text⟩, thread) ∧
          0 ∉ HostText.bytes text ∧ ∀ beyond,
            HostText.content (HostText.bytes text ++ 0 :: beyond) = HostText.bytes text := by
  refine ⟨status_ne_serializationError h.wellFormed, ?_⟩
  intro engine hengine
  have hwell := h.wellFormed engine hengine
  constructor
  · have hplain := engine.zero_notMem_catalogText
    refine ⟨_, rfl, perform_catalogText hengine, ?_, ?_⟩
    · rwa [HostText.zero_mem_bytes_iff]
    · intro beyond
      exact ⟨HostText.content_held hplain beyond,
        perform_loadCatalog_catalogText hwell hengine beyond⟩
  · intro handle cart hcart
    rcases hwell.exists_snapshot hcart with ⟨snapshot, htext, hpayment, hlines, htotals⟩
    rcases hwell.payment_exact hcart with ⟨payment, hpayment', htotal, hgiven, _⟩
    rw [hpayment] at hpayment'
    cases hpayment'
    have hplain := snapshot.zero_notMem_text
    refine ⟨_, htext, ⟨snapshot, snapshot.ofText?_text, hlines, htotals, htotal, hgiven, hpayment⟩,
      perform_lines hengine htext, ?_, HostText.content_held hplain⟩
    rwa [HostText.zero_mem_bytes_iff]

end Texts

/-- A name that is a zero character is loaded, frozen into a line and handed out in both texts,
and neither text ends early. -/
theorem texts_handed_out_whole_zero_in_name :
    let items : List Item := [⟨"TEA", "\x00", ⟨400⟩⟩]
    let lines : List Line := [⟨"TEA", "\x00", ⟨400⟩, 2⟩]
    ∃ catalog,
      let engine : Engine := ⟨{}, some catalog, ⟨#[⟨1, some ⟨lines, ⟨0⟩⟩⟩], [], 1, 1⟩⟩
      let thread : Thread := ⟨⟨some engine, some 1⟩, ""⟩
      catalog.toList = items ∧ thread.boundary.Reachable ∧
        thread.boundary.engine = some engine ∧
        engine.carts.cart? ⟨1, 0⟩ = some ⟨lines, ⟨0⟩⟩ ∧
        (∃ text, thread.perform (.catalogText .cell) = .ok (⟨.success, .text text⟩, thread) ∧
          0 ∉ HostText.bytes text) ∧
        ∃ text snapshot, Json.Value.ofText? text = some (Snapshot.value snapshot) ∧
          snapshot.lines.map SnapshotLine.line = lines ∧
          thread.perform (.lines ⟨1, 0⟩ .cell) = .ok (⟨.success, .text text⟩, thread) ∧
          0 ∉ HostText.bytes text := by
  intro items lines
  let started : Thread := ⟨⟨some (.startingAt {} 1), some 1⟩, ""⟩
  have hengine : started.boundary.engine = some (.startingAt {} 1) := rfl
  rcases exists_perform_loadCatalog hengine items (by decide) (by decide) [] with
    ⟨catalog, hlist, hlookup, hload⟩
  have hitem : catalog.lookup "TEA" = .ok ⟨"TEA", "\x00", ⟨400⟩⟩ :=
    hlookup _ List.mem_cons_self
  refine ⟨catalog, ?_⟩
  intro engine thread
  let holding (carts : Registry) : Thread := ⟨⟨some ⟨{}, some catalog, carts⟩, some 1⟩, ""⟩
  have hcreate : (holding (.startingAt 1)).perform (.createCart .cell) =
      .ok (⟨.success, .handle ⟨1, 0⟩⟩, holding ⟨#[⟨1, some {}⟩], [], 1, 1⟩) := rfl
  have hadd : (holding ⟨#[⟨1, some {}⟩], [], 1, 1⟩).perform
      (.addItem ⟨1, 0⟩ (.held "TEA" []) 2) = .ok (⟨.success, .untouched⟩, thread) := by
    have hread : (HostText.held "TEA" []).read "item_id" = .ok "TEA" :=
      HostText.read_held (by decide) [] "item_id"
    have hsold : Cart.addItem {} ⟨"TEA", "\x00", ⟨400⟩⟩ (Int32.toInt64 2) none =
        .ok ⟨lines, ⟨0⟩⟩ := by
      decide +kernel
    exact perform_of_carried_out (Call.errand?_addItem hread) rfl
      (Engine.perform_addItem rfl hitem hsold) rfl
  have hreachable : thread.boundary.Reachable :=
    .called hadd (.called hcreate (.called hload .started))
  have hcart : engine.carts.cart? ⟨1, 0⟩ = some ⟨lines, ⟨0⟩⟩ := rfl
  rcases (texts_handed_out_whole hreachable).2 engine rfl with
    ⟨⟨text, _, hexport, hbytes, _⟩, hcarts⟩
  rcases hcarts _ _ hcart with ⟨shown, _, ⟨snapshot, hvalue, hlines, _⟩, hshown, hplain, _⟩
  exact ⟨hlist, hreachable, rfl, hcart, ⟨text, hexport, hbytes⟩, shown, snapshot, hvalue, hlines,
    hshown, hplain⟩

end Thread
end Till
