import Till.Proofs.Boundary.Errand
import Till.Proofs.Boundary.HostText
import Till.Proofs.Catalog.Text
import Till.Proofs.Engine.Request

/-!
# Catalogs that hosts load

A catalog reaches an engine as a text that a host holds.  Items that keep the rules and have ids of
their own have such a text, and it comes into force whole, as no character of it is a zero.  A text
of which no catalog is made leaves the one in force.

Main results:

- Theorem {lit}`Thread.perform_loadCatalog_eq`: what comes of a catalog that a host loads.
- Theorem {lit}`Thread.exists_perform_loadCatalog`: items of which a catalog is made are loaded.
-/

namespace Till

/-- The text of items has no zero character. -/
theorem Catalog.zero_notMem_textOfItems (items : List Item) :
    '\x00' ∉ (textOfItems items).toList :=
  (lexes_textOfItems items).zero_notMem List.not_mem_nil

namespace Thread

variable [Wording] {thread : Thread} {engine : Engine}

/-- A text that a running engine is given becomes its catalog, or it is refused for what is wrong
with it. -/
theorem perform_loadCatalog_eq (hengine : thread.boundary.engine = some engine) {text : HostText}
    {content : String} (hread : text.read "json" = .ok content) :
    thread.perform (.loadCatalog text) =
      match Catalog.ofText content with
      | .ok catalog => .ok (⟨.success, .untouched⟩,
          { thread with boundary := { thread.boundary with
              engine := some { engine with catalog := some catalog } } })
      | .error cause => .ok (⟨.refused cause.kind, .untouched⟩,
          { thread with lastError := recorded cause.message }) := by
  have herrand := Call.errand?_loadCatalog hread
  cases hcatalog : Catalog.ofText content with
  | ok catalog =>
    exact perform_of_carried_out herrand hengine (Engine.perform_loadCatalog hcatalog) rfl
  | error cause =>
    have hperform : engine.perform (.loadCatalog content) = .error (.refused cause) := by
      rw [Engine.perform, Engine.loadCatalog, hcatalog]
      rfl
    exact perform_of_refused herrand hengine hperform

/-- Items that keep the rules and have ids of their own come into force. -/
theorem exists_perform_loadCatalog (hengine : thread.boundary.engine = some engine)
    (items : List Item) (hcheck : ∀ item ∈ items, item.check = .ok ())
    (hids : (items.map Item.id).Nodup) (beyond : List UInt8) :
    ∃ catalog, catalog.toList = items ∧ (∀ item ∈ items, catalog.lookup item.id = .ok item) ∧
      thread.perform (.loadCatalog (.held (Catalog.textOfItems items) beyond)) =
        .ok (⟨.success, .untouched⟩,
          { thread with boundary := { thread.boundary with
              engine := some { engine with catalog := some catalog } } }) := by
  rcases Catalog.exists_ofText_textOfItems items hcheck hids with
    ⟨catalog, hcatalog, hlist, hlookup⟩
  have hread : (HostText.held (Catalog.textOfItems items) beyond).read "json" =
      .ok (Catalog.textOfItems items) :=
    HostText.read_held (Catalog.zero_notMem_textOfItems items) beyond "json"
  refine ⟨catalog, hlist, hlookup, ?_⟩
  rw [perform_loadCatalog_eq hengine hread, hcatalog]

end Thread
end Till
