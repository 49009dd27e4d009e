import Till.Proofs.Engine.WellFormed

/-!
# Catalogs written and read back

The text of a catalog presents the items of the catalog.  As these are allowed ones with
different ids, reading the text builds the same catalog again.

Main results:

- Theorem {lit}`Catalog.Built.ofText_text`: a catalog is read back from its text.
- Theorem {lit}`Catalog.text_round_trip`: a catalog is read back from its text, and an
  engine that loads the text of its catalog is unchanged.
-/

namespace Till

namespace Catalog

/-- The catalog was read from a text or built from items. -/
def Built (catalog : Catalog) : Prop :=
  (∃ text, ofText text = .ok catalog) ∨ ∃ items, ofItems items = .ok catalog

variable {catalog : Catalog}

/-- A catalog is built from the items that it has. -/
theorem Built.ofItems_toList (h : catalog.Built) : ofItems catalog.toList = .ok catalog := by
  have hitems : ∃ items, ofItems items = .ok catalog := by
    rcases h with ⟨text, htext⟩ | hitems
    · unfold ofText at htext
      split at htext
      · cases htext
      · split at htext
        · cases htext
        · exact ⟨_, htext⟩
    · exact hitems
  rcases hitems with ⟨items, hitems⟩
  rw [(wellFormed_of_ofItems hitems).2]
  exact hitems

/-- A catalog is read back from its text. -/
theorem Built.ofText_text (h : catalog.Built) : ofText catalog.text = .ok catalog := by
  rw [text, ofText_textOfItems, h.ofItems_toList]

end Catalog

namespace Engine

variable {engine : Engine} {catalog : Catalog}

/-- The catalog of an engine stays one that was built when a command is carried out. -/
theorem built_of_step (hcarts : engine.carts.WellFormed)
    (h : ∀ catalog, engine.catalog = some catalog → catalog.Built) (command : Command) :
    ∀ catalog, (engine.step command).2.catalog = some catalog → catalog.Built := by
  rcases step_cases engine command with ⟨answer, after, hperform, hstep⟩ | ⟨_, _, hstep⟩
  · rw [hstep]
    cases (perform_eq_ok_iff hcarts).1 hperform with
    | load hcatalog =>
      intro catalog heq
      cases heq
      exact .inl ⟨_, hcatalog⟩
    | text => exact h
    | create _ => exact h
    | request _ _ _ => exact h
    | reset _ =>
      intro catalog heq
      cases heq
  · rw [hstep]
    exact h

/-- The catalog in force is one that was built. -/
theorem Reachable.built (h : engine.Reachable) (hcatalog : engine.catalog = some catalog) :
    catalog.Built := by
  rcases h with ⟨config, generation, commands, rfl⟩
  have hboth := run_induction
    (motive := fun _ after => after.WellFormed ∧
      ∀ catalog, after.catalog = some catalog → catalog.Built)
    ⟨wellFormed_startingAt config generation, by
      intro catalog heq
      cases heq⟩
    (fun _ before command hbefore =>
      ⟨hbefore.1.step command, built_of_step hbefore.1.carts hbefore.2 command⟩) commands
  exact hboth.2 catalog hcatalog

end Engine

namespace Catalog

/-- A catalog that was read from a text or built from items is read back from its own text:
with the same items in the same order, the same answer to every lookup, and the same text
when it is written again.  So an engine with a catalog in force that loads its own catalog
text succeeds and is unchanged. -/
theorem text_round_trip :
    (∀ catalog : Catalog, catalog.Built →
      ∃ back, ofText catalog.text = .ok back ∧ back.toList = catalog.toList ∧
        (∀ id, back.lookup id = catalog.lookup id) ∧ back.text = catalog.text) ∧
    ∀ (engine : Engine) (catalog : Catalog), engine.Reachable →
      engine.catalog = some catalog →
        engine.loadCatalog engine.catalogText = .ok (catalog.size, engine) := by
  constructor
  · intro catalog h
    exact ⟨catalog, h.ofText_text, rfl, fun _ => rfl, rfl⟩
  · intro engine catalog hreachable hcatalog
    have htext : engine.catalogText = catalog.text := by
      rw [Engine.catalogText, hcatalog]
      rfl
    rw [Engine.loadCatalog, htext, (hreachable.built hcatalog).ofText_text]
    rcases engine with ⟨config, _, carts⟩
    cases hcatalog
    rfl

/-- Ids and names with quotes, backslashes, control characters, zero characters and
characters beyond the first plane are read back, as is the greatest price. -/
theorem text_round_trip_any_character :
    let items : List Item :=
      [⟨"\"\\\x00\x1f\n", "𝄞 é/\x7f", ⟨9223372036854775807⟩⟩, ⟨"\x00", "\t", ⟨0⟩⟩]
    ∃ catalog back, ofItems items = .ok catalog ∧ ofText catalog.text = .ok back ∧
      back.toList = items ∧ back.text = catalog.text ∧
      ((Engine.startingAt {} 1).run [.loadCatalog catalog.text]).2.catalog = some back ∧
      ((Engine.startingAt {} 1).run [.loadCatalog catalog.text]).2.loadCatalog back.text =
        .ok (2, ((Engine.startingAt {} 1).run [.loadCatalog catalog.text]).2) := by
  intro items
  have hcheck : ∀ item ∈ items, item.check = .ok () := by decide
  have hids : (items.map Item.id).Nodup := by decide
  rcases wellFormed_empty.exists_foldlM_add hcheck hids with ⟨catalog, hcatalog⟩
  have hlist := (wellFormed_of_ofItems hcatalog).2
  rcases text_round_trip.1 catalog (.inr ⟨items, hcatalog⟩) with
    ⟨back, hback, hitems, _, htext⟩
  have hforce : ((Engine.startingAt {} 1).run [.loadCatalog catalog.text]).2 =
      ⟨{}, some back, .startingAt 1⟩ := by
    simp only [Engine.run, Engine.step, Engine.perform, Engine.loadCatalog, hback]
    rfl
  have hload := text_round_trip.2 ⟨{}, some back, .startingAt 1⟩ back
    ⟨{}, 1, [.loadCatalog catalog.text], hforce.symm⟩ rfl
  have hsize : back.size = 2 := by
    rw [size, ← Array.length_toList]
    change back.toList.length = 2
    rw [hitems, hlist]
    rfl
  refine ⟨catalog, back, hcatalog, hback, hitems.trans hlist, htext, ?_, ?_⟩
  · rw [hforce]
  · rw [hforce, ← hsize]
    exact hload

end Catalog
end Till
