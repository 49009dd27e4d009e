import Till.Proofs.Engine.WellFormed

/-!
# Kinds of refusals

Each command is refused for a few kinds of reasons only: the text of a catalog for what it
says, the creation of a cart for lack of room, and a command to a cart for its handle or for
what it asks of the cart.

Main results:

- Theorem {lit}`Request.perform_refusesOnly`: what a cart refuses a request for.
- Theorem {lit}`Catalog.kind_of_ofText_eq_error`: what the text of a catalog is refused for.
- Theorem {lit}`Config.ofText_eq_error_iff`: what the text of a configuration is refused for.
- Theorem {lit}`Engine.perform_refusesOnly`: what an engine refuses a command for.
- Theorem {lit}`Engine.perform_eq_malformedInput_iff`: what an engine refuses as malformed.
-/

namespace Till

/-! ## Requests -/

namespace Cart

variable {cart : Cart} {ceiling : Option Int64}

/-- A quantity is refused as a quantity. -/
theorem checkQuantity_refusesOnly {amount : Int64} :
    (checkQuantity amount ceiling).RefusesOnly [.invalidQuantity] := by
  unfold checkQuantity
  cases Rules.quantity amount ceiling with
  | error rule => simp [Refusal.kind]
  | ok _ => simp

/-- Adding an item is refused for its quantity. -/
theorem addItem_refusesOnly {item : Item} {amount : Int64} :
    (cart.addItem item amount ceiling).RefusesOnly [.invalidQuantity] := by
  have hline : (cart.mergedLine item amount ceiling).RefusesOnly [.invalidQuantity] := by
    unfold mergedLine
    cases cart.line? item.id with
    | none => simp
    | some old =>
      dsimp only
      cases Bounded.ofInt? (old.quantity.toInt + amount.toInt) with
      | none => simp [quantityTooLarge, Refusal.kind]
      | some merged => exact checkQuantity_refusesOnly.bind fun _ => Outcome.refusesOnly_ok
  apply checkQuantity_refusesOnly.bind
  intro _
  apply hline.bind
  intro line
  apply Outcome.refusesOnly_ofFaulting.bind
  intro total
  cases total with
  | none => simp [quantityTooLarge, Refusal.kind]
  | some total => exact Outcome.refusesOnly_ok

/-- Removing a line is refused for its position. -/
theorem removeLine_refusesOnly {index : Int64} :
    (cart.removeLine index).RefusesOnly [.indexOutOfRange] := by
  unfold removeLine
  split
  · cases cart.lines[index.toInt.toNat]? with
    | none => simp [Refusal.kind]
    | some line => simp
  · simp [Refusal.kind]

/-- Setting a tender is refused for its amount. -/
theorem setTendered_refusesOnly {cents : Int64} {policy : ChangePolicy} :
    (cart.setTendered cents policy).RefusesOnly [.invalidAmount] := by
  unfold setTendered
  cases Rules.tendered cents with
  | error rule => simp [Refusal.kind]
  | ok _ =>
    cases policy with
    | report => simp
    | clampToZero => simp
    | rejectInsufficient =>
      apply Outcome.refusesOnly_ofFaulting.bind
      intro total
      split
      · simp [Refusal.kind]
      · exact Outcome.refusesOnly_ok

end Cart

namespace Request

/-- The kinds of the refusals of a request. -/
def kinds : Request → List Kind
  | release => []
  | addItem _ _ => [.invalidQuantity, .catalogNotLoaded, .itemNotFound]
  | removeLine _ => [.indexOutOfRange]
  | clear => []
  | setTendered _ => [.invalidAmount]
  | payment => []
  | snapshotText => []

/-- No request is refused for its handle. -/
theorem invalidHandle_notMem_kinds (request : Request) : .invalidHandle ∉ request.kinds := by
  cases request <;> simp [kinds]

/-- A request to a cart is refused for its own kinds of reasons only. -/
theorem perform_refusesOnly {config : Config} {lookup : String → Outcome Item} {cart : Cart}
    (request : Request)
    (hlookup : ∀ id, (lookup id).RefusesOnly [.catalogNotLoaded, .itemNotFound]) :
    (request.perform config lookup cart).RefusesOnly request.kinds := by
  cases request with
  | release => exact Outcome.refusesOnly_ok
  | clear => exact Outcome.refusesOnly_ok
  | addItem id amount =>
    apply (Cart.checkQuantity_refusesOnly.mono (by simp [kinds])).bind
    intro _
    apply ((hlookup id).mono (by simp [kinds])).bind
    intro item
    exact (Cart.addItem_refusesOnly.mono (by simp [kinds])).bind fun _ => Outcome.refusesOnly_ok
  | removeLine index => exact Cart.removeLine_refusesOnly.bind fun _ => Outcome.refusesOnly_ok
  | setTendered cents =>
    exact Cart.setTendered_refusesOnly.bind fun _ => Outcome.refusesOnly_ok
  | payment => exact Outcome.refusesOnly_ofFaulting.bind fun _ => Outcome.refusesOnly_ok
  | snapshotText => exact Outcome.refusesOnly_ofFaulting.bind fun _ => Outcome.refusesOnly_ok

end Request

/-! ## Catalogs and new carts -/

/-- Items that cannot be added to a catalog are refused as items. -/
theorem Catalog.kind_of_foldlM_add_eq_error {items : List Item} {catalog : Catalog}
    {cause : Refusal} (h : items.foldlM add catalog = .error cause) :
    cause.kind = .invalidItem := by
  induction items generalizing catalog with
  | nil => cases h
  | cons item rest ih =>
    rw [List.foldlM_cons, bind_eq_error_iff] at h
    rcases h with hadd | ⟨next, _, hrest⟩
    · unfold add at hadd
      split at hadd
      · cases hadd
        rfl
      · split at hadd
        · cases hadd
          rfl
        · cases hadd
    · exact ih hrest

/-- The text of a catalog is refused for what it says or for an item. -/
theorem Catalog.kind_of_ofText_eq_error {text : String} {cause : Refusal}
    (h : ofText text = .error cause) : cause.kind ∈ [Kind.malformedInput, Kind.invalidItem] := by
  unfold ofText at h
  split at h
  · cases h
    simp [Refusal.kind]
  · split at h
    · cases h
      simp [Refusal.kind]
    · rw [kind_of_foldlM_add_eq_error h]
      simp

/-- What is wrong with the text of a catalog itself: it is blank, or else it presents no items. -/
def Catalog.Malformed (text : String) (cause : Malformation) : Prop :=
  (cause = .blankCatalog ∧ Blank.allBlank text = true) ∨
    (cause = .catalogText text ∧ Blank.allBlank text = false ∧ itemsOfText? text = none)

/-- The text of a catalog is refused as malformed for this, and not for its items. -/
theorem Catalog.ofText_eq_malformedInput_iff {text : String} {cause : Malformation} :
    ofText text = .error (.malformedInput cause) ↔ Malformed text cause := by
  unfold ofText Malformed
  cases hblank : Blank.allBlank text with
  | true => simp [eq_comm]
  | false =>
    cases hitems : itemsOfText? text with
    | none => simp [eq_comm]
    | some items =>
      refine iff_of_false ?_ (by simp)
      intro herror
      cases kind_of_foldlM_add_eq_error herror

/-- An id is refused by a catalog for lack of the item. -/
theorem Catalog.lookup_refusesOnly (catalog : Catalog) (id : String) :
    (catalog.lookup id).RefusesOnly [.itemNotFound] := by
  unfold lookup
  cases catalog.positions[id]? with
  | none => simp [Refusal.kind]
  | some position =>
    dsimp only
    cases catalog.items[position]? with
    | none =>
      intro cause h
      cases h
    | some item => simp

/-- What a configuration is refused for. -/
theorem Config.kind_of_check_eq_error {config : Config} {cause : Refusal}
    (h : config.check = .error cause) : cause.kind = .malformedInput := by
  unfold check at h
  split at h
  · cases h
  · split at h
    · cases h
      rfl
    · cases h

/-- What is wrong with the text of a configuration: it presents none, or one whose ceiling allows no
quantity at all. -/
theorem Config.ofText_eq_error_iff {text : String} {cause : Refusal} :
    ofText text = .error cause ↔
      ((Json.Value.ofText? text).bind ofValue? = none ∧
          cause = .malformedInput (.configText text)) ∨
        ∃ config max, (Json.Value.ofText? text).bind ofValue? = some config ∧
          config.maxLineQuantity = some max ∧ max < 1 ∧
          cause = .malformedInput .ceilingNotPositive := by
  unfold ofText
  cases (Json.Value.ofText? text).bind ofValue? with
  | none => simp [eq_comm]
  | some config =>
    rcases config with ⟨policy, _ | max⟩
    · simp [check]
    · by_cases hmax : max < 1
      · simp [check, hmax, eq_comm]
      · simp [check, hmax]

/-- The text of a configuration is refused for what it says. -/
theorem Config.kind_of_ofText_eq_error {text : String} {cause : Refusal}
    (h : ofText text = .error cause) : cause.kind = .malformedInput := by
  rcases ofText_eq_error_iff.1 h with ⟨_, rfl⟩ | ⟨_, _, _, _, _, rfl⟩
  · rfl
  · rfl

/-- The creation of a cart is refused for lack of room. -/
theorem Registry.create_refusesOnly (registry : Registry) :
    registry.create.RefusesOnly [.allocationFailure] := by
  unfold create
  cases registry.free with
  | nil =>
    dsimp only
    split
    · exact Outcome.refusesOnly_ok
    · simp [Refusal.kind]
  | cons index rest =>
    dsimp only
    cases registry.slot? index with
    | none =>
      intro cause h
      cases h
    | some slot => exact Outcome.refusesOnly_ok

/-! ## Commands -/

namespace Command

/-- The kinds of the refusals of a command. -/
def kinds : Command → List Kind
  | loadCatalog _ => [.malformedInput, .invalidItem]
  | createCart => [.allocationFailure]
  | command => command.request?.elim [] fun named => .invalidHandle :: named.2.kinds

/-- A command to a cart is refused for its handle or for what it asks of the cart. -/
theorem kinds_of_request? {command : Command} {handle : Handle} {request : Request}
    (h : command.request? = some (handle, request)) :
    command.kinds = .invalidHandle :: request.kinds := by
  cases command with
  | loadCatalog _ | catalogText | createCart | reset => cases h
  | _ =>
    cases h
    rfl

/-- No command is refused for what only a call can be: that no engine is running, or that a
text cannot be handed out. -/
theorem notMem_kinds (command : Command) :
    .notInitialized ∉ command.kinds ∧ .serializationError ∉ command.kinds := by
  cases command <;> simp [kinds, request?, Request.kinds]

end Command

namespace Engine

/-- The item of an id is refused for lack of a catalog or of the item. -/
theorem lookup_refusesOnly (engine : Engine) (id : String) :
    (engine.lookup id).RefusesOnly [.catalogNotLoaded, .itemNotFound] := by
  unfold Engine.lookup
  cases engine.catalog with
  | none => simp [Refusal.kind]
  | some catalog => exact (catalog.lookup_refusesOnly id).mono (by simp)

/-- The text of a catalog that is loaded is refused for what it says or for an item. -/
theorem loadCatalog_refusesOnly (engine : Engine) (text : String) :
    (engine.loadCatalog text).RefusesOnly [.malformedInput, .invalidItem] := by
  unfold loadCatalog
  cases htext : Catalog.ofText text with
  | error cause => exact Outcome.refusesOnly_refuse.2 (Catalog.kind_of_ofText_eq_error htext)
  | ok catalog => exact Outcome.refusesOnly_ok

/-- A command is refused for its own kinds of reasons only. -/
theorem perform_refusesOnly {engine : Engine} (h : engine.carts.WellFormed)
    (command : Command) : (engine.perform command).RefusesOnly command.kinds := by
  cases hrequest : command.request? with
  | some named =>
    rcases named with ⟨handle, request⟩
    rw [perform_eq_of_request? h hrequest, Command.kinds_of_request? hrequest]
    cases engine.carts.cart? handle with
    | none => simp [Refusal.kind]
    | some cart =>
      have honly : (request.perform engine.config engine.lookup cart).RefusesOnly
          request.kinds := request.perform_refusesOnly engine.lookup_refusesOnly
      exact (honly.mono (List.subset_cons_self _ _)).bind fun _ => Outcome.refusesOnly_ok
  | none =>
    rcases request?_eq_none_iff.1 hrequest with ⟨text, rfl⟩ | rfl | rfl | rfl
    · exact (engine.loadCatalog_refusesOnly text).bind fun _ => Outcome.refusesOnly_ok
    · exact Outcome.refusesOnly_ok
    · have hcreate : engine.createCart.RefusesOnly [.allocationFailure] :=
        engine.carts.create_refusesOnly.bind fun _ => Outcome.refusesOnly_ok
      exact hcreate.bind fun _ => Outcome.refusesOnly_ok
    · exact (Outcome.refusesOnly_ofFaulting.bind fun _ => Outcome.refusesOnly_ok).bind
        fun _ => Outcome.refusesOnly_ok

/-- Only the text of a catalog is refused as malformed by an engine. -/
theorem perform_eq_malformedInput_iff {engine : Engine} (h : engine.carts.WellFormed)
    {command : Command} {cause : Malformation} :
    engine.perform command = .error (.refused (.malformedInput cause)) ↔
      ∃ text, command = .loadCatalog text ∧ Catalog.Malformed text cause := by
  constructor
  · intro herror
    have hkind := perform_refusesOnly h command _ herror
    cases command with
    | loadCatalog text =>
      refine ⟨text, rfl, Catalog.ofText_eq_malformedInput_iff.1 ?_⟩
      rw [perform, loadCatalog] at herror
      cases htext : Catalog.ofText text with
      | error refusal =>
        rw [htext] at herror
        cases herror
        rfl
      | ok catalog =>
        rw [htext] at herror
        cases herror
    | _ => simp [Command.kinds, Command.request?, Request.kinds, Refusal.kind] at hkind
  · rintro ⟨text, rfl, hmalformed⟩
    rw [perform, loadCatalog, Catalog.ofText_eq_malformedInput_iff.2 hmalformed]
    rfl

end Engine
end Till
