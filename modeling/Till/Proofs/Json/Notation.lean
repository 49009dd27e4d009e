import Till.Proofs.Json.Numerals
import Till.Proofs.Json.Strings
import Till.Text.Blank

/-!
# Texts of the JSON grammar

The grammar says which texts present which values, and leaves all else open: white space around
every part, the way in which each string is spelled, the depth to which values are nested, and
members that come up more than once.  A string of the grammar has no text when a surrogate stands
alone in it.  All texts of the grammar are read as the values that they present.

Main results:

- Theorem {lit}`Presents.compactArray`, {lit}`Presents.compactObject`: compact texts are among them.
- Theorem {lit}`Presents.standsFor`: what presents a value stands for its tokens.
- Theorem {lit}`Shows.ofText?_eq_some`: a text that shows a value is read as this value.
-/

namespace Till
namespace Json

/-! ## White space -/

/-- White space of any length. -/
def IsSpaces (cs : List Char) : Prop :=
  ∀ c ∈ cs, c ∈ [' ', '\t', '\n', '\r']

/-- Characters with white space around them. -/
structure Padded where
  before : List Char
  row : List Char
  after : List Char
  before_spaces : IsSpaces before
  after_spaces : IsSpaces after

/-- The characters together with the white space. -/
def Padded.text (padded : Padded) : List Char :=
  padded.before ++ (padded.row ++ padded.after)

/-- Characters with no white space around them. -/
def Padded.bare (row : List Char) : Padded :=
  ⟨[], row, [], nofun, nofun⟩

@[simp]
theorem Padded.text_bare (row : List Char) : (bare row).text = row := by
  rw [bare, text, List.nil_append, List.append_nil]

/-! ## Values -/

/-- Characters between quotes. -/
def quote (body : List Char) : List Char :=
  '"' :: (body ++ ['"'])

/-- An element of an array as it is shown. -/
structure Element where
  shown : Padded
  value : Value

/-- A member of an object as it is shown. -/
structure Member where
  key : Padded
  name : Option String
  shown : Padded
  value : Value

/-- The characters of a member. -/
def Member.text (member : Member) : List Char :=
  member.key.text ++ ':' :: member.shown.text

/-- An array of elements, between brackets. -/
def arrayText (elements : List Element) : List Char :=
  '[' :: ([','].intercalate (elements.map fun element => element.shown.text) ++ [']'])

/-- An object of members, between braces. -/
def objectText (members : List Member) : List Char :=
  '\x7b' :: ([','].intercalate (members.map Member.text) ++ ['\x7d'])

/-- The characters present the value, with no white space in front of it or behind it. -/
inductive Presents : List Char → Value → Prop where
  | null : Presents ['n', 'u', 'l', 'l'] .null
  | boolTrue : Presents ['t', 'r', 'u', 'e'] (.bool true)
  | boolFalse : Presents ['f', 'a', 'l', 's', 'e'] (.bool false)
  | number {literal : List Char} (h : Number.IsLiteral literal) :
      Presents literal (.number literal)
  | string {body : List Char} {text : String} (h : Spelled body text.toList) :
      Presents (quote body) (.string (some text))
  /-- A surrogate stands alone. -/
  | torn {body : List Char} (h : IsBody body) (htext : ∀ text, ¬Spelled body text) :
      Presents (quote body) (.string none)
  | emptyArray {inside : List Char} (h : IsSpaces inside) :
      Presents ('[' :: (inside ++ [']'])) (.array [])
  | array {elements : List Element}
      (h : ∀ element ∈ elements, Presents element.shown.row element.value) :
      Presents (arrayText elements) (.array (elements.map Element.value))
  | emptyObject {inside : List Char} (h : IsSpaces inside) :
      Presents ('\x7b' :: (inside ++ ['\x7d'])) (.object [])
  | object {members : List Member}
      (hkeys : ∀ member ∈ members, Presents member.key.row (.string member.name))
      (h : ∀ member ∈ members, Presents member.shown.row member.value) :
      Presents (objectText members)
        (.object (members.map fun member => (member.name, member.value)))

/-- A text shows a value, with white space in front of it and behind it. -/
def Shows (text : String) (value : Value) : Prop :=
  ∃ padded : Padded, text.toList = padded.text ∧ Presents padded.row value

/-- A surrogate alone is presented as a string without a text. -/
theorem Presents.surrogate {row : List Char} {n : Nat} (h : EscapesUnit row n)
    (hn : 0xD800 ≤ n ∧ n ≤ 0xDFFF) : Presents (quote row) (.string none) := by
  refine .torn ?_ fun _ => h.not_spelled hn
  rw [← List.append_nil row]
  exact .unit h .nil

/-- A text with no white space around it shows what its characters present. -/
theorem Shows.bare {text : String} {row : List Char} {value : Value} (h : Presents row value)
    (htext : text = String.ofList row) : Shows text value := by
  refine ⟨.bare row, ?_, h⟩
  rw [htext, String.toList_ofList, Padded.text_bare]

/-! ## Compact texts -/

/-- A written string presents the string. -/
theorem Presents.compactString (text : String) :
    Presents (Compact.string text) (.string (some text)) := by
  rcases Compact.exists_spells text.toList with ⟨pieces, hspells, hdecode⟩
  rw [String.ofList_toList] at hdecode
  exact .string (hspells.spelled hdecode)

/-- A written array presents the array of what its elements present. -/
theorem Presents.compactArray {written : List (List Char)} {values : List Value}
    (h : List.Forall₂ Presents written values) :
    Presents (Compact.array written) (.array values) := by
  have helements : ∃ elements : List Element,
      elements.map (fun element => element.shown.text) = written ∧
        elements.map Element.value = values ∧
          ∀ element ∈ elements, Presents element.shown.row element.value := by
    induction h with
    | nil => exact ⟨[], rfl, rfl, nofun⟩
    | @cons row value _ _ hrow _ ih =>
      rcases ih with ⟨elements, rfl, rfl, hall⟩
      refine ⟨⟨.bare row, value⟩ :: elements, ?_, rfl, List.forall_mem_cons.2 ⟨hrow, hall⟩⟩
      rw [List.map_cons, Padded.text_bare]
  rcases helements with ⟨elements, rfl, rfl, hall⟩
  exact .array hall

/-- A written object presents the object of what its members present. -/
theorem Presents.compactObject {written : List (String × List Char)}
    {members : List (Option String × Value)}
    (h : List.Forall₂ (fun row (member : Option String × Value) =>
      member.1 = some row.1 ∧ Presents row.2 member.2) written members) :
    Presents (Compact.object written) (.object members) := by
  have hmembers : ∃ shown : List Member,
      shown.map Member.text = written.map (fun row => Compact.member row.1 row.2) ∧
        shown.map (fun member => (member.name, member.value)) = members ∧
          (∀ member ∈ shown, Presents member.key.row (.string member.name)) ∧
            ∀ member ∈ shown, Presents member.shown.row member.value := by
    induction h with
    | nil => exact ⟨[], rfl, rfl, nofun, nofun⟩
    | @cons row member _ _ hrow _ ih =>
      rcases ih with ⟨shown, htext, rfl, hkeys, hall⟩
      rcases row with ⟨key, row⟩
      rcases member with ⟨_, value⟩
      rcases hrow with ⟨rfl, hrow⟩
      refine ⟨⟨.bare (Compact.string key), some key, .bare row, value⟩ :: shown, ?_, rfl,
        List.forall_mem_cons.2 ⟨.compactString key, hkeys⟩, List.forall_mem_cons.2 ⟨hrow, hall⟩⟩
      rw [List.map_cons, List.map_cons, htext, Member.text, Padded.text_bare, Padded.text_bare]
      rfl
  rcases hmembers with ⟨shown, htext, rfl, hkeys, hall⟩
  have hobject := Presents.object hkeys hall
  rw [objectText, htext] at hobject
  exact hobject

/-! ## Reading -/

/-- White space in front of other characters stands for no token. -/
theorem IsSpaces.lexes {spaces : List Char} (h : IsSpaces spaces) (rest : List Char) :
    Lexes (spaces ++ rest) [] rest := by
  induction spaces with
  | nil => exact .done
  | cons c spaces ih =>
    refine .space ?_ (ih fun d hd => h d (List.mem_cons_of_mem _ hd))
    have hc := h c List.mem_cons_self
    simp only [List.mem_cons, List.not_mem_nil, or_false] at hc
    rcases hc with rfl | rfl | rfl | rfl <;> rfl

/-- No number literal goes on into white space. -/
theorem IsSpaces.ends {spaces rest : List Char} (h : IsSpaces spaces) (hrest : Number.Ends rest) :
    Number.Ends (spaces ++ rest) := by
  cases spaces with
  | nil => exact hrest
  | cons c spaces =>
    apply Number.ends_cons
    have hc := h c List.mem_cons_self
    simp only [List.mem_cons, List.not_mem_nil, or_false] at hc
    rcases hc with rfl | rfl | rfl | rfl <;> rfl

namespace Compact.StandsFor

/-- White space around a value stands for no token. -/
theorem padded {padded : Padded} {tokens : List Token} (h : StandsFor padded.row tokens) :
    StandsFor padded.text tokens := by
  intro rest hends
  have hafter := (h _ (padded.after_spaces.ends hends)).append (padded.after_spaces.lexes rest)
  have hbefore := (padded.before_spaces.lexes _).append hafter
  simpa [Padded.text] using hbefore

/-- White space between marks stands for no token. -/
theorem spaces {openMark closeMark : Char} {openToken closeToken : Token} {inside : List Char}
    (hopen : Token.ofMark? openMark = some openToken)
    (hclose : Token.ofMark? closeMark = some closeToken) (h : IsSpaces inside) :
    StandsFor (openMark :: (inside ++ [closeMark])) [openToken, closeToken] := by
  intro rest _
  have hmark : Lexes (closeMark :: rest) [closeToken] rest := .mark hclose .done
  have hinside := (h.lexes (closeMark :: rest)).append hmark
  rw [List.cons_append, List.append_assoc]
  exact .mark hopen hinside

end Compact.StandsFor

/-- What presents a value stands for its tokens. -/
theorem Presents.standsFor {cs : List Char} {value : Value} (h : Presents cs value) :
    Compact.StandsFor cs value.tokens := by
  induction h with
  | null => exact .null
  | boolTrue => exact .word (rfl : Token.ofInitial? 't' = some (['r', 'u', 'e'], .bool true))
  | boolFalse => exact .word (rfl : Token.ofInitial? 'f' = some (['a', 'l', 's', 'e'], .bool false))
  | number h => exact .number h.isNumber
  | @string body text h =>
    rcases h.exists_spells with ⟨pieces, hspells, hdecode⟩
    rw [String.ofList_toList] at hdecode
    rw [← hdecode]
    exact .quoted hspells
  | torn h htext =>
    rcases h.exists_spells with ⟨pieces, hspells⟩
    have hnone : Piece.decode pieces = none := by
      rw [Option.eq_none_iff_forall_ne_some]
      intro text hdecode
      exact htext _ (hspells.spelled hdecode)
    rw [← hnone]
    exact .quoted hspells
  | emptyArray h => exact .spaces rfl rfl h
  | array _ ih =>
    apply Compact.StandsFor.array
    rw [List.forall₂_map_left_iff, List.forall₂_map_right_iff, List.forall₂_same]
    intro element helement
    exact (ih element helement).padded
  | emptyObject h => exact .spaces rfl rfl h
  | object _ _ ihkeys ih =>
    apply Compact.StandsFor.braces
    rw [List.forall₂_map_left_iff, List.forall₂_map_right_iff, List.forall₂_same]
    intro member hmember
    exact .colon (ihkeys member hmember).padded (ih member hmember).padded

/-- A text that shows a value is read as this value. -/
theorem Shows.ofText?_eq_some {text : String} {value : Value} (h : Shows text value) :
    Value.ofText? text = some value := by
  rcases h with ⟨padded, htext, hpresents⟩
  apply Value.ofText?_of_lexes
  rw [htext]
  exact hpresents.standsFor.padded.lexes

/-- What presents a value begins with a character that is not blank. -/
theorem Presents.exists_not_blank {cs : List Char} {value : Value} (h : Presents cs value) :
    ∃ c ∈ cs, Blank.isBlank c = false := by
  cases h with
  | number h =>
    rcases Number.opens_of_isNumber h.isNumber with ⟨c, rest, rfl, hopens, _⟩
    refine ⟨c, List.mem_cons_self, ?_⟩
    simp only [Number.opensNumber, Bool.or_eq_true, beq_iff_eq] at hopens
    rcases hopens with hdigit | rfl
    · have hcode := Decimal.toNat_of_isDigit hdigit
      simp only [Blank.isBlank, Blank.ranges, List.any_cons, List.any_nil, Bool.or_false,
        Bool.or_eq_false_iff, Bool.and_eq_false_iff, decide_eq_false_iff_not]
      omega
    · rfl
  | _ => exact ⟨_, List.mem_cons_self, rfl⟩

/-- A text that shows a value is not blank. -/
theorem Shows.allBlank_eq_false {text : String} {value : Value} (h : Shows text value) :
    Blank.allBlank text = false := by
  rcases h with ⟨padded, htext, hpresents⟩
  rcases hpresents.exists_not_blank with ⟨c, hc, hblank⟩
  rw [Blank.allBlank, List.all_eq_false]
  refine ⟨c, ?_, by simp [hblank]⟩
  rw [htext]
  exact List.mem_append_right _ (List.mem_append_left _ hc)

end Json
end Till
