import Till.Proofs.Json.Notation
import Till.Proofs.Json.Scanning

/-!
# Values and their texts

The machine that reads tokens holds a stack of what is open, and at each point the stack and what is
being read tell all tokens that were read before.  So a row of tokens gives a value only when it is
the row that spells the value.  Together with the tokens of a text this means that a text gives a
value exactly when the grammar says that it shows the value.

Main results:

- Theorem {lit}`Value.Reading.tokens_of_next?`: the tokens that were read are told by what is open.
- Theorem {lit}`Value.ofTokens?_eq_some_iff`: only the tokens of a value give the value.
- Theorem {lit}`Value.recognized`: where the tokens of a value stand, the value is presented.
- Theorem {lit}`Value.ofText?_eq_some_iff`: a text gives a value exactly when it shows it.
-/

namespace Till
namespace Json

/-! ## Values from tokens -/

namespace Value

/-- The tokens of elements that others follow. -/
def elementTokensBefore (before : List Value) : List Token :=
  before.flatMap fun element => element.tokens ++ [.comma]

/-- The tokens of members that others follow. -/
def memberTokensBefore (before : List (Option String × Value)) : List Token :=
  before.flatMap fun member => tokensOfMember member ++ [.comma]

/-- The tokens of elements up to the last one. -/
theorem elementTokens_append (before : List Value) (last : Value) :
    elementTokens (before ++ [last]) = elementTokensBefore before ++ last.tokens := by
  induction before with
  | nil => rfl
  | cons first before ih =>
    have hne : before ++ [last] ≠ [] := by simp
    rw [List.cons_append, elementTokens]
    · rw [ih, elementTokensBefore, elementTokensBefore, List.flatMap_cons]
      simp
    · exact hne

/-- The tokens of members up to the last one. -/
theorem memberTokens_append (before : List (Option String × Value))
    (last : Option String × Value) :
    memberTokens (before ++ [last]) = memberTokensBefore before ++ tokensOfMember last := by
  induction before with
  | nil => rfl
  | cons first before ih =>
    have hne : before ++ [last] ≠ [] := by simp
    rw [List.cons_append, memberTokens]
    · rw [ih, memberTokensBefore, memberTokensBefore, List.flatMap_cons]
      simp [tokensOfMember]
    · exact hne

/-- The tokens of an open array or object in front of the value that is being read. -/
def Frame.tokens : Frame → List Token
  | .element before => .openBracket :: elementTokensBefore before.reverse
  | .member before key =>
    .openBrace :: (memberTokensBefore before.reverse ++ [.string key, .colon])

/-- The tokens of all that is open. -/
def openTokens (stack : List Frame) : List Token :=
  stack.reverse.flatMap Frame.tokens

theorem openTokens_cons (frame : Frame) (stack : List Frame) :
    openTokens (frame :: stack) = openTokens stack ++ frame.tokens := by
  simp [openTokens]

namespace Reading

/-- The tokens that were read. -/
def tokens : Reading → List Token
  | .value stack => openTokens stack
  | .firstElement stack => openTokens stack ++ [.openBracket]
  | .firstKey stack => openTokens stack ++ [.openBrace]
  | .key before stack => openTokens stack ++ .openBrace :: memberTokensBefore before.reverse
  | .colon before k stack =>
    openTokens stack ++ .openBrace :: (memberTokensBefore before.reverse ++ [.string k])
  | .done v stack => openTokens stack ++ v.tokens

variable {reading next : Reading} {token : Token}

/-- A token that begins a value is the only one of it that was read. -/
theorem tokens_of_begin? {stack : List Frame} (h : begin? stack token = some next) :
    next.tokens = openTokens stack ++ [token] := by
  cases token <;> cases h <;> rfl

/-- One more token was read. -/
theorem tokens_of_next? (h : reading.next? token = some next) :
    next.tokens = reading.tokens ++ [token] := by
  cases reading with
  | value stack => exact tokens_of_begin? h
  | firstElement stack =>
    have hbegin : begin? (.element [] :: stack) token = some next →
        next.tokens = (firstElement stack).tokens ++ [token] := by
      intro h
      rw [tokens_of_begin? h, openTokens_cons]
      rfl
    cases token with
    | closeBracket =>
      cases h
      simp [tokens, Value.tokens, elementTokens]
    | _ => exact hbegin h
  | firstKey stack =>
    cases token with
    | closeBrace =>
      cases h
      simp [tokens, Value.tokens, memberTokens]
    | string k =>
      cases h
      simp [tokens, memberTokensBefore]
    | _ => cases h
  | key before stack =>
    cases token with
    | string k =>
      cases h
      simp [tokens]
    | _ => cases h
  | colon before k stack =>
    cases token with
    | colon =>
      cases h
      simp [tokens, openTokens_cons, Frame.tokens]
    | _ => cases h
  | done v stack =>
    cases stack with
    | nil => cases h
    | cons frame stack =>
      cases frame with
      | element before =>
        cases token with
        | comma =>
          cases h
          simp [tokens, openTokens_cons, Frame.tokens, elementTokensBefore]
        | closeBracket =>
          cases h
          simp [tokens, openTokens_cons, Frame.tokens, Value.tokens, elementTokens_append]
        | _ => cases h
      | member before k =>
        cases token with
        | comma =>
          cases h
          simp [tokens, openTokens_cons, Frame.tokens, memberTokensBefore, tokensOfMember]
        | closeBrace =>
          cases h
          simp [tokens, openTokens_cons, Frame.tokens, Value.tokens, memberTokens_append,
            tokensOfMember]
        | _ => cases h

/-- All tokens of a row were read. -/
theorem tokens_of_foldlM {row : List Token} (h : row.foldlM next? reading = some next) :
    next.tokens = reading.tokens ++ row := by
  induction row generalizing reading with
  | nil =>
    cases h
    rw [List.append_nil]
  | cons token row ih =>
    rw [List.foldlM_cons] at h
    rcases Option.bind_eq_some_iff.1 h with ⟨between, hbetween, hrest⟩
    rw [ih hrest, tokens_of_next? hbetween, List.append_assoc, List.singleton_append]

end Reading

/-- Only the tokens of a value give the value. -/
theorem ofTokens?_eq_some_iff {tokens : List Token} {value : Value} :
    ofTokens? tokens = some value ↔ tokens = value.tokens := by
  constructor
  · intro h
    rcases Option.bind_eq_some_iff.1 h with ⟨last, hlast, hfinish⟩
    have htokens := Reading.tokens_of_foldlM hlast
    cases last with
    | done v stack =>
      cases stack with
      | nil =>
        cases hfinish
        exact htokens.symm
      | cons frame stack => cases hfinish
    | _ => cases hfinish
  · rintro rfl
    exact ofTokens?_tokens value

/-- A property of all values, from that of their elements and members. -/
theorem induction {motive : Value → Prop} (null : motive .null) (bool : ∀ b, motive (.bool b))
    (number : ∀ literal, motive (.number literal)) (string : ∀ text, motive (.string text))
    (array : ∀ elements, (∀ element ∈ elements, motive element) → motive (.array elements))
    (object : ∀ members, (∀ member ∈ members, motive member.2) → motive (.object members))
    (value : Value) : motive value :=
  @Value.rec motive (fun elements => ∀ element ∈ elements, motive element)
    (fun members => ∀ member ∈ members, motive member.2) (fun member => motive member.2)
    null bool number string array object
    nofun (fun _ _ first others => List.forall_mem_cons.2 ⟨first, others⟩)
    nofun (fun _ _ first others => List.forall_mem_cons.2 ⟨first, others⟩)
    (fun _ _ value => value) value

end Value

/-! ## Single tokens -/

/-- The row is one token. -/
inductive Makes : List Char → Token → Prop where
  | mark {c : Char} {token : Token} (h : Token.ofMark? c = some token) : Makes [c] token
  | word {c : Char} {missing : List Char} {token : Token}
      (h : Token.ofInitial? c = some (missing, token)) : Makes (c :: missing) token
  | number {literal : List Char} (h : Number.isNumber literal = true) :
      Makes literal (.number literal)
  | string {body : List Char} {pieces : List Piece} (h : Spells body pieces) :
      Makes (quote body) (.string (Piece.decode pieces))

/-- The empty row is white space. -/
theorem isSpaces_nil : IsSpaces [] :=
  List.forall_mem_nil _

/-- White space is nothing but its characters. -/
theorem isSpaces_cons {c : Char} {cs : List Char} (hc : Token.isSpace c = true)
    (h : IsSpaces cs) : IsSpaces (c :: cs) := by
  refine List.forall_mem_cons.2 ⟨?_, h⟩
  simp only [Token.isSpace, Bool.or_eq_true, beq_iff_eq] at hc
  rcases hc with ((rfl | rfl) | rfl) | rfl <;> decide

/-- Where there are no tokens, there is white space only. -/
theorem Lexes.exists_spaces {cs rest : List Char} (h : Lexes cs [] rest) :
    ∃ spaces, IsSpaces spaces ∧ cs = spaces ++ rest := by
  generalize hnil : ([] : List Token) = tokens at h
  induction h with
  | done => exact ⟨[], isSpaces_nil, rfl⟩
  | space hspace _ ih =>
    rcases ih hnil with ⟨spaces, hspaces, rfl⟩
    exact ⟨_ :: spaces, isSpaces_cons hspace hspaces, rfl⟩
  | mark => cases hnil
  | word => cases hnil
  | number => cases hnil
  | string => cases hnil

/-- The first token stands behind white space, and the others follow. -/
theorem Lexes.exists_makes {cs rest : List Char} {token : Token} {tokens : List Token}
    (h : Lexes cs (token :: tokens) rest) :
    ∃ before row after, IsSpaces before ∧ cs = before ++ (row ++ after) ∧ Makes row token ∧
      Lexes after tokens rest := by
  generalize hcons : token :: tokens = all at h
  induction h with
  | done => cases hcons
  | space hspace _ ih =>
    rcases ih hcons with ⟨before, row, after, hbefore, rfl, hrow, hafter⟩
    exact ⟨_ :: before, row, after, isSpaces_cons hspace hbefore, rfl, hrow, hafter⟩
  | mark hmark hafter =>
    cases hcons
    exact ⟨[], _, _, isSpaces_nil, rfl, .mark hmark, hafter⟩
  | word hword hafter =>
    cases hcons
    exact ⟨[], _, _, isSpaces_nil, rfl, .word hword, hafter⟩
  | number hnumber _ hafter =>
    cases hcons
    exact ⟨[], _, _, isSpaces_nil, rfl, .number hnumber, hafter⟩
  | @string body cs _ _ _ hspells hafter =>
    cases hcons
    refine ⟨[], quote body, cs, isSpaces_nil, ?_, .string hspells, hafter⟩
    simp [quote]

/-- A mark is the only row of its token. -/
theorem Makes.eq_mark {row : List Char} {mark : Char} {token : Token} (h : Makes row token)
    (hmark : Token.ofMark? mark = some token) : row = [mark] := by
  cases h with
  | mark h =>
    unfold Token.ofMark? at h hmark
    split at h <;> cases h <;> split at hmark <;> cases hmark <;> rfl
  | word h =>
    unfold Token.ofInitial? at h
    unfold Token.ofMark? at hmark
    split at h <;> cases h <;> split at hmark <;> cases hmark
  | number =>
    unfold Token.ofMark? at hmark
    split at hmark <;> cases hmark
  | string =>
    unfold Token.ofMark? at hmark
    split at hmark <;> cases hmark

/-- A mark stands behind white space. -/
theorem Lexes.exists_mark {cs rest : List Char} {mark : Char} {token : Token}
    {tokens : List Token} (h : Lexes cs (token :: tokens) rest)
    (hmark : Token.ofMark? mark = some token) :
    ∃ before after, IsSpaces before ∧ cs = before ++ mark :: after ∧ Lexes after tokens rest := by
  rcases h.exists_makes with ⟨before, row, after, hbefore, rfl, hrow, hafter⟩
  rw [hrow.eq_mark hmark]
  exact ⟨before, after, hbefore, rfl, hafter⟩

/-! ## Strings -/

/-- What spells pieces may stand between quotes. -/
theorem Spells.isBody {body : List Char} {pieces : List Piece} (h : Spells body pieces) :
    IsBody body := by
  induction h with
  | nil => exact .nil
  | char hquote hslash hcontrol _ ih => exact .plain (isPlain_iff.2 ⟨hquote, hslash, hcontrol⟩) ih
  | letter hletter _ ih => exact .short (Piece.ofLetter?_eq_some_iff.1 hletter) ih
  | unit ha hb hc hd _ ih =>
    exact .unit (.mk (Piece.hexValue?_eq_some_iff.1 ha) (Piece.hexValue?_eq_some_iff.1 hb)
      (Piece.hexValue?_eq_some_iff.1 hc) (Piece.hexValue?_eq_some_iff.1 hd)) ih

/-- A body spells its pieces only. -/
theorem Spells.unique {body : List Char} {pieces pieces' : List Piece} (h : Spells body pieces)
    (h' : Spells body pieces') : pieces = pieces' := by
  induction h generalizing pieces' with
  | nil =>
    cases h'
    rfl
  | char _ hslash _ _ ih =>
    cases h' with
    | char _ _ _ h' => rw [ih h']
    | letter => exact absurd rfl hslash
    | unit => exact absurd rfl hslash
  | letter hletter _ ih =>
    cases h' with
    | char _ hslash => exact absurd rfl hslash
    | letter hletter' h' =>
      cases hletter.symm.trans hletter'
      rw [ih h']
    | unit => cases hletter
  | unit ha hb hc hd _ ih =>
    cases h' with
    | char _ hslash => exact absurd rfl hslash
    | letter hletter => cases hletter
    | unit ha' hb' hc' hd' h' =>
      cases ha.symm.trans ha'
      cases hb.symm.trans hb'
      cases hc.symm.trans hc'
      cases hd.symm.trans hd'
      rw [ih h']

/-- Quotes around what spells pieces present the text of these pieces, if it is one. -/
theorem Spells.presents {body : List Char} {pieces : List Piece} (h : Spells body pieces) :
    Presents (quote body) (.string (Piece.decode pieces)) := by
  cases hdecode : Piece.decode pieces with
  | some text => exact .string (h.spelled hdecode)
  | none =>
    refine .torn h.isBody ?_
    intro text htext
    rcases htext.exists_spells with ⟨pieces', h', hdecode'⟩
    rw [← h.unique h', hdecode] at hdecode'
    cases hdecode'

/-- A token that spells a value presents it. -/
theorem Makes.presents {row : List Char} {token : Token} {value : Value} (h : Makes row token)
    (hvalue : value.tokens = [token]) : Presents row value := by
  cases h with
  | mark h =>
    unfold Token.ofMark? at h
    split at h <;> cases h <;> cases value <;> simp [Value.tokens] at hvalue
  | word h =>
    unfold Token.ofInitial? at h
    split at h <;> cases h <;> cases value <;> simp [Value.tokens] at hvalue
    · exact .null
    · subst hvalue
      exact .boolTrue
    · subst hvalue
      exact .boolFalse
  | number h =>
    cases value <;> simp [Value.tokens] at hvalue
    subst hvalue
    exact .number (Number.isNumber_iff.1 h)
  | string h =>
    cases value <;> simp [Value.tokens] at hvalue
    subst hvalue
    exact h.presents

/-! ## Rows with commas -/

/-- Where these tokens stand in front of a mark, there is a row of this kind, and white space. -/
def Delimits (tokens : List Token) (IsRow : List Char → Prop) : Prop :=
  ∀ (mark : Char) (token : Token), Token.ofMark? mark = some token →
    ∀ cs more rest, Lexes cs (tokens ++ token :: more) rest →
      ∃ row after, cs = row ++ mark :: after ∧ IsRow row ∧ Lexes after more rest

/-- Rows that commas separate. -/
theorem Delimits.intercalate {α : Type} {tokens : α → List Token} {IsRow : α → List Char → Prop}
    {first : α} {others : List α} (h : ∀ a ∈ first :: others, Delimits (tokens a) (IsRow a)) :
    Delimits ([Token.comma].intercalate ((first :: others).map tokens)) fun row =>
      ∃ rows, row = [','].intercalate rows ∧ List.Forall₂ IsRow (first :: others) rows := by
  induction others generalizing first with
  | nil =>
    intro mark token hmark cs more rest hlexes
    rw [List.map_singleton, List.intercalate_singleton] at hlexes
    rcases h first List.mem_cons_self mark token hmark cs more rest hlexes with
      ⟨row, after, rfl, hrow, hafter⟩
    exact ⟨row, after, rfl, ⟨[row], by rw [List.intercalate_singleton], .cons hrow .nil⟩, hafter⟩
  | cons second others ih =>
    rcases List.forall_mem_cons.1 h with ⟨hfirst, hothers⟩
    intro mark token hmark cs more rest hlexes
    rw [List.map_cons, List.map_cons, List.intercalate_cons_cons, List.append_assoc,
      List.append_assoc, List.singleton_append] at hlexes
    rcases hfirst ',' .comma rfl cs _ rest hlexes with ⟨row, between, rfl, hrow, hbetween⟩
    rcases ih hothers mark token hmark between more rest hbetween with
      ⟨_, after, rfl, ⟨rows, rfl, hrows⟩, hafter⟩
    cases hrows with
    | @cons _ secondRow _ otherRows hsecond hrows =>
      refine ⟨[','].intercalate (row :: secondRow :: otherRows), after, ?_,
        ⟨_, rfl, .cons hrow (.cons hsecond hrows)⟩, hafter⟩
      simp [List.intercalate_cons_cons]

/-! ## Values -/

/-- The row shows the value, with white space around it. -/
def ShowsRow (value : Value) (row : List Char) : Prop :=
  ∃ padded : Padded, row = padded.text ∧ Presents padded.row value

/-- The row shows the key and the value of a member. -/
def ShowsMember (member : Option String × Value) (row : List Char) : Prop :=
  ∃ key shown, ShowsRow (.string member.1) key ∧ ShowsRow member.2 shown ∧ row = key ++ ':' :: shown

/-- Where the tokens of a value stand, the value is presented, behind white space. -/
def Recognized (value : Value) : Prop :=
  ∀ cs more rest, Lexes cs (value.tokens ++ more) rest →
    ∃ before row after, IsSpaces before ∧ cs = before ++ (row ++ after) ∧ Presents row value ∧
      Lexes after more rest

/-- A value in front of a mark has white space around it. -/
theorem Recognized.delimits {value : Value} (h : Recognized value) :
    Delimits value.tokens (ShowsRow value) := by
  intro mark token hmark cs more rest hlexes
  rcases h cs _ rest hlexes with ⟨before, row, between, hbefore, rfl, hrow, hbetween⟩
  rcases hbetween.exists_mark hmark with ⟨behind, after, hbehind, rfl, hafter⟩
  refine ⟨_, after, ?_, ⟨⟨before, row, behind, hbefore, hbehind⟩, rfl, hrow⟩, hafter⟩
  simp [Padded.text]

/-- A value of one token is presented where this token stands. -/
theorem recognized_of_token {value : Value} {token : Token} (hvalue : value.tokens = [token]) :
    Recognized value := by
  intro cs more rest hlexes
  rw [hvalue, List.singleton_append] at hlexes
  rcases hlexes.exists_makes with ⟨before, row, after, hbefore, rfl, hrow, hafter⟩
  exact ⟨before, row, after, hbefore, rfl, hrow.presents hvalue, hafter⟩

/-- A member in front of a mark is a key, a colon and a value. -/
theorem Recognized.delimits_member {member : Option String × Value} (h : Recognized member.2) :
    Delimits (Value.tokensOfMember member) (ShowsMember member) := by
  intro mark token hmark cs more rest hlexes
  have hkey : Recognized (.string member.1) := recognized_of_token rfl
  rcases hkey.delimits ':' .colon rfl cs _ rest hlexes with ⟨key, between, rfl, hkey, hbetween⟩
  rcases h.delimits mark token hmark between more rest hbetween with
    ⟨shown, after, rfl, hshown, hafter⟩
  exact ⟨key ++ ':' :: shown, after, by simp, ⟨key, shown, hkey, hshown, rfl⟩, hafter⟩

/-- Rows that show the elements of an array are the text of it. -/
theorem presents_array {elements : List Value} {rows : List (List Char)}
    (h : List.Forall₂ ShowsRow elements rows) :
    Presents ('[' :: ([','].intercalate rows ++ [']'])) (.array elements) := by
  have hshown : ∃ shown : List Element, shown.map (fun element => element.shown.text) = rows ∧
      shown.map Element.value = elements ∧
      ∀ element ∈ shown, Presents element.shown.row element.value := by
    induction h with
    | nil => exact ⟨[], rfl, rfl, nofun⟩
    | @cons value _ _ _ hrow _ ih =>
      rcases ih with ⟨shown, rfl, rfl, hall⟩
      rcases hrow with ⟨padded, rfl, hrow⟩
      exact ⟨⟨padded, value⟩ :: shown, rfl, rfl, List.forall_mem_cons.2 ⟨hrow, hall⟩⟩
  rcases hshown with ⟨shown, rfl, rfl, hall⟩
  exact .array hall

/-- Rows that show the members of an object are the text of it. -/
theorem presents_object {members : List (Option String × Value)} {rows : List (List Char)}
    (h : List.Forall₂ ShowsMember members rows) :
    Presents ('\x7b' :: ([','].intercalate rows ++ ['\x7d'])) (.object members) := by
  have hshown : ∃ shown : List Member, shown.map Member.text = rows ∧
      shown.map (fun member => (member.name, member.value)) = members ∧
      (∀ member ∈ shown, Presents member.key.row (.string member.name)) ∧
      ∀ member ∈ shown, Presents member.shown.row member.value := by
    induction h with
    | nil => exact ⟨[], rfl, rfl, nofun, nofun⟩
    | @cons member _ _ _ hrow _ ih =>
      rcases ih with ⟨shown, rfl, rfl, hkeys, hall⟩
      rcases hrow with ⟨_, _, ⟨key, rfl, hkey⟩, ⟨padded, rfl, hvalue⟩, rfl⟩
      exact ⟨⟨key, member.1, padded, member.2⟩ :: shown, rfl, rfl,
        List.forall_mem_cons.2 ⟨hkey, hkeys⟩, List.forall_mem_cons.2 ⟨hvalue, hall⟩⟩
  rcases hshown with ⟨shown, rfl, rfl, hkeys, hall⟩
  exact .object hkeys hall

/-- An array is presented where its tokens stand. -/
theorem recognized_array {elements : List Value} (h : ∀ element ∈ elements, Recognized element) :
    Recognized (.array elements) := by
  intro cs more rest hlexes
  rw [Value.tokens, List.append_assoc, List.cons_append, List.singleton_append] at hlexes
  have hopen : Token.ofMark? '[' = some .openBracket := rfl
  have hclose : Token.ofMark? ']' = some .closeBracket := rfl
  rcases hlexes.exists_mark hopen with ⟨before, inside, hbefore, rfl, hinside⟩
  cases elements with
  | nil =>
    rcases hinside.exists_mark hclose with ⟨spaces, after, hspaces, rfl, hafter⟩
    exact ⟨before, _, after, hbefore, by simp, .emptyArray hspaces, hafter⟩
  | cons first others =>
    have hrows := Delimits.intercalate fun element helement => (h element helement).delimits
    rw [Value.elementTokens_eq_intercalate] at hinside
    rcases hrows ']' .closeBracket hclose inside more rest hinside with
      ⟨_, after, rfl, ⟨rows, rfl, hshown⟩, hafter⟩
    exact ⟨before, _, after, hbefore, by simp, presents_array hshown, hafter⟩

/-- An object is presented where its tokens stand. -/
theorem recognized_object {members : List (Option String × Value)}
    (h : ∀ member ∈ members, Recognized member.2) : Recognized (.object members) := by
  intro cs more rest hlexes
  rw [Value.tokens, List.append_assoc, List.cons_append, List.singleton_append] at hlexes
  have hopen : Token.ofMark? '\x7b' = some .openBrace := rfl
  have hclose : Token.ofMark? '\x7d' = some .closeBrace := rfl
  rcases hlexes.exists_mark hopen with ⟨before, inside, hbefore, rfl, hinside⟩
  cases members with
  | nil =>
    rcases hinside.exists_mark hclose with ⟨spaces, after, hspaces, rfl, hafter⟩
    exact ⟨before, _, after, hbefore, by simp, .emptyObject hspaces, hafter⟩
  | cons first others =>
    have hrows := Delimits.intercalate fun member hmember => (h member hmember).delimits_member
    rw [Value.memberTokens_eq_intercalate] at hinside
    rcases hrows '\x7d' .closeBrace hclose inside more rest hinside with
      ⟨_, after, rfl, ⟨rows, rfl, hshown⟩, hafter⟩
    exact ⟨before, _, after, hbefore, by simp, presents_object hshown, hafter⟩

/-- Where the tokens of a value stand, the value is presented. -/
theorem Value.recognized (value : Value) : Recognized value := by
  induction value using Value.induction with
  | null => exact recognized_of_token rfl
  | bool b => exact recognized_of_token rfl
  | number literal => exact recognized_of_token rfl
  | string text => exact recognized_of_token rfl
  | array elements ih => exact recognized_array ih
  | object members ih => exact recognized_object ih

/-- A text gives a value exactly when the grammar says that it shows the value. -/
theorem Value.ofText?_eq_some_iff {text : String} {value : Value} :
    ofText? text = some value ↔ Shows text value := by
  refine ⟨?_, Shows.ofText?_eq_some⟩
  intro h
  rcases Option.bind_eq_some_iff.1 h with ⟨tokens, hscan, htokens⟩
  rw [ofTokens?_eq_some_iff.1 htokens] at hscan
  have hlexes := Token.scan_eq_some_iff.1 hscan
  rw [← List.append_nil value.tokens] at hlexes
  rcases value.recognized _ _ _ hlexes with ⟨before, row, after, hbefore, htext, hrow, hafter⟩
  rcases hafter.exists_spaces with ⟨spaces, hspaces, rfl⟩
  refine ⟨⟨before, row, spaces, hbefore, hspaces⟩, ?_, hrow⟩
  rw [htext, List.append_nil]
  rfl

/-- A text shows one value at most. -/
theorem Shows.unique {text : String} {value value' : Value} (h : Shows text value)
    (h' : Shows text value') : value = value' :=
  Option.some.inj (h.ofText?_eq_some.symm.trans h'.ofText?_eq_some)

end Json
end Till
