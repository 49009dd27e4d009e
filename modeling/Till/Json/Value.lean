import Till.Json.Token

/-!
# Values

A text presents a value: the tree that its tokens spell.  Every tree has exactly
one spelling, and a row of tokens is read by a machine with a stack of open arrays
and objects, so that nesting of any depth is read alike.
-/

namespace Till
namespace Json

/-- What a text presents.  A string or a key has no text when it has an unpaired
surrogate. -/
inductive Value where
  | null
  | bool (value : Bool)
  | number (literal : List Char)
  | string (text : Option String)
  | array (elements : List Value)
  | object (members : List (Option String × Value))

namespace Value

/-! ## Spelling -/

mutual

/-- The tokens that spell a value. -/
def tokens : Value → List Token
  | null => [.null]
  | bool value => [.bool value]
  | number literal => [.number literal]
  | string text => [.string text]
  | array elements => .openBracket :: elementTokens elements ++ [.closeBracket]
  | object members => .openBrace :: memberTokens members ++ [.closeBrace]

/-- The tokens between the brackets of an array. -/
def elementTokens : List Value → List Token
  | [] => []
  | [element] => element.tokens
  | element :: rest => element.tokens ++ .comma :: elementTokens rest

/-- The tokens between the braces of an object. -/
def memberTokens : List (Option String × Value) → List Token
  | [] => []
  | [(key, value)] => .string key :: .colon :: value.tokens
  | (key, value) :: rest =>
    .string key :: .colon :: value.tokens ++ .comma :: memberTokens rest

end

/-! ## Reading -/

/-- An array or object that is still open, with what stands before the value that
is being read, last one first. -/
inductive Frame where
  | element (before : List Value)
  | member (before : List (Option String × Value)) (key : Option String)

/-- What the next token has to be a part of. -/
inductive Reading where
  /-- A value. -/
  | value (stack : List Frame)
  /-- The first element of an array, unless it closes. -/
  | firstElement (stack : List Frame)
  /-- The first key of an object, unless it closes. -/
  | firstKey (stack : List Frame)
  /-- A further key of an object. -/
  | key (before : List (Option String × Value)) (stack : List Frame)
  /-- The colon after a key. -/
  | colon (before : List (Option String × Value)) (key : Option String)
    (stack : List Frame)
  /-- What follows a whole value. -/
  | done (value : Value) (stack : List Frame)

namespace Reading

/-- A token that begins a value. -/
def begin? (stack : List Frame) : Token → Option Reading
  | .null => some (.done .null stack)
  | .bool b => some (.done (.bool b) stack)
  | .number literal => some (.done (.number literal) stack)
  | .string text => some (.done (.string text) stack)
  | .openBracket => some (.firstElement stack)
  | .openBrace => some (.firstKey stack)
  | _ => none

/-- Reading goes on by one token, unless no value continues this way. -/
def next? : Reading → Token → Option Reading
  | .value stack, token => begin? stack token
  | .firstElement stack, .closeBracket => some (.done (.array []) stack)
  | .firstElement stack, token => begin? (.element [] :: stack) token
  | .firstKey stack, .closeBrace => some (.done (.object []) stack)
  | .firstKey stack, .string k => some (.colon [] k stack)
  | .firstKey _, _ => none
  | .key before stack, .string k => some (.colon before k stack)
  | .key _ _, _ => none
  | .colon before k stack, .colon => some (.value (.member before k :: stack))
  | .colon _ _ _, _ => none
  | .done v (.element before :: stack), .comma =>
    some (.value (.element (v :: before) :: stack))
  | .done v (.element before :: stack), .closeBracket =>
    some (.done (.array (v :: before).reverse) stack)
  | .done v (.member before k :: stack), .comma =>
    some (.key ((k, v) :: before) stack)
  | .done v (.member before k :: stack), .closeBrace =>
    some (.done (.object ((k, v) :: before).reverse) stack)
  | .done _ _, _ => none

/-- The value that was read, if nothing is open. -/
def finish? : Reading → Option Value
  | .done v [] => some v
  | _ => none

end Reading

/-- The value that a row of tokens spells, if there is one. -/
def ofTokens? (tokens : List Token) : Option Value :=
  (tokens.foldlM Reading.next? (.value [])).bind Reading.finish?

/-- The value that a text presents, if it presents one. -/
def ofText? (text : String) : Option Value :=
  (Token.scan text.toList).bind ofTokens?

end Value
end Json
end Till
