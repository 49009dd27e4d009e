import Till.Json.Number
import Till.Json.Piece

/-!
# Tokens

A text is split into tokens in one pass from left to right.  White space is a
space, a tab, a line feed or a carriage return, and it only separates; everything
else belongs to exactly one token.  A number literal reaches as far as characters
of numbers do.
-/

namespace Till
namespace Json

/-- The units of a text. -/
inductive Token where
  | openBrace
  | closeBrace
  | openBracket
  | closeBracket
  | colon
  | comma
  | null
  | bool (value : Bool)
  | number (literal : List Char)
  /-- A string literal, with its text if it has one. -/
  | string (text : Option String)
  deriving DecidableEq, Repr

namespace Token

/-- The characters that separate tokens. -/
def isSpace (c : Char) : Bool :=
  c == ' ' || c == '\t' || c == '\n' || c == '\r'

/-- The token that one character makes. -/
def ofMark? : Char → Option Token
  | '\x7b' => some openBrace
  | '\x7d' => some closeBrace
  | '[' => some openBracket
  | ']' => some closeBracket
  | ':' => some colon
  | ',' => some comma
  | _ => none

/-- The token that a word beginning with this character makes, with the rest of
the word. -/
def ofInitial? : Char → Option (List Char × Token)
  | 'n' => some (['u', 'l', 'l'], null)
  | 't' => some (['r', 'u', 'e'], bool true)
  | 'f' => some (['a', 'l', 's', 'e'], bool false)
  | _ => none

/-! ## The pass over a text -/

/-- What the characters since the last whole token are the beginning of. -/
inductive Partial where
  /-- Nothing but white space. -/
  | none
  /-- A word of which these characters are still missing. -/
  | word (missing : List Char) (token : Token)
  /-- A number literal, last character first. -/
  | number (seen : List Char)
  /-- A string literal, last piece first. -/
  | string (seen : List Piece)
  /-- A string literal in which an escape has begun. -/
  | escape (seen : List Piece)
  /-- A string literal in which an escaped unit still misses some digits. -/
  | unit (seen : List Piece) (missing : Nat) (value : Nat)
  deriving DecidableEq, Repr

/-- The tokens found so far, last one first, and what has begun since. -/
structure Scan where
  found : List Token
  begun : Partial
  deriving DecidableEq, Repr

namespace Scan

/-- Nothing has been read. -/
def start : Scan := ⟨[], .none⟩

/-- A character that begins a token or separates tokens. -/
def begin? (found : List Token) (c : Char) : Option Scan :=
  if isSpace c then some ⟨found, .none⟩
  else if c = '"' then some ⟨found, .string []⟩
  else if Number.opensNumber c then some ⟨found, .number [c]⟩
  else
    match ofMark? c with
    | some token => some ⟨token :: found, .none⟩
    | none => (ofInitial? c).map fun word => ⟨found, .word word.1 word.2⟩

/-- The tokens found once a number literal has ended. -/
def endNumber? (found : List Token) (seen : List Char) : Option (List Token) :=
  if Number.isNumber seen.reverse then some (.number seen.reverse :: found) else none

/-- A character inside a string literal.  Control characters have to be escaped. -/
def inString? (found : List Token) (seen : List Piece) (c : Char) : Option Scan :=
  if c = '"' then some ⟨.string (Piece.decode seen.reverse) :: found, .none⟩
  else if c = '\\' then some ⟨found, .escape seen⟩
  else if c.toNat < 0x20 then none
  else some ⟨found, .string (.char c :: seen)⟩

/-- The character after a backslash. -/
def inEscape? (found : List Token) (seen : List Piece) (c : Char) : Option Scan :=
  if c = 'u' then some ⟨found, .unit seen 4 0⟩
  else (Piece.ofLetter? c).map fun d => ⟨found, .string (.char d :: seen)⟩

/-- A hexadecimal digit of an escaped unit. -/
def inUnit? (found : List Token) (seen : List Piece) (missing value : Nat) (c : Char) :
    Option Scan :=
  (Piece.hexValue? c).map fun digit =>
    if missing ≤ 1 then ⟨found, .string (.unit (value * 16 + digit) :: seen)⟩
    else ⟨found, .unit seen (missing - 1) (value * 16 + digit)⟩

/-- The pass goes on by one character, unless no text continues this way. -/
def next? : Scan → Char → Option Scan
  | ⟨found, .none⟩, c => begin? found c
  | ⟨_, .word [] _⟩, _ => none
  | ⟨found, .word [d] token⟩, c => if c = d then some ⟨token :: found, .none⟩ else none
  | ⟨found, .word (d :: missing) token⟩, c =>
    if c = d then some ⟨found, .word missing token⟩ else none
  | ⟨found, .number seen⟩, c =>
    if Number.isNumberChar c then some ⟨found, .number (c :: seen)⟩
    else (endNumber? found seen).bind fun found => begin? found c
  | ⟨found, .string seen⟩, c => inString? found seen c
  | ⟨found, .escape seen⟩, c => inEscape? found seen c
  | ⟨found, .unit seen missing value⟩, c => inUnit? found seen missing value c

/-- The tokens of the whole text, if the text may end here. -/
def finish? : Scan → Option (List Token)
  | ⟨found, .none⟩ => some found.reverse
  | ⟨found, .number seen⟩ => (endNumber? found seen).map List.reverse
  | _ => none

end Scan

/-- The tokens of a text, unless it has none. -/
def scan (cs : List Char) : Option (List Token) :=
  (cs.foldlM Scan.next? Scan.start).bind Scan.finish?

end Token
end Json
end Till
