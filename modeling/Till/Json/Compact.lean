import Till.Text.Decimal

/-!
# Compact texts

Values are written without white space.  In a string a quote, a backslash and the
control characters below U+0020 are escaped, by one letter where there is one and
otherwise as a unit in lower-case hexadecimal digits; every other character stands
for itself.
-/

namespace Till
namespace Json
namespace Compact

/-- A character as it stands between quotes. -/
def escape (c : Char) : List Char :=
  if c = '"' then ['\\', '"']
  else if c = '\\' then ['\\', '\\']
  else if c = '\x08' then ['\\', 'b']
  else if c = '\t' then ['\\', 't']
  else if c = '\n' then ['\\', 'n']
  else if c = '\x0c' then ['\\', 'f']
  else if c = '\r' then ['\\', 'r']
  else if c.toNat < 0x20 then
    ['\\', 'u', '0', '0', Nat.digitChar (c.toNat / 16), Nat.digitChar (c.toNat % 16)]
  else [c]

/-- A string literal. -/
def string (s : String) : List Char :=
  '"' :: s.toList.flatMap escape ++ ['"']

/-- An integer literal. -/
def integer (n : Int) : List Char :=
  Decimal.write n

/-- The absent value. -/
def null : List Char :=
  ['n', 'u', 'l', 'l']

/-- An array of written elements. -/
def array (elements : List (List Char)) : List Char :=
  '[' :: [','].intercalate elements ++ [']']

/-- A member of an object. -/
def member (key : String) (value : List Char) : List Char :=
  string key ++ ':' :: value

/-- An object of written members, in order. -/
def object (members : List (String × List Char)) : List Char :=
  '\x7b' :: [','].intercalate (members.map fun m => member m.1 m.2) ++ ['\x7d']

end Compact
end Json
end Till
