import Till.Boundary.Status
import Till.Config.Environment

/-!
# Texts of a host

A host hands over a text as a pointer to bytes that end before the first zero byte.
The pointer may be null, and the bytes need not be UTF-8.
-/

namespace Till

/-- The bytes behind a pointer, up to the end of the memory they are in; nothing
behind a null pointer. -/
abbrev HostText := Option (List UInt8)

namespace HostText

/-- The bytes in front of the first zero byte. -/
def content (bytes : List UInt8) : List UInt8 :=
  bytes.takeWhile fun byte => byte != 0

/-- The text that bytes stand for in UTF-8. -/
def decode? (bytes : List UInt8) : Option String :=
  String.fromUTF8? ⟨(content bytes).toArray⟩

/-- The text of an argument. -/
def read (argument : String) : HostText → Except Rejection String
  | none => .error (.nullPointer argument)
  | some bytes =>
    match decode? bytes with
    | some text => .ok text
    | none => .error (.invalidUtf8 argument)

end HostText

/-- The variables that a host sets.  A text that is not UTF-8 counts as none. -/
abbrev HostEnvironment := String → HostText

namespace HostEnvironment

/-- The texts of the variables. -/
def texts (environment : HostEnvironment) : Environment :=
  fun name => (environment name).bind HostText.decode?

end HostEnvironment
end Till
