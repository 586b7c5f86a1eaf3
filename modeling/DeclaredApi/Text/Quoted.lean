import DeclaredApi.Text.Blank
import DeclaredApi.Text.Half
import DeclaredApi.Text.Unprintable

/-
  Quoted text, as error messages show it.

  A text is put between single quotes, or between double
  quotes when it holds a single quote and no double one.
  The backslash and the quote in use are escaped, and a
  character that cannot be printed is written by its code.

  Key definitions include:
    * `Text.isPrintable`
    * `Text.hexDigits`
    * `Text.escape`
    * `Text.quoteMark`
    * `Text.quote`
-/

------------------------------------------------------------
-- Printable Characters
------------------------------------------------------------

namespace DeclaredApi

namespace Text

/- A plain character of the basic set. -/
def isPlain (c : Char) : Bool :=
  ' ' ≤ c && c ≤ '~'

/- A printable character is shown as itself. -/
def isPrintable (c : Char) : Bool :=
  isPlain c || !inRanges unprintableRanges c.toNat

end Text

end DeclaredApi

------------------------------------------------------------
-- Hexadecimal Codes
------------------------------------------------------------

namespace DeclaredApi

namespace Text

/- The lower-case digit of a value below sixteen. -/
def hexDigit (value : Nat) : Char :=
  if value < 10 then
    Char.ofNat ('0'.toNat + value)
  else
    Char.ofNat ('a'.toNat + (value - 10))

/- The last `width` hexadecimal digits of a number. -/
def hexDigits : Nat → Nat → List Char
| 0, _ => []
| width + 1, value =>
    hexDigits width (value / 16) ++ [hexDigit (value % 16)]

end Text

end DeclaredApi

------------------------------------------------------------
-- Quoting
------------------------------------------------------------

namespace DeclaredApi

namespace Text

/- The quote that a text needs the fewest escapes with. -/
def quoteMark (chars : List Char) : Char :=
  if chars.contains '\'' && !chars.contains '"' then
    '"'
  else
    '\''

/- The code of a character, or of the half that it keeps. -/
def codeOf (c : Char) : Nat :=
  (half? c).getD c.toNat

/- One character between the given quotes. -/
def escape
    (mark : Char)
    (c : Char) : List Char :=
  if c = '\\' || c = mark then
    ['\\', c]
  else if c = '\n' then
    ['\\', 'n']
  else if c = '\r' then
    ['\\', 'r']
  else if c = '\t' then
    ['\\', 't']
  else if isPrintable c then
    [c]
  else if codeOf c < 0x100 then
    '\\' :: 'x' :: hexDigits 2 (codeOf c)
  else if codeOf c < 0x10000 then
    '\\' :: 'u' :: hexDigits 4 (codeOf c)
  else
    '\\' :: 'U' :: hexDigits 8 (codeOf c)

/- A text between quotes, with its escapes. -/
def quote (s : String) : String :=
  let mark := quoteMark s.toList
  String.ofList
    (mark :: s.toList.flatMap (escape mark) ++ [mark])

end Text

end DeclaredApi
