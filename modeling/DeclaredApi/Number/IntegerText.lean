import DeclaredApi.Text.Blank

/-
  Integers in texts that people write.

  Blanks around an integer mean nothing, and neither do a
  plus sign before it, a fraction of zeros after it, and
  leading zeros.  Leading zeros may have underscores among
  them and stand before the minus sign.  What is left is a
  plain integer, with underscores inside it at most.

  Key definitions include:
    * `Number.IntegerFault`
    * `Number.plainInteger?`
    * `Number.withoutFraction`
    * `Number.withoutLeadingZeros`
    * `Number.withoutUnderscores?`
    * `Number.readInteger`
-/

------------------------------------------------------------
-- Plain Integers
------------------------------------------------------------

namespace DeclaredApi

namespace Number

/- Why a text is no integer. -/
inductive IntegerFault where
| malformed
| tooLong
deriving DecidableEq, Repr

/- The most characters that a plain integer may have. -/
def integerLimit : Nat :=
  4300

/- The number that digits write; no zero is before others. -/
def plainNatural? : List Char → Option Nat
| [] => none
| ['0'] => some 0
| '0' :: _ => none
| chars =>
    if chars.all Char.isDigit then
      some (chars.foldl
        (fun n c => n * 10 + (c.toNat - '0'.toNat)) 0)
    else
      none

/- A natural number, or one with a minus sign before it. -/
def plainInteger? : List Char → Option Int
| '-' :: chars =>
    (plainNatural? chars).map (fun n => -(n : Int))
| chars =>
    (plainNatural? chars).map (fun n => (n : Int))

end Number

end DeclaredApi

------------------------------------------------------------
-- Idle Characters
------------------------------------------------------------

namespace DeclaredApi

namespace Number

/- A blank around an integer; no control separates fields. -/
def isPadding (c : Char) : Bool :=
  Text.isBlank c && !Text.inRanges [(0x1C, 0x1F)] c.toNat

/- A text before a point that only zeros follow. -/
def withoutFraction (chars : List Char) : List Char :=
  let fraction :=
    (chars.dropWhile (fun c => c != '.')).drop 1
  if !fraction.isEmpty && fraction.all (fun c => c = '0') then
    chars.takeWhile (fun c => c != '.')
  else
    chars

/-
  A text after its leading zeros and the underscores among
  them; a text of nothing else keeps its last character.
-/
def withoutLeadingZeros : List Char → List Char
| '0' :: rest =>
    match rest.dropWhile (fun c => c = '0' || c = '_') with
    | [] => [(rest.getLast?).getD '0']
    | chars => chars
| chars => chars

/-
  A text without its underscores, if none is the first or the
  last character and no two stand side by side.
-/
def withoutUnderscores?
    (chars : List Char) : Option (List Char) :=
  if chars.head? = some '_' || chars.getLast? = some '_' ||
      (chars.zip chars.tail).contains ('_', '_') then
    none
  else
    some (chars.filter (fun c => c != '_'))

/- The plain text of an integer that may have idle zeros. -/
def withoutIdle? (chars : List Char) : Option (List Char) :=
  withoutUnderscores?
    (withoutLeadingZeros (withoutFraction chars))

end Number

end DeclaredApi

------------------------------------------------------------
-- Reading Integers
------------------------------------------------------------

namespace DeclaredApi

namespace Number

/- The plain text of an integer; only one sign is allowed. -/
def plainText? : List Char → Option (List Char)
| '-' :: chars =>
    match withoutIdle? chars with
    | some ('-' :: _) => none
    | plain? => plain?.map (fun plain => '-' :: plain)
| '+' :: '-' :: _ => none
| '+' :: chars => withoutIdle? chars
| chars => withoutIdle? chars

/- The integer that a text writes. -/
def readInteger (text : String) : Except IntegerFault Int :=
  match plainText? (Text.trim isPadding text.toList) with
  | none => .error .malformed
  | some plain =>
      match plainInteger? plain with
      | none => .error .malformed
      | some value =>
          if integerLimit < plain.length then
            .error .tooLong
          else
            .ok value

end Number

end DeclaredApi
