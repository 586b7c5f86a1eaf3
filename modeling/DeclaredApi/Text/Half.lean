/-
  Halves of pairs of codes.

  Some codes stand for no character: they are the halves of
  pairs that do.  A half without its partner is kept in a
  text as a private character of the last plane, so that it
  can be written again.

  Key definitions include:
    * `Text.isHighHalf`
    * `Text.isLowHalf`
    * `Text.joinHalves`
    * `Text.keepHalf`
    * `Text.half?`
-/

------------------------------------------------------------
-- Halves
------------------------------------------------------------

namespace DeclaredApi

namespace Text

/- A code is the first half of a pair. -/
def isHighHalf (code : Nat) : Bool :=
  0xD800 ≤ code && code ≤ 0xDBFF

/- A code is the second half of a pair. -/
def isLowHalf (code : Nat) : Bool :=
  0xDC00 ≤ code && code ≤ 0xDFFF

/- The character of a pair. -/
def joinHalves
    (high : Nat)
    (low : Nat) : Char :=
  Char.ofNat
    (0x10000 + (high - 0xD800) * 0x400 + (low - 0xDC00))

/- The first code of the last plane. -/
def lastPlane : Nat :=
  0x100000

/- The private character that a lone half is kept as. -/
def keepHalf (code : Nat) : Char :=
  Char.ofNat (lastPlane + code)

/- The lone half that a character is kept for. -/
def half? (c : Char) : Option Nat :=
  let code := c.toNat - lastPlane
  if isHighHalf code || isLowHalf code then
    some code
  else
    none

end Text

end DeclaredApi
