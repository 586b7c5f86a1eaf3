/-
  Names of types.

  A dotted name is a sequence of words joined by dots; a
  base is a dotted name followed by array brackets, one
  pair for each dimension.

  Key definitions include:
    * `Name.isWord`
    * `Name.splitAtDots`
    * `Name.isDotted`
    * `Name.primitives`
    * `Name.isPrimitive`
    * `Name.brackets`
    * `Name.splitDimensions`
    * `Name.isBase`
    * `Name.isPrimitiveFamily`
-/

------------------------------------------------------------
-- Words
------------------------------------------------------------

namespace DeclaredApi

namespace Name

/- A word starts with an ASCII letter, `_` or `$`. -/
def isWordStart (c : Char) : Bool :=
  c.isAlpha || c = '_' || c = '$'

/- A word goes on with the same characters and digits. -/
def isWordPart (c : Char) : Bool :=
  c.isAlphanum || c = '_' || c = '$'

/- The characters of one word. -/
def isWord : List Char → Bool
| [] => false
| c :: cs => isWordStart c && cs.all isWordPart

end Name

end DeclaredApi

------------------------------------------------------------
-- Dotted Names
------------------------------------------------------------

namespace DeclaredApi

namespace Name

/- The pieces between the dots; there is always one. -/
def splitAtDots : List Char → List (List Char)
| [] => [[]]
| c :: cs =>
    if c = '.' then
      [] :: splitAtDots cs
    else
      match splitAtDots cs with
      | [] => [[c]]
      | piece :: pieces => (c :: piece) :: pieces

/- A dotted name is made of words only. -/
def isDotted (name : String) : Bool :=
  (splitAtDots name.toList).all isWord

/- A name joined to the package or class that holds it. -/
def inside
    (holder : String)
    (name : String) : String :=
  if holder = "" then name else holder ++ "." ++ name

end Name

end DeclaredApi

------------------------------------------------------------
-- Primitive Names
------------------------------------------------------------

namespace DeclaredApi

namespace Name

/- The closed set of primitive names. -/
def primitives : List String :=
  ["void", "boolean", "byte", "short", "char", "int",
    "long", "float", "double"]

/- A bare primitive name; its arrays are not primitive. -/
def isPrimitive (name : String) : Bool :=
  primitives.contains name

end Name

end DeclaredApi

------------------------------------------------------------
-- Array Dimensions
------------------------------------------------------------

namespace DeclaredApi

namespace Name

/- The brackets of a number of array dimensions. -/
def brackets : Nat → String
| 0 => ""
| dimensions + 1 => "[]" ++ brackets dimensions

/-
  Take bracket pairs off the front of a reversed base and
  count them.
-/
def takeBrackets : List Char → List Char × Nat
| ']' :: '[' :: rest =>
    let (element, dimensions) := takeBrackets rest
    (element, dimensions + 1)
| rest => (rest, 0)

/- The element name of a base and its dimensions. -/
def splitDimensions (base : String) : String × Nat :=
  let (element, dimensions) := takeBrackets base.toList.reverse
  (String.ofList element.reverse, dimensions)

/- A base that a reference may have. -/
def isBase (base : String) : Bool :=
  isDotted (splitDimensions base).1

/- A primitive name or an array of one. -/
def isPrimitiveFamily (base : String) : Bool :=
  isPrimitive (splitDimensions base).1

end Name

end DeclaredApi
