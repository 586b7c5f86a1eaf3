/-
  White space of signature texts.

  A character is blank when Unicode calls it white space;
  blanks separate tokens and mean nothing else.

  Key definitions include:
    * `Text.inRanges`
    * `Text.blankRanges`
    * `Text.isBlank`
    * `Text.trim`
    * `Text.trimBlanks`
    * `Text.withoutSpaces`
-/

------------------------------------------------------------
-- Ranges of Code Points
------------------------------------------------------------

namespace DeclaredApi

namespace Text

/- A code point lies in one of the inclusive ranges. -/
def inRanges
    (ranges : List (Nat × Nat))
    (code : Nat) : Bool :=
  ranges.any (fun range =>
    range.1 ≤ code && code ≤ range.2)

end Text

end DeclaredApi

------------------------------------------------------------
-- White Space
------------------------------------------------------------

namespace DeclaredApi

namespace Text

/- The inclusive ranges of white space, in order. -/
def blankRanges : List (Nat × Nat) :=
  [(0x09, 0x0D), (0x1C, 0x20), (0x85, 0x85),
    (0xA0, 0xA0), (0x1680, 0x1680), (0x2000, 0x200A),
    (0x2028, 0x2029), (0x202F, 0x202F),
    (0x205F, 0x205F), (0x3000, 0x3000)]

/- A blank character separates tokens. -/
def isBlank (c : Char) : Bool :=
  inRanges blankRanges c.toNat

/- Characters without those of a kind at either end. -/
def trim
    (isOuter : Char → Bool)
    (chars : List Char) : List Char :=
  let body := chars.dropWhile isOuter
  (body.reverse.dropWhile isOuter).reverse

/- A text without its leading and trailing blanks. -/
def trimBlanks (s : String) : String :=
  String.ofList (trim isBlank s.toList)

/- A text with its spaces taken out, but no other blanks. -/
def withoutSpaces (text : String) : String :=
  String.ofList (text.toList.filter (fun c => c != ' '))

end Text

end DeclaredApi
