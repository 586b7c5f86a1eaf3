import DeclaredApi.Text.Blank

/-
  Tokens of literal values.

  A literal is written by numbers, quoted texts, a few words
  and the marks that group them.  Inside of brackets lines
  may end anywhere; outside of them one line holds the whole
  literal.  A comment goes on to the end of its line.

  Key definitions include:
    * `Literal.Token`
    * `Literal.numberSize?`
    * `Literal.quotedSize?`
    * `Literal.tokens?`
-/

------------------------------------------------------------
-- Tokens
------------------------------------------------------------

namespace DeclaredApi

namespace Literal

/- A token of a literal. -/
inductive Token where
| number (isImaginary : Bool)
| quoted (isBytes : Bool)
| word (name : String)
| ellipsis
| mark (c : Char)
deriving DecidableEq, Repr

/- The blanks between the tokens of a line. -/
def isSpace (c : Char) : Bool :=
  c = ' ' || c = '\t' || c = '\x0c'

/- A character belongs to names, whatever its script. -/
def isNameCharacter (c : Char) : Bool :=
  c.isAlphanum || c = '_' || 0x80 ≤ c.toNat

/- The number that hexadecimal digits write. -/
def hexDigit? (c : Char) : Option Nat :=
  if c.isDigit then
    some (c.toNat - '0'.toNat)
  else if 'a' ≤ c && c ≤ 'f' then
    some (c.toNat - 'a'.toNat + 10)
  else if 'A' ≤ c && c ≤ 'F' then
    some (c.toNat - 'A'.toNat + 10)
  else
    none

/- A character is a hexadecimal digit. -/
def isHexDigit (c : Char) : Bool :=
  (hexDigit? c).isSome

end Literal

end DeclaredApi

------------------------------------------------------------
-- Numbers
------------------------------------------------------------

namespace DeclaredApi

namespace Literal

/- The most digits that a decimal integer may have. -/
def digitLimit : Nat :=
  4300

/-
  The characters that go on with digits of a kind; a low line
  may stand before each.
-/
def digitsAfter (isDigit : Char → Bool) : List Char → Nat
| '_' :: c :: rest =>
    if isDigit c then
      digitsAfter isDigit rest + 2
    else
      0
| c :: rest =>
    if isDigit c then
      digitsAfter isDigit rest + 1
    else
      0
| [] => 0

/- The characters of decimal digits. -/
def decimals : List Char → Nat
| c :: rest =>
    if c.isDigit then
      digitsAfter Char.isDigit rest + 1
    else
      0
| [] => 0

/- The digits of a base that a letter after a zero announces. -/
def baseDigits? (c : Char) : Option (Char → Bool) :=
  if c = 'x' || c = 'X' then
    some isHexDigit
  else if c = 'o' || c = 'O' then
    some (fun d => '0' ≤ d && d ≤ '7')
  else if c = 'b' || c = 'B' then
    some (fun d => d = '0' || d = '1')
  else
    none

/- The characters of a point with the digits after it. -/
def fraction : List Char → Nat
| '.' :: rest => decimals rest + 1
| _ => 0

/- The characters of an exponent, which has digits. -/
def exponent : List Char → Nat
| e :: rest =>
    let sign :=
      match rest with
      | '+' :: _ => 1
      | '-' :: _ => 1
      | _ => 0
    let digits := decimals (rest.drop sign)
    if (e = 'e' || e = 'E') && digits != 0 then
      digits + sign + 1
    else
      0
| [] => 0

/-
  A decimal integer may be written so: it has no zeros before
  its digits, and not too many of them.
-/
def isInteger (chars : List Char) : Bool :=
  let digits := chars.filter Char.isDigit
  digits.all (fun c => c = '0') ||
    (digits.head? != some '0' && digits.length ≤ digitLimit)

/- The characters of a decimal number, and of which kind. -/
def decimalSize? (chars : List Char) : Option (Nat × Bool) :=
  let whole := decimals chars
  let part := fraction (chars.drop whole)
  let power := exponent (chars.drop (whole + part))
  let size := whole + part + power
  let letter := (chars.drop size).head?
  if letter = some 'j' || letter = some 'J' then
    some (size + 1, true)
  else if part = 0 && power = 0 &&
      !isInteger (chars.take whole) then
    none
  else
    some (size, false)

/-
  The characters of a number that stands first, and whether
  it is imaginary; no name may follow at once.
-/
def numberSize? (chars : List Char) : Option (Nat × Bool) := do
  let (size, isImaginary) ←
    match chars with
    | '0' :: c :: rest =>
        match baseDigits? c with
        | some isDigit =>
            let size := digitsAfter isDigit rest
            if size = 0 then none else some (size + 2, false)
        | none => decimalSize? chars
    | _ => decimalSize? chars
  if (chars.drop size).head?.any isNameCharacter then
    none
  else
    some (size, isImaginary)

end Literal

end DeclaredApi

------------------------------------------------------------
-- Quoted Texts
------------------------------------------------------------

namespace DeclaredApi

namespace Literal

/- How a quoted text is read. -/
structure Quoting where
  isBytes : Bool
  isRaw : Bool
deriving DecidableEq, Repr

/- The reading that letters before a quote ask for. -/
def quoting? (letters : List Char) : Option Quoting :=
  match String.ofList (letters.map Char.toLower) with
  | "" => some ⟨false, false⟩
  | "u" => some ⟨false, false⟩
  | "r" => some ⟨false, true⟩
  | "b" => some ⟨true, false⟩
  | "br" => some ⟨true, true⟩
  | "rb" => some ⟨true, true⟩
  | _ => none

/-
  The characters up to the closing quotes.  A short text ends
  with its line, a long one has three quotes on each side.
-/
def body?
    (quote : Char)
    (isLong : Bool) : List Char → Option (List Char)
| [] => none
| '\\' :: c :: rest =>
    (body? quote isLong rest).map (fun body =>
      '\\' :: c :: body)
| c :: rest =>
    if c = quote && (!isLong || rest.take 2 = [quote, quote]) then
      some []
    else if c = '\n' && !isLong then
      none
    else
      (body? quote isLong rest).map (fun body => c :: body)

/- So many hexadecimal digits come first. -/
def startsHex
    (count : Nat)
    (chars : List Char) : Bool :=
  (chars.take count).length = count &&
    (chars.take count).all isHexDigit

/- The code point of eight hexadecimal digits exists. -/
def startsCodePoint (chars : List Char) : Bool :=
  startsHex 8 chars &&
    ((chars.take 8).filterMap hexDigit?).foldl
      (fun n digit => n * 16 + digit) 0 < 0x110000

/-
  The name of a character in braces comes first.  Whether a
  character has that name is left open.
-/
def startsCharacterName : List Char → Bool
| '\x7b' :: rest =>
    let name := rest.takeWhile (fun c =>
      c.isAlphanum || c = ' ' || c = '-')
    !name.isEmpty &&
      (rest.drop name.length).head? = some '\x7d'
| _ => false

/- Escapes with a number or name of a character are complete. -/
def hasEscapes (isBytes : Bool) : List Char → Bool
| '\\' :: c :: rest =>
    (if c = 'x' then
      startsHex 2 rest
    else if c = 'u' && !isBytes then
      startsHex 4 rest
    else if c = 'U' && !isBytes then
      startsCodePoint rest
    else if c = 'N' && !isBytes then
      startsCharacterName rest
    else
      true) && hasEscapes isBytes rest
| _ :: rest => hasEscapes isBytes rest
| [] => true

/- The characters between quotes can be read. -/
def isReadable
    (quoting : Quoting)
    (body : List Char) : Bool :=
  (!quoting.isBytes || body.all (fun c => c.toNat < 0x80)) &&
    (quoting.isRaw || hasEscapes quoting.isBytes body)

/- The characters of a quoted text that starts with a quote. -/
def quotedSize?
    (quoting : Quoting)
    (quote : Char)
    (rest : List Char) : Option Nat := do
  let isLong := rest.take 2 = [quote, quote]
  let margin := if isLong then 3 else 1
  let body ← body? quote isLong (rest.drop (margin - 1))
  if isReadable quoting body then
    some (body.length + 2 * margin)
  else
    none

end Literal

end DeclaredApi

------------------------------------------------------------
-- Tokens of a Text
------------------------------------------------------------

namespace DeclaredApi

namespace Literal

/- The most brackets that may be open at a time. -/
def depthLimit : Nat :=
  200

/- A line holds nothing but a comment. -/
def isIdleLine (line : String) : Bool :=
  match line.toList.dropWhile isSpace with
  | [] => true
  | c :: _ => c = '#'

/- All lines hold nothing but comments. -/
def isIdle (chars : List Char) : Bool :=
  ((String.ofList chars).splitOn "\n").all isIdleLine

/- A word or a quoted text, with its number of characters. -/
def wordToken? (chars : List Char) : Option (Token × Nat) :=
  let letters := chars.takeWhile isNameCharacter
  match chars.drop letters.length with
  | quote :: rest =>
      if quote = '"' || quote = '\'' then do
        let quoting ← quoting? letters
        let size ← quotedSize? quoting quote rest
        some (.quoted quoting.isBytes, letters.length + size)
      else if letters.isEmpty then
        none
      else
        some (.word (String.ofList letters), letters.length)
  | [] => some (.word (String.ofList letters), letters.length)

/- The token that comes first, with its number of characters. -/
def token? (chars : List Char) : Option (Token × Nat) :=
  match chars with
  | [] => none
  | c :: rest =>
      let startsNumber :=
        c.isDigit ||
          (c = '.' && rest.head?.any Char.isDigit)
      if startsNumber then
        (numberSize? chars).map (fun number =>
          (.number number.2, number.1))
      else if ['.', '.', '.'].isPrefixOf chars then
        some (.ellipsis, 3)
      else if "(){},:+-".toList.contains c then
        some (.mark c, 1)
      else
        wordToken? chars

/- The number of open brackets after a token. -/
def depthAfter
    (depth : Nat) : Token → Nat
| .mark c =>
    if c = '(' || c = '\x7b' then
      depth + 1
    else if c = ')' || c = '\x7d' then
      depth - 1
    else
      depth
| _ => depth

/- The tokens of characters inside of some brackets. -/
def tokensIn?
    (depth : Nat)
    (chars : List Char) : Option (List Token) :=
  match chars with
  | [] => some []
  | c :: rest =>
      if isSpace c then
        tokensIn? depth rest
      else if c = '#' then
        tokensIn? depth (rest.drop (rest.takeWhile (fun d =>
          d != '\n')).length)
      else if c = '\n' then
        if depth = 0 then
          if isIdle rest then some [] else none
        else
          tokensIn? depth rest
      else if c = '\\' then
        if rest.head? = some '\n' && rest.length != 1 then
          tokensIn? depth (rest.drop 1)
        else
          none
      else
        match token? (c :: rest) with
        | none => none
        | some (token, size) =>
            let depth := depthAfter depth token
            if depthLimit < depth then
              none
            else
              (tokensIn? depth (rest.drop (size - 1))).map
                (fun others => token :: others)
termination_by chars.length
decreasing_by
  all_goals simp only [List.length_cons, List.length_drop]
  all_goals omega

end Literal

end DeclaredApi

------------------------------------------------------------
-- Tokens of Lines
------------------------------------------------------------

namespace DeclaredApi

namespace Literal

/- Characters in which every line ends with a line feed. -/
def withLineFeeds : List Char → List Char
| '\r' :: '\n' :: rest => '\n' :: withLineFeeds rest
| '\r' :: rest => '\n' :: withLineFeeds rest
| c :: rest => c :: withLineFeeds rest
| [] => []

/- A line is not indented; a form feed starts it anew. -/
def isFlush (line : String) : Bool :=
  ((line.toList.takeWhile isSpace).reverse.takeWhile
    (fun c => c != '\x0c')).isEmpty

/- The tokens of a text; none of its characters is null. -/
def tokens? (s : String) : Option (List Token) :=
  let lines :=
    ((String.ofList (withLineFeeds s.toList)).splitOn
      "\n").dropWhile isIdleLine
  if s.toList.contains '\x00' || !lines.head?.all isFlush then
    none
  else
    tokensIn? 0 ("\n".intercalate lines).toList

end Literal

end DeclaredApi
