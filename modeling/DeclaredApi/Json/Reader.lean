import DeclaredApi.Json.Value
import DeclaredApi.Text.Half

/-
  Reading of JSON text.

  `Json.read` reads one value that takes up a whole text.  It
  accepts JSON and the names of the special floats, and it
  reports the first fault with the place it was found at.
  `Json.deserialize` accepts objects only.

  Key definitions include:
    * `Json.Cursor`
    * `Json.ReadReason`
    * `Json.ReadFault`
    * `Json.readTextBody`
    * `Json.readNumber`
    * `Json.readValue`
    * `Json.read`
    * `Json.DocumentError`
    * `Json.deserialize`
-/

------------------------------------------------------------
-- Faults
------------------------------------------------------------

namespace DeclaredApi

namespace Json

/- Why a text is not JSON. -/
inductive ReadReason where
| expectedValue
| expectedKey
| expectedColon
| expectedComma
| unterminatedText
| controlCharacter
| invalidEscape
| invalidCode
| extraData
| byteOrderMark
| longInteger
deriving DecidableEq, Repr

namespace ReadReason

/- The wording of a reason. -/
def text : ReadReason → String
| .expectedValue => "Expecting value"
| .expectedKey =>
    "Expecting property name enclosed in double quotes"
| .expectedColon => "Expecting ':' delimiter"
| .expectedComma => "Expecting ',' delimiter"
| .unterminatedText => "Unterminated string starting at"
| .controlCharacter => "Invalid control character at"
| .invalidEscape => "Invalid \\escape"
| .invalidCode => "Invalid \\uXXXX escape"
| .extraData => "Extra data"
| .byteOrderMark =>
    "Unexpected UTF-8 BOM (decode using utf-8-sig)"
| .longInteger => "Integer with too many digits"

end ReadReason

/- A reason and the offset that it was found at. -/
structure ReadFault where
  position : Nat
  reason : ReadReason
deriving DecidableEq, Repr

/- The characters left to read and the offset of the first. -/
structure Cursor where
  position : Nat
  rest : List Char
deriving DecidableEq, Repr

end Json

end DeclaredApi

------------------------------------------------------------
-- Cursors
------------------------------------------------------------

namespace DeclaredApi

namespace Json

namespace Cursor

/- The cursor after the next `count` characters. -/
def advance
    (c : Cursor)
    (count : Nat) : Cursor :=
  ⟨c.position + count, c.rest.drop count⟩

/- The characters between the tokens of JSON. -/
def isSpace (c : Char) : Bool :=
  c = ' ' || c = '\t' || c = '\n' || c = '\r'

/- Pass over the spaces at a position. -/
def skipFrom
    (position : Nat) : List Char → Cursor
| [] => ⟨position, []⟩
| ch :: rest =>
    if isSpace ch then
      skipFrom (position + 1) rest
    else
      ⟨position, ch :: rest⟩

/- The cursor after any spaces. -/
def skipSpaces (c : Cursor) : Cursor :=
  skipFrom c.position c.rest

/- The next character. -/
def peek? (c : Cursor) : Option Char :=
  c.rest.head?

/- Fail at a cursor. -/
def fail
    {α : Type}
    (c : Cursor)
    (reason : ReadReason) :
    Except ReadFault α :=
  .error ⟨c.position, reason⟩

end Cursor

end Json

end DeclaredApi

------------------------------------------------------------
-- Texts
------------------------------------------------------------

namespace DeclaredApi

namespace Json

/- The value of a hexadecimal digit. -/
def hexValue? (c : Char) : Option Nat :=
  if c.isDigit then
    some (c.toNat - '0'.toNat)
  else if 'a' ≤ c ∧ c ≤ 'f' then
    some (c.toNat - 'a'.toNat + 10)
  else if 'A' ≤ c ∧ c ≤ 'F' then
    some (c.toNat - 'A'.toNat + 10)
  else
    none

/- The number that four hexadecimal digits write. -/
def hexCode? : List Char → Option Nat
| a :: b :: c :: d :: _ => do
    let a ← hexValue? a
    let b ← hexValue? b
    let c ← hexValue? c
    let d ← hexValue? d
    pure (((a * 16 + b) * 16 + c) * 16 + d)
| _ => none

/- The character of an escape of one letter. -/
def letterEscape? : Char → Option Char
| '"' => some '"'
| '\\' => some '\\'
| '/' => some '/'
| 'b' => some '\x08'
| 'f' => some '\x0C'
| 'n' => some '\n'
| 'r' => some '\r'
| 't' => some '\t'
| _ => none

/-
  The low half of a pair of codes, where the cursor stands
  after the high half; absent if no low half is written.
-/
def readLowHalf
    (c : Cursor) : Except ReadFault (Option Nat) :=
  match c.rest with
  | '\\' :: 'u' :: digits =>
      if (digits.drop 4).isEmpty then
        .ok none
      else
        match hexCode? digits with
        | none => (c.advance 1).fail .invalidCode
        | some low =>
            if Text.isLowHalf low then
              .ok (some low)
            else
              .ok none
  | _ => .ok none

/-
  A character written by code, where the cursor stands at
  the letter `u`.  Four digits and one more character must
  follow.
-/
def readCode
    (c : Cursor) : Except ReadFault (Char × Cursor) :=
  let digits := c.rest.drop 1
  if (digits.drop 4).isEmpty then
    c.fail .invalidCode
  else
    match hexCode? digits with
    | none => c.fail .invalidCode
    | some code =>
        let after := c.advance 5
        if Text.isHighHalf code then do
          match ← readLowHalf after with
          | some low =>
              .ok (Text.joinHalves code low, after.advance 6)
          | none => .ok (Text.keepHalf code, after)
        else if Text.isLowHalf code then
          .ok (Text.keepHalf code, after)
        else
          .ok (Char.ofNat code, after)

/- An escape, where the cursor stands at the backslash. -/
def readEscape
    (start : Nat)
    (c : Cursor) : Except ReadFault (Char × Cursor) :=
  match (c.advance 1).peek? with
  | none => .error ⟨start, .unterminatedText⟩
  | some 'u' => readCode (c.advance 1)
  | some letter =>
      match letterEscape? letter with
      | some ch => .ok (ch, c.advance 2)
      | none => c.fail .invalidEscape

/-
  The characters of a text up to its closing quote.  `start`
  is the offset of the opening quote; the number of
  characters left is fuel enough.
-/
def readTextBody
    (start : Nat) :
    (fuel : Nat) →
    Cursor → Except ReadFault (List Char × Cursor)
| 0, _ => .error ⟨start, .unterminatedText⟩
| fuel + 1, c =>
    match c.peek? with
    | none => .error ⟨start, .unterminatedText⟩
    | some ch =>
        if ch = '"' then
          .ok ([], c.advance 1)
        else if ch = '\\' then do
          let (ch, after) ← readEscape start c
          let (chars, after) ← readTextBody start fuel after
          pure (ch :: chars, after)
        else if ch.toNat < 0x20 then
          c.fail .controlCharacter
        else do
          let (chars, after) ←
            readTextBody start fuel (c.advance 1)
          pure (ch :: chars, after)

/- A text, where the cursor stands at the opening quote. -/
def readText
    (c : Cursor) : Except ReadFault (String × Cursor) := do
  let (chars, after) ←
    readTextBody c.position c.rest.length (c.advance 1)
  pure (String.ofList chars, after)

end Json

end DeclaredApi

------------------------------------------------------------
-- Numbers
------------------------------------------------------------

namespace DeclaredApi

namespace Json

/- The number that decimal digits write. -/
def digitsValue (digits : List Char) : Nat :=
  digits.foldl
    (fun acc c => acc * 10 + (c.toNat - '0'.toNat)) 0

/- The digits of an integer: `0`, or none before others. -/
def wholeDigits : List Char → List Char
| '0' :: _ => ['0']
| chars => chars.takeWhile Char.isDigit

/- The digits after a point; none if no fraction follows. -/
def fractionDigits : List Char → List Char
| '.' :: rest => rest.takeWhile Char.isDigit
| _ => []

/-
  An exponent with the number of characters that it takes;
  absent if no digits follow the letter.
-/
def exponentPart? : List Char → Option (Int × Nat)
| letter :: rest =>
    if letter = 'e' ∨ letter = 'E' then
      let (sign, size, body) : Int × Nat × List Char :=
        match rest with
        | '-' :: body => (-1, 2, body)
        | '+' :: body => (1, 2, body)
        | body => (1, 1, body)
      let digits := body.takeWhile Char.isDigit
      if digits.isEmpty then
        none
      else
        some (sign * digitsValue digits, size + digits.length)
    else
      none
| [] => none

/- A number; a fraction or an exponent makes it a float. -/
def readNumber
    (c : Cursor) : Except ReadFault (Json × Cursor) :=
  let negative := c.peek? = some '-'
  let body := if negative then c.advance 1 else c
  let whole := wholeDigits body.rest
  if whole.isEmpty then
    c.fail .expectedValue
  else
    let afterWhole := body.advance whole.length
    let fraction := fractionDigits afterWhole.rest
    let afterFraction :=
      if fraction.isEmpty then
        afterWhole
      else
        afterWhole.advance (fraction.length + 1)
    match fraction, exponentPart? afterFraction.rest with
    | [], none =>
        if digitLimit < whole.length then
          c.fail .longInteger
        else
          let value : Int := digitsValue whole
          .ok (.int (if negative then -value else value),
            afterWhole)
    | fraction, some (exponent, size) =>
        .ok (.float (Number.nearestFloat negative
            (digitsValue (whole ++ fraction))
            (exponent - fraction.length)),
          afterFraction.advance size)
    | fraction, none =>
        .ok (.float (Number.nearestFloat negative
            (digitsValue (whole ++ fraction))
            (-fraction.length)),
          afterFraction)

end Json

end DeclaredApi

------------------------------------------------------------
-- Values
------------------------------------------------------------

namespace DeclaredApi

namespace Json

/- The values that are written as names. -/
def namedValues : List (String × Json) :=
  [("null", .null), ("true", .bool true),
    ("false", .bool false), ("NaN", .float (0.0 / 0.0)),
    ("Infinity", .float (1.0 / 0.0)),
    ("-Infinity", .float (-1.0 / 0.0))]

/- The named value at a cursor and the length of its name. -/
def namedValue? (c : Cursor) : Option (Json × Nat) :=
  (namedValues.find? (fun entry =>
    entry.1.toList.isPrefixOf c.rest)).map (fun entry =>
      (entry.2, entry.1.length))

mutual

/-
  A value.  Each call takes a character or hands its cursor
  to one that does, so twice the length is fuel enough.
-/
def readValue :
    (fuel : Nat) →
    Cursor → Except ReadFault (Json × Cursor)
| 0, c => c.fail .expectedValue
| fuel + 1, c =>
    match c.peek? with
    | some '"' => do
        let (s, after) ← readText c
        pure (.str s, after)
    | some '\x7b' =>
        let inside := (c.advance 1).skipSpaces
        if inside.peek? = some '\x7d' then
          .ok (.object [], inside.advance 1)
        else do
          let (fields, after) ← readFields fuel inside
          pure (ofFields fields, after)
    | some '[' =>
        let inside := (c.advance 1).skipSpaces
        if inside.peek? = some ']' then
          .ok (.list [], inside.advance 1)
        else do
          let (items, after) ← readItems fuel inside
          pure (.list items, after)
    | _ =>
        match namedValue? c with
        | some (value, size) => .ok (value, c.advance size)
        | none => readNumber c

/- The items of a list up to its closing bracket. -/
def readItems :
    (fuel : Nat) →
    Cursor → Except ReadFault (List Json × Cursor)
| 0, c => c.fail .expectedValue
| fuel + 1, c => do
    let (item, after) ← readValue fuel c
    let next := after.skipSpaces
    match next.peek? with
    | some ']' => pure ([item], next.advance 1)
    | some ',' =>
        let (items, after) ←
          readItems fuel (next.advance 1).skipSpaces
        pure (item :: items, after)
    | _ => next.fail .expectedComma

/- The fields of an object up to its closing brace. -/
def readFields :
    (fuel : Nat) →
    Cursor → Except ReadFault (List (String × Json) × Cursor)
| 0, c => c.fail .expectedValue
| fuel + 1, c => do
    if c.peek? ≠ some '"' then
      c.fail .expectedKey
    let (key, after) ← readText c
    let colon := after.skipSpaces
    if colon.peek? ≠ some ':' then
      colon.fail .expectedColon
    let (value, after) ←
      readValue fuel (colon.advance 1).skipSpaces
    let next := after.skipSpaces
    match next.peek? with
    | some '\x7d' => pure ([(key, value)], next.advance 1)
    | some ',' =>
        let (fields, after) ←
          readFields fuel (next.advance 1).skipSpaces
        pure ((key, value) :: fields, after)
    | _ => next.fail .expectedComma

end

/- The value that a whole text writes. -/
def read (text : String) : Except ReadFault Json := do
  let start : Cursor := ⟨0, text.toList⟩
  if start.peek? = some '\uFEFF' then
    start.fail .byteOrderMark
  let (value, after) ←
    readValue (2 * start.rest.length + 2) start.skipSpaces
  let stop := after.skipSpaces
  if !stop.rest.isEmpty then
    stop.fail .extraData
  pure value

end Json

end DeclaredApi

------------------------------------------------------------
-- Documents
------------------------------------------------------------

namespace DeclaredApi

namespace Json

/- The line of an offset, from one. -/
def lineOf
    (text : String)
    (position : Nat) : Nat :=
  (text.toList.take position).count '\n' + 1

/- The column of an offset in its line, from one. -/
def columnOf
    (text : String)
    (position : Nat) : Nat :=
  ((text.toList.take position).reverse.takeWhile
    (fun c => c != '\n')).length + 1

/-
  Why a text is no document.  An integer that is too long is
  well formed, so it is told apart from malformed text.
-/
inductive DocumentError where
| malformed (line column : Nat) (reason : ReadReason)
| longInteger
| notAnObject (kind : String)
deriving DecidableEq, Repr

namespace DocumentError

/- The report of a refused document. -/
def message : DocumentError → String
| .malformed line column reason =>
    "Invalid JSON format: Line " ++ toString line ++
      ", column " ++ toString column ++ ": " ++ reason.text
| .longInteger => ReadReason.longInteger.text
| .notAnObject kind =>
    "Invalid document: expected an object, got " ++ kind

end DocumentError

/- The object that a text writes. -/
def deserialize
    (text : String) : Except DocumentError Json :=
  match read text with
  | .error ⟨_, .longInteger⟩ => .error .longInteger
  | .error fault =>
      .error (.malformed (lineOf text fault.position)
        (columnOf text fault.position) fault.reason)
  | .ok (.object fields) => .ok (.object fields)
  | .ok value => .error (.notAnObject value.kind)

end Json

end DeclaredApi
