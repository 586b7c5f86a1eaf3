import DeclaredApi.Json.Value

/-
  JSON text.

  `Json.pretty` writes one item or field on a line, indented
  by two blanks a level; empty lists and objects stay on
  their line.  `Json.compressed` writes a value on one line.
  `Json.serialize` orders the keys before it writes, and
  refuses a document that holds a foreign value or an integer
  with too many digits.

  Key definitions include:
    * `Json.encodeChar`
    * `Json.encodeText`
    * `Json.pretty`
    * `Json.encodeLine`
    * `Json.compressed`
    * `Json.SerializeError`
    * `Json.firstError?`
    * `Json.serialize`
-/

------------------------------------------------------------
-- Texts
------------------------------------------------------------

namespace DeclaredApi

namespace Json

/- One character inside a quoted text. -/
def encodeChar (c : Char) : List Char :=
  if c = '"' then
    ['\\', '"']
  else if c = '\\' then
    ['\\', '\\']
  else if c = '\n' then
    ['\\', 'n']
  else if c = '\r' then
    ['\\', 'r']
  else if c = '\t' then
    ['\\', 't']
  else if c = '\x0C' then
    ['\\', 'f']
  else if c = '\x08' then
    ['\\', 'b']
  else if c.toNat < 0x20 then
    '\\' :: 'u' :: Text.hexDigits 4 c.toNat
  else
    [c]

/- A quoted text. -/
def encodeText (s : String) : String :=
  String.ofList
    ('"' :: s.toList.flatMap encodeChar ++ ['"'])

/- The spelling of the special floats in documents. -/
def writtenFloat : Number.FloatSpelling :=
  ⟨"NaN", "Infinity"⟩

/- A new line at a level of indentation. -/
def lineBreak (level : Nat) : String :=
  String.ofList ('\n' :: List.replicate (2 * level) ' ')

end Json

end DeclaredApi

------------------------------------------------------------
-- Indented Text
------------------------------------------------------------

namespace DeclaredApi

namespace Json

mutual

/- The indented text of a value at a level. -/
def prettyAt
    (level : Nat) : Json → String
| .null => "null"
| .bool true => "true"
| .bool false => "false"
| .int value => toString value
| .float value => Number.floatText writtenFloat value
| .str value => encodeText value
| .list [] => "[]"
| .list (v :: vs) =>
    "[" ++ lineBreak (level + 1) ++ prettyAt (level + 1) v ++
      prettyItems (level + 1) vs ++ lineBreak level ++ "]"
| .object [] => "\x7b\x7d"
| .object ((key, v) :: rest) =>
    "\x7b" ++ lineBreak (level + 1) ++ encodeText key ++
      ": " ++ prettyAt (level + 1) v ++
      prettyFields (level + 1) rest ++ lineBreak level ++
      "\x7d"
| .foreign _ shown => encodeText shown

/- Items after the first, each on a line of its own. -/
def prettyItems
    (level : Nat) : List Json → String
| [] => ""
| v :: vs =>
    "," ++ lineBreak level ++ prettyAt level v ++
      prettyItems level vs

/- Fields after the first, each on a line of its own. -/
def prettyFields
    (level : Nat) : List (String × Json) → String
| [] => ""
| (key, v) :: rest =>
    "," ++ lineBreak level ++ encodeText key ++ ": " ++
      prettyAt level v ++ prettyFields level rest

end

/- The indented text of a value. -/
def pretty (value : Json) : String :=
  prettyAt 0 value

end Json

end DeclaredApi

------------------------------------------------------------
-- Text on One Line
------------------------------------------------------------

namespace DeclaredApi

namespace Json

/- A quoted text whose lone halves are written by code. -/
def encodeLine (s : String) : String :=
  String.ofList
    ('"' :: s.toList.flatMap (fun c =>
      match Text.half? c with
      | some code => '\\' :: 'u' :: Text.hexDigits 4 code
      | none => encodeChar c) ++ ['"'])

mutual

/- The text of a value on one line. -/
def compressed : Json → String
| .null => "null"
| .bool true => "true"
| .bool false => "false"
| .int value => toString value
| .float value => Number.floatText writtenFloat value
| .str value => encodeLine value
| .list items =>
    "[" ++ ",".intercalate (compressedAll items) ++ "]"
| .object fields =>
    "\x7b" ++ ",".intercalate (compressedFields fields) ++
      "\x7d"
| .foreign _ shown => encodeLine shown

/- The texts of the items of a list. -/
def compressedAll : List Json → List String
| [] => []
| v :: vs => compressed v :: compressedAll vs

/- The texts of the fields of an object. -/
def compressedFields :
    List (String × Json) → List String
| [] => []
| (key, v) :: rest =>
    (encodeLine key ++ ":" ++ compressed v) ::
      compressedFields rest

end

end Json

end DeclaredApi

------------------------------------------------------------
-- Documents
------------------------------------------------------------

namespace DeclaredApi

namespace Json

/- Why a document has no text. -/
inductive SerializeError where
| foreign (kind : String)
| longInteger
deriving DecidableEq, Repr

/- The wording of the error. -/
def SerializeError.message : SerializeError → String
| .foreign kind =>
    "Failed to serialize document: Object of type " ++ kind ++
      " is not JSON serializable"
| .longInteger =>
    "Failed to serialize document: Exceeds the limit (" ++
      toString digitLimit ++
      " digits) for integer string conversion"

mutual

/- The first value that has no text inside a value. -/
def firstError? : Json → Option SerializeError
| .int value =>
    if Nat.pow 10 digitLimit ≤ value.natAbs then
      some .longInteger
    else
      none
| .list items => firstErrorIn? items
| .object fields => firstErrorField? fields
| .foreign kind _ => some (.foreign kind)
| _ => none

/- The first value that has no text in a list. -/
def firstErrorIn? : List Json → Option SerializeError
| [] => none
| v :: vs =>
    match firstError? v with
    | some e => some e
    | none => firstErrorIn? vs

/- The first value that has no text in some fields. -/
def firstErrorField? :
    List (String × Json) → Option SerializeError
| [] => none
| (_, v) :: rest =>
    match firstError? v with
    | some e => some e
    | none => firstErrorField? rest

end

/- The text of a document with its keys in order. -/
def serialize (document : Json) : Except SerializeError String :=
  let value := document.sorted
  match value.firstError? with
  | some e => .error e
  | none => .ok value.pretty

end Json

end DeclaredApi
