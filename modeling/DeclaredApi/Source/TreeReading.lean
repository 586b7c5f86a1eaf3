import DeclaredApi.Json.Reader
import DeclaredApi.Source.Files

/-
  Syntax trees and sources as JSON.

  A node is an object with its kind under `t`, its range of
  bytes under `s` and `e`, its field under `f`, a mark `u` if
  it is not named, and its children under `c`.  A set of files
  is an object from paths to objects with the text of a file
  under `source` and its tree under `tree`; the text is a
  string, or an object with its bytes in `hex` digits.

  Key definitions include:
    * `SyntaxTree.ofJson`
    * `SourceText.ofJson`
    * `SourceEntry.ofJson`
-/

------------------------------------------------------------
-- Parts of Nodes
------------------------------------------------------------

namespace DeclaredApi

namespace SyntaxTree

/- The text under a key, if there is one. -/
def textAt?
    (fields : List (String × Json))
    (key : String) : Option String :=
  match fields.lookup key with
  | some (.str text) => some text
  | _ => none

/- The number under a key; zero if there is none. -/
def offsetAt
    (fields : List (String × Json))
    (key : String) : Nat :=
  match fields.lookup key with
  | some (.int value) => value.toNat
  | _ => 0

/- A mark stands under a key. -/
def markAt
    (fields : List (String × Json))
    (key : String) : Bool :=
  match fields.lookup key with
  | some value => value.truthy
  | none => false

end SyntaxTree

end DeclaredApi

------------------------------------------------------------
-- Nodes
------------------------------------------------------------

namespace DeclaredApi

namespace SyntaxTree

mutual

/- The tree that a value describes. -/
def ofJson : Json → SyntaxTree
| .object fields =>
    .node ((textAt? fields "t").getD "")
      (offsetAt fields "s") (offsetAt fields "e")
      (textAt? fields "f") (!markAt fields "u")
      (childrenAtKey fields)
| _ => .node "" 0 0 none true []

/- The trees of the list under the key of the children. -/
def childrenAtKey : List (String × Json) → List SyntaxTree
| [] => []
| (key, .list items) :: rest =>
    if key = "c" then ofItems items else childrenAtKey rest
| _ :: rest => childrenAtKey rest

/- The trees that the items of a list describe. -/
def ofItems : List Json → List SyntaxTree
| [] => []
| item :: rest => ofJson item :: ofItems rest

end

end SyntaxTree

end DeclaredApi

------------------------------------------------------------
-- Sources
------------------------------------------------------------

namespace DeclaredApi

namespace SourceText

/- The bytes that pairs of hexadecimal digits write. -/
def ofHexDigits
    (bytes : ByteArray) : List Char → SourceText
| a :: b :: rest =>
    let high := (Json.hexValue? a).getD 0
    let low := (Json.hexValue? b).getD 0
    ofHexDigits
      (bytes.push (UInt8.ofNat (high * 16 + low))) rest
| _ => bytes

/- The bytes of a source. -/
def ofJson : Json → SourceText
| .str text => text.toUTF8
| value =>
    match value.get? "hex" with
    | some (.str digits) => ofHexDigits .empty digits.toList
    | _ => .empty

end SourceText

namespace SourceEntry

/- A file with its source and its tree. -/
def ofField
    (path : String)
    (file : Json) : SourceEntry :=
  let part (key : String) : Json := (file.get? key).getD .null
  { path := components path
    content := some
      { source := SourceText.ofJson (part "source")
        tree := SyntaxTree.ofJson (part "tree") } }

/- The set of files that a value describes. -/
def ofJson (files : Json) : List SourceEntry :=
  files.fields.map (fun f => ofField f.1 f.2)

end SourceEntry

end DeclaredApi
