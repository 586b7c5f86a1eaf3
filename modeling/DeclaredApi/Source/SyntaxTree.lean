/-
  Syntax trees of source files.

  A node has a kind, the range of bytes that it covers, the
  field that it fills in its parent, and its children; the
  text of a node is its range decoded as UTF-8.

  Key definitions include:
    * `SyntaxTree`
    * `SyntaxTree.childAt?`
    * `SyntaxTree.childOf?`
    * `SyntaxTree.namedChildren`
    * `SourceError`
    * `SourceText.read`
-/

------------------------------------------------------------
-- Nodes
------------------------------------------------------------

namespace DeclaredApi

/- A node of a syntax tree. -/
inductive SyntaxTree where
| node
    (kind : String)
    (start stop : Nat)
    (field : Option String)
    (isNamed : Bool)
    (children : List SyntaxTree)
deriving Repr, Inhabited

namespace SyntaxTree

/- The kind of a node. -/
def kind : SyntaxTree → String
| .node kind _ _ _ _ _ => kind

/- The offset of the first byte of a node. -/
def start : SyntaxTree → Nat
| .node _ start _ _ _ _ => start

/- The offset after the last byte of a node. -/
def stop : SyntaxTree → Nat
| .node _ _ stop _ _ _ => stop

/- The field that a node fills in its parent. -/
def field : SyntaxTree → Option String
| .node _ _ _ field _ _ => field

/- Punctuation and keywords are not named. -/
def isNamed : SyntaxTree → Bool
| .node _ _ _ _ isNamed _ => isNamed

/- The children of a node in order. -/
def children : SyntaxTree → List SyntaxTree
| .node _ _ _ _ _ children => children

end SyntaxTree

end DeclaredApi

------------------------------------------------------------
-- Children
------------------------------------------------------------

namespace DeclaredApi

namespace SyntaxTree

/- The first node of a list that fills a field. -/
def atField?
    (field : String)
    (nodes : List SyntaxTree) : Option SyntaxTree :=
  nodes.find? (fun t => t.field = some field)

/- The first node of a list that is of one of the kinds. -/
def ofKind?
    (kinds : List String)
    (nodes : List SyntaxTree) : Option SyntaxTree :=
  nodes.find? (fun t => kinds.contains t.kind)

/- The first child that fills a field. -/
def childAt?
    (t : SyntaxTree)
    (field : String) : Option SyntaxTree :=
  atField? field t.children

/- The children that fill a field. -/
def childrenAt
    (t : SyntaxTree)
    (field : String) : List SyntaxTree :=
  t.children.filter (fun c => c.field = some field)

/- The first child that is of one of the kinds. -/
def childOf?
    (t : SyntaxTree)
    (kinds : List String) : Option SyntaxTree :=
  ofKind? kinds t.children

/- The children that are named. -/
def namedChildren (t : SyntaxTree) : List SyntaxTree :=
  t.children.filter SyntaxTree.isNamed

/- A child of the kind exists. -/
def hasChild
    (t : SyntaxTree)
    (kind : String) : Bool :=
  t.children.any (fun c => c.kind = kind)

end SyntaxTree

end DeclaredApi

------------------------------------------------------------
-- Texts
------------------------------------------------------------

namespace DeclaredApi

/-
  Why a source file cannot be read: a type node of a kind
  that has no meaning, or a node or text that is missing.
-/
inductive SourceError where
| unsupportedType (kind text : String)
| unreadable
deriving DecidableEq, Repr

namespace SourceError

/- The report of a file that cannot be read. -/
def message : SourceError → String
| .unsupportedType kind text =>
    "Unsupported type node '" ++ kind ++ "': " ++ text
| .unreadable => "a part of the source cannot be read"

end SourceError

/- The bytes of a source file. -/
abbrev SourceText := ByteArray

namespace SourceText

/- The text of a node. -/
def read
    (source : SourceText)
    (t : SyntaxTree) : Except SourceError String :=
  match String.fromUTF8? (source.extract t.start t.stop) with
  | some text => .ok text
  | none => .error .unreadable

/- The text of a node that may be missing. -/
def readOptional
    (source : SourceText)
    (t : Option SyntaxTree) : Except SourceError String :=
  match t with
  | some t => source.read t
  | none => .error .unreadable

/- The number of array dimensions that a node writes. -/
def countDimensions
    (source : SourceText)
    (t : Option SyntaxTree) : Except SourceError Nat :=
  match t with
  | none => .ok 0
  | some t => do
      let text ← source.read t
      pure (text.toList.count '[')

end SourceText

end DeclaredApi
