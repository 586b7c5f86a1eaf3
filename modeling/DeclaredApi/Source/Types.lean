import DeclaredApi.Source.TypeNames

/-
  Declared types of source files.

  A type node becomes a declared type.  A simple name that is
  a type parameter in scope is a type variable; every other
  name is qualified.  Annotations are dropped, and so are the
  type arguments of the outer words of a dotted name.

  Key definitions include:
    * `SourceFile.segments`
    * `SourceFile.rawName`
    * `SourceFile.typeOf`
    * `SourceFile.argumentsOf`
    * `SourceFile.boundIn`
-/

------------------------------------------------------------
-- Raw Names
------------------------------------------------------------

namespace DeclaredApi

namespace SourceFile

mutual

/- The words of a dotted name that a node writes. -/
def segments
    (f : SourceFile) :
    SyntaxTree → Except SourceError (List String)
| .node kind start stop field isNamed children =>
    if !isNamed then
      .ok []
    else if kind = "type_identifier" then do
      let word ←
        f.read (.node kind start stop field isNamed children)
      pure [word]
    else if kind = "scoped_type_identifier" ||
        kind = "generic_type" then
      segmentsIn f children
    else
      .ok []

/- The words that some nodes write. -/
def segmentsIn
    (f : SourceFile) :
    List SyntaxTree → Except SourceError (List String)
| [] => .ok []
| t :: ts => do
    let words ← segments f t
    let others ← segmentsIn f ts
    pure (words ++ others)

end

/- The qualified name of a dotted name, from its parts. -/
def scopedName
    (f : SourceFile)
    (nodes : List SyntaxTree) : Except SourceError String := do
  let words ← f.segmentsIn nodes
  f.qualifySegments words

/- The class of a generic type, from its parts. -/
def rawName
    (f : SourceFile)
    (nodes : List SyntaxTree) : Except SourceError String :=
  match SyntaxTree.ofKind?
      ["type_identifier", "scoped_type_identifier"] nodes with
  | none => .error .unreadable
  | some t =>
      if t.kind = "type_identifier" then do
        let name ← f.read t
        pure (f.qualify name)
      else
        f.scopedName t.children

end SourceFile

end DeclaredApi

------------------------------------------------------------
-- Types
------------------------------------------------------------

namespace DeclaredApi

namespace SourceFile

/- A class, or a class applied to arguments if there are any. -/
def applied
    (name : String) : List DeclaredType → DeclaredType
| [] => .ofName name
| t :: ts => .applied name 0 [] (t :: ts)

/- The type that a simple name stands for. -/
def nameType
    (f : SourceFile)
    (scope : List String)
    (name : String) : DeclaredType :=
  if scope.contains name then
    .typeVariable name
  else
    .ofName (f.qualify name)

mutual

/- The declared type that a node writes. -/
def typeOf
    (f : SourceFile)
    (scope : List String) :
    SyntaxTree → Except SourceError DeclaredType
| .node kind start stop field isNamed children =>
    let whole : SyntaxTree :=
      .node kind start stop field isNamed children
    if Outline.primitiveKinds.contains kind then do
      let name ← f.read whole
      pure (.ofName name)
    else if kind = "type_identifier" then do
      let name ← f.read whole
      pure (f.nameType scope name)
    else if kind = "scoped_type_identifier" then do
      let name ← f.scopedName children
      pure (.ofName name)
    else if kind = "generic_type" then do
      let name ← f.rawName children
      let arguments ← argumentsOf f scope children
      pure (applied name arguments)
    else if kind = "array_type" then do
      let element ← typeAt f scope "element" children
      let dimensions ← f.dimensionsAt children
      pure (element.addDimensions dimensions)
    else if kind = "annotated_type" then
      lastType f scope children
    else do
      let text ← f.read whole
      .error (.unsupportedType kind text)

/- The type that fills a field of some nodes. -/
def typeAt
    (f : SourceFile)
    (scope : List String)
    (wanted : String) :
    List SyntaxTree → Except SourceError DeclaredType
| [] => .error .unreadable
| t :: ts =>
    if t.field = some wanted then
      typeOf f scope t
    else
      typeAt f scope wanted ts

/- The last of some nodes that is a type. -/
def lastType
    (f : SourceFile)
    (scope : List String) :
    List SyntaxTree → Except SourceError DeclaredType
| [] => .error .unreadable
| t :: ts =>
    if ts.any Outline.isTypeChild then
      lastType f scope ts
    else if Outline.isTypeChild t then
      typeOf f scope t
    else
      .error .unreadable

/- The type arguments among the parts of a generic type. -/
def argumentsOf
    (f : SourceFile)
    (scope : List String) :
    List SyntaxTree → Except SourceError (List DeclaredType)
| [] => .ok []
| .node kind _ _ _ _ children :: ts =>
    if kind = "type_arguments" then
      argumentsIn f scope children
    else
      argumentsOf f scope ts

/- The types and wildcards among some nodes. -/
def argumentsIn
    (f : SourceFile)
    (scope : List String) :
    List SyntaxTree → Except SourceError (List DeclaredType)
| [] => .ok []
| .node kind start stop field isNamed children :: ts =>
    if !isNamed then
      argumentsIn f scope ts
    else if kind = "wildcard" then do
      let argument ← boundIn f scope none children
      let others ← argumentsIn f scope ts
      pure (argument :: others)
    else if Outline.typeKinds.contains kind then do
      let argument ← typeOf f scope
        (.node kind start stop field isNamed children)
      let others ← argumentsIn f scope ts
      pure (argument :: others)
    else
      argumentsIn f scope ts

/-
  The wildcard that some nodes write: its bound is the first
  type after a keyword, in the direction of the last keyword
  before it.
-/
def boundIn
    (f : SourceFile)
    (scope : List String)
    (keyword : Option String) :
    List SyntaxTree → Except SourceError DeclaredType
| [] => .ok (.wildcard [] [])
| .node kind start stop field isNamed children :: ts =>
    if kind = "extends" || kind = "super" then
      boundIn f scope (some kind) ts
    else if keyword.isSome &&
        Outline.typeKinds.contains kind then do
      let bound ← typeOf f scope
        (.node kind start stop field isNamed children)
      if keyword = some "super" then
        pure (.wildcard [] [bound])
      else
        pure (.wildcard [bound] [])
    else
      boundIn f scope keyword ts

end

end SourceFile

end DeclaredApi
