import DeclaredApi.Declaration.Class
import DeclaredApi.Source.SyntaxTree
import DeclaredApi.SymbolTable

/-
  The outline of a source file.

  The outline is what can be read without looking at members:
  the package, the imports, the modifiers of a declaration,
  and the names of the types that the file declares.

  Key definitions include:
    * `Outline.declarationKinds`
    * `Outline.typeKinds`
    * `Outline.package`
    * `Outline.imports`
    * `Outline.modifiers`
    * `Outline.levelsIn`
    * `Outline.localTypes`
    * `Outline.context`
-/

------------------------------------------------------------
-- Kinds of Nodes
------------------------------------------------------------

namespace DeclaredApi

namespace Outline

/- The kinds of type declarations. -/
def declarationKinds : List String :=
  ["class_declaration", "interface_declaration",
    "enum_declaration", "record_declaration"]

/- The kind of nodes that hold the members of enumerations. -/
def enumBodyKind : String :=
  "enum_body_declarations"

/- The kinds of types. -/
def typeKinds : List String :=
  ["integral_type", "floating_point_type", "boolean_type",
    "void_type", "type_identifier", "scoped_type_identifier",
    "generic_type", "array_type", "annotated_type"]

/- The kinds of primitive types. -/
def primitiveKinds : List String :=
  ["integral_type", "floating_point_type", "boolean_type",
    "void_type"]

/- The modifiers that are kept. -/
def modifierKinds : List String :=
  ["public", "private", "protected", "static", "final",
    "abstract", "synchronized", "native", "default", "sealed",
    "non-sealed"]

/- The kinds of nodes that name packages and imports. -/
def identifierKinds : List String :=
  ["scoped_identifier", "identifier"]

/- What a declaration of a kind declares. -/
def classKind (kind : String) : ClassKind :=
  if kind = "interface_declaration" then
    .interface
  else if kind = "enum_declaration" then
    .enumeration
  else if kind = "record_declaration" then
    .record
  else
    .plain

/- A named child that is a type. -/
def isTypeChild (t : SyntaxTree) : Bool :=
  t.isNamed && typeKinds.contains t.kind

/- The named children that are types. -/
def typeChildren (t : SyntaxTree) : List SyntaxTree :=
  t.children.filter isTypeChild

end Outline

end DeclaredApi

------------------------------------------------------------
-- Headers
------------------------------------------------------------

namespace DeclaredApi

namespace Outline

/- The package that a file belongs to; `""` if none is named. -/
def package
    (source : SourceText)
    (file : SyntaxTree) : Except SourceError String :=
  let names :=
    (file.children.filter
      (fun c => c.kind = "package_declaration")).findSome?
        (fun c => c.childOf? identifierKinds)
  match names with
  | none => .ok ""
  | some name => source.read name

/- The import that a declaration makes, if it names a type. -/
def importOf
    (source : SourceText)
    (declaration : SyntaxTree) :
    Except SourceError (List String) :=
  if declaration.hasChild "static" then
    .ok []
  else
    match declaration.childOf? identifierKinds with
    | none => .ok []
    | some name => do
        let text ← source.read name
        pure
          (if declaration.hasChild "asterisk" then
            [text ++ ".*"]
          else
            [text])

/- The imports of types; on-demand imports end in `.*`. -/
def imports
    (source : SourceText)
    (file : SyntaxTree) : Except SourceError (List String) := do
  let found ←
    (file.children.filter
      (fun c => c.kind = "import_declaration")).mapM
        (importOf source)
  pure found.flatten

/- The modifiers of a declaration. -/
def modifiers (declaration : SyntaxTree) : List String :=
  (declaration.children.filter
    (fun c => c.kind = "modifiers")).flatMap (fun c =>
      (c.children.map SyntaxTree.kind).filter
        modifierKinds.contains)

/-
  Modifiers together with implicit ones.  Nothing is public
  by implication that is declared private or protected.
-/
def mergeModifiers
    (declared implicit : List String) : List String :=
  implicit.foldl
    (fun merged modifier =>
      if modifier = "public" &&
          (merged.contains "private" ||
            merged.contains "protected") then
        merged
      else if merged.contains modifier then
        merged
      else
        merged ++ [modifier])
    declared

end Outline

end DeclaredApi

------------------------------------------------------------
-- Declared Names
------------------------------------------------------------

namespace DeclaredApi

namespace Outline

/-
  Types by the depth of their declaration: each list holds
  the short and qualified names of one level.
-/
abbrev Levels := List (List (String × String))

/- Put levels after others, level by level. -/
def appendLevels : Levels → Levels → Levels
| [], levels => levels
| levels, [] => levels
| names :: levels, others :: rest =>
    (names ++ others) :: appendLevels levels rest

mutual

/- The types that a node declares, itself included. -/
def levelsOf
    (source : SourceText)
    (holder : String) :
    SyntaxTree → Except SourceError Levels
| .node kind _ _ _ _ children =>
    if declarationKinds.contains kind then
      match SyntaxTree.atField? "name" children with
      | none => .ok []
      | some node => do
          let name ← source.read node
          let qualified := Name.inside holder name
          let inner ← levelsInBody source qualified children
          pure ([(name, qualified)] :: inner)
    else if kind = enumBodyKind then
      levelsIn source holder children
    else
      .ok []

/- The types that the body among some nodes declares. -/
def levelsInBody
    (source : SourceText)
    (holder : String) :
    List SyntaxTree → Except SourceError Levels
| [] => .ok []
| .node _ _ _ field _ children :: rest =>
    if field = some "body" then
      levelsIn source holder children
    else
      levelsInBody source holder rest

/- The types that some nodes declare. -/
def levelsIn
    (source : SourceText)
    (holder : String) :
    List SyntaxTree → Except SourceError Levels
| [] => .ok []
| t :: ts => do
    let first ← levelsOf source holder t
    let others ← levelsIn source holder ts
    pure (appendLevels first others)

end

/- Keep the first qualified name of each short name. -/
def firstOfEach :
    List (String × String) → List (String × String)
| [] => []
| (name, qualified) :: rest =>
    (name, qualified) ::
      (firstOfEach rest).filter (fun other => other.1 != name)

/-
  The qualified names of the types of a file; of two types
  with one short name the one that is nested less deeply.
-/
def localTypes
    (source : SourceText)
    (package : String)
    (file : SyntaxTree) :
    Except SourceError (List (String × String)) := do
  let levels ← levelsIn source package file.children
  pure (firstOfEach levels.flatten)

/- What decides the short names of a file. -/
def context
    (source : SourceText)
    (file : SyntaxTree) : Except SourceError FileContext := do
  let package ← package source file
  let imports ← imports source file
  let localTypes ← localTypes source package file
  pure
    { package := package
      imports := imports
      localTypes := localTypes }

end Outline

end DeclaredApi
