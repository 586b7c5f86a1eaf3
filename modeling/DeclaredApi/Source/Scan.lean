import DeclaredApi.Source.Outline

/-
  Scanning of source files for declared types.

  A scan visits the declarations of a file, outer types
  before the types inside them, and stops at the first name
  that cannot be read; what it found up to there is kept.

  Key definitions include:
    * `Scan`
    * `Scan.append`
    * `Scan.declarationsOf`
    * `Scan.ofFile`
-/

------------------------------------------------------------
-- Results
------------------------------------------------------------

namespace DeclaredApi

/-
  The short and qualified names that a scan found, and
  whether it came to the end of its input.
-/
structure Scan where
  types : List (String × String) := []
  complete : Bool := true
deriving DecidableEq, Repr

namespace Scan

/- A scan that found nothing and stopped. -/
def stopped : Scan :=
  ⟨[], false⟩

/- A scan followed by another one, unless it stopped. -/
def append (a b : Scan) : Scan :=
  if a.complete then
    ⟨a.types ++ b.types, b.complete⟩
  else
    a

end Scan

end DeclaredApi

------------------------------------------------------------
-- Declarations
------------------------------------------------------------

namespace DeclaredApi

namespace Scan

mutual

/- The types that a node declares, itself first. -/
def declarationsOf
    (source : SourceText)
    (holder : String) : SyntaxTree → Scan
| .node kind _ _ _ _ children =>
    if Outline.declarationKinds.contains kind then
      match SyntaxTree.atField? "name" children with
      | none => {}
      | some node =>
          match source.read node with
          | .error _ => stopped
          | .ok name =>
              let qualified := Name.inside holder name
              append ⟨[(name, qualified)], true⟩
                (declarationsInBody source qualified children)
    else if kind = Outline.enumBodyKind then
      declarationsIn source holder children
    else
      {}

/- The types in the body among some nodes. -/
def declarationsInBody
    (source : SourceText)
    (holder : String) : List SyntaxTree → Scan
| [] => {}
| .node _ _ _ field _ children :: ts =>
    if field = some "body" then
      declarationsIn source holder children
    else
      declarationsInBody source holder ts

/- The types that some nodes declare. -/
def declarationsIn
    (source : SourceText)
    (holder : String) : List SyntaxTree → Scan
| [] => {}
| t :: ts =>
    append (declarationsOf source holder t)
      (declarationsIn source holder ts)

end

/- The types that a file declares. -/
def ofFile
    (source : SourceText)
    (file : SyntaxTree) : Scan :=
  match Outline.package source file with
  | .error _ => stopped
  | .ok package =>
      declarationsIn source package file.children

end Scan

end DeclaredApi
