import DeclaredApi.TypeRef.Basic

/-
  Building of type references from unchecked parts.

  A draft is a reference tree whose names and relations are
  any texts.  `TypeRef.Draft.build` checks a draft from the
  inside out and reports the first part that is refused.

  Key definitions include:
    * `TypeRef.BuildError`
    * `TypeRef.ofBase`
    * `TypeRef.ofBounds`
    * `TypeRef.Draft`
    * `TypeRef.Draft.build`
-/

------------------------------------------------------------
-- Named Types and Wildcards
------------------------------------------------------------

namespace DeclaredApi

namespace TypeRef

/- Why the parts of a reference are refused. -/
inductive BuildError where
| badBase
| primitiveArguments (base : String)
| badRelation
| noBounds
| wildcardBound (index : Nat)
deriving DecidableEq, Repr

namespace BuildError

/- The report of arguments that a name cannot carry. -/
def message : BuildError → String
| .primitiveArguments base =>
    "Primitive type '" ++ base ++
      "' cannot carry type arguments"
| _ => ""

end BuildError

/- The named type with a base and arguments. -/
def ofBase
    (base : String)
    (arguments : List TypeRef) : Except BuildError TypeRef :=
  let (element, dimensions) := Name.splitDimensions base
  if !Name.isDotted element then
    .error .badBase
  else if !arguments.isEmpty && Name.isPrimitive element then
    .error (.primitiveArguments base)
  else
    .ok (.simple element dimensions arguments)

/- The index of the first wildcard of a list. -/
def firstWildcard? (bounds : List TypeRef) : Option Nat :=
  bounds.findIdx? isWildcard

/- The wildcard with bounds in a direction. -/
def ofBounds
    (relation : BoundRelation)
    (bounds : List TypeRef) : Except BuildError TypeRef :=
  if bounds.isEmpty then
    .error .noBounds
  else
    match firstWildcard? bounds with
    | some index => .error (.wildcardBound index)
    | none => .ok (.wildcard relation bounds)

end TypeRef

end DeclaredApi

------------------------------------------------------------
-- Drafts
------------------------------------------------------------

namespace DeclaredApi

namespace TypeRef

/- An unchecked reference tree. -/
inductive Draft where
| simple (base : String) (arguments : List Draft)
| wildcard (relation : String) (bounds : List Draft)
deriving Repr, Inhabited

namespace Draft

mutual

/- The reference that a draft describes. -/
def build : Draft → Except BuildError TypeRef
| .simple base arguments => do
    let arguments ← buildAll arguments
    ofBase base arguments
| .wildcard relation bounds => do
    let bounds ← buildAll bounds
    match BoundRelation.ofWord? relation with
    | none => .error .badRelation
    | some relation => ofBounds relation bounds

/- The references that a list of drafts describes. -/
def buildAll : List Draft → Except BuildError (List TypeRef)
| [] => .ok []
| d :: ds => do
    let reference ← build d
    let references ← buildAll ds
    pure (reference :: references)

end

end Draft

end TypeRef

end DeclaredApi
