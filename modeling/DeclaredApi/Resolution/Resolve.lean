import DeclaredApi.Resolution.Erasure
import DeclaredApi.Signature.Interner

/-
  Resolution of declared types.

  A declared type becomes a type reference.  Type variables
  must be visible from the class or member; they stay as
  names, or are replaced by their erasures on request.  Every
  reference on the way is interned.

  Key definitions include:
    * `Resolution`
    * `Resolution.variableRef`
    * `Resolution.namedRef`
    * `Resolution.resolve`
-/

------------------------------------------------------------
-- Resolutions
------------------------------------------------------------

namespace DeclaredApi

/- Where declared types are resolved, and how. -/
structure Resolution where
  config : Config
  registry : Registry
  scope : ClassScope
  member : Option MemberDecl := none
  erases : Bool := false

namespace Resolution

/- Resolving uses the interner and may fail. -/
abbrev Resolver :=
  ExceptT ResolveError (StateM Interner)

/- What variables are looked up in. -/
def toScope (r : Resolution) : ResolveScope where
  root := r.config.rootObject
  registry := r.registry
  scope := r.scope
  member := r.member

/- Intern a resolved reference. -/
def keep
    (r : Resolution)
    (reference : TypeRef) : Resolver TypeRef :=
  fun interner =>
    let (stored, interner) :=
      Interner.intern r.config reference interner
    (.ok stored, interner)

/- Intern a reference that may not exist. -/
def keepResult
    (r : Resolution)
    (result : Except ResolveError TypeRef) :
    Resolver TypeRef :=
  match result with
  | .ok reference => r.keep reference
  | .error e => throw e

end Resolution

end DeclaredApi

------------------------------------------------------------
-- Names
------------------------------------------------------------

namespace DeclaredApi

namespace Resolution

/- The reference of a type variable. -/
def variableRef
    (r : Resolution)
    (name : String) : Except ResolveError TypeRef := do
  let parameter ← r.toScope.require name
  if r.erases then
    r.toScope.erase [] parameter
  else
    ResolveScope.ofBase name []

/-
  The reference of a class without arguments.  With erasure
  its declared parameters, erased, take the place of them.
-/
def namedRef
    (r : Resolution)
    (name : String)
    (dimensions : Nat)
    (parameters : List TypeParameter) :
    Except ResolveError TypeRef := do
  let arguments ←
    if r.erases then
      r.toScope.eraseAll parameters parameters
    else
      .ok []
  ResolveScope.ofBase (name ++ Name.brackets dimensions)
    arguments

end Resolution

end DeclaredApi

------------------------------------------------------------
-- Declared Types
------------------------------------------------------------

namespace DeclaredApi

namespace Resolution

mutual

/- The reference of a declared type. -/
def resolve
    (r : Resolution) : DeclaredType → Resolver TypeRef
| .named name dimensions parameters =>
    r.keepResult (r.namedRef name dimensions parameters)
| .applied name dimensions _ arguments => do
    let arguments ← resolveAll r arguments
    r.keepResult
      (ResolveScope.ofBase (name ++ Name.brackets dimensions)
        arguments)
| .arrayOf component => do
    let reference ← resolve r component
    if reference.isWildcard then
      throw .wildcardComponent
    r.keep (reference.addDimensions 1)
| .wildcard [] [] =>
    r.keep (.unbounded r.config.rootObject)
| .wildcard (t :: ts) [] => do
    let bounds ← resolveBounds r (t :: ts)
    r.keep (.wildcard .upper bounds)
| .wildcard _ (t :: ts) => do
    let bounds ← resolveBounds r (t :: ts)
    r.keep (.wildcard .lower bounds)
| .typeVariable name => r.keepResult (r.variableRef name)
| .unsupported => throw .unsupportedType

/- The references of a list of declared types. -/
def resolveAll
    (r : Resolution) :
    List DeclaredType → Resolver (List TypeRef)
| [] => pure []
| t :: ts => do
    let reference ← resolve r t
    let references ← resolveAll r ts
    pure (reference :: references)

/- The references of bounds, none of which is a wildcard. -/
def resolveBounds
    (r : Resolution) :
    List DeclaredType → Resolver (List TypeRef)
| [] => pure []
| t :: ts => do
    let reference ← resolve r t
    if reference.isWildcard then
      throw .wildcardBound
    let references ← resolveBounds r ts
    pure (reference :: references)

end

end Resolution

end DeclaredApi
