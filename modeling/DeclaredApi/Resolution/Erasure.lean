import DeclaredApi.Scope.Lookup
import DeclaredApi.TypeRef.Draft

/-
  Erasure of type variables.

  A variable erases to the raw class that is met by following
  first bounds, with one dimension for each array layer on
  the way.  The root object type stands at the end of a chain
  without a class, and of one that returns to a parameter.

  Key definitions include:
    * `ResolveError`
    * `ResolveScope`
    * `DeclaredType.Tip`
    * `DeclaredType.tip`
    * `ResolveScope.eraseFrom`
    * `ResolveScope.erase`
-/

------------------------------------------------------------
-- Errors and Scopes
------------------------------------------------------------

namespace DeclaredApi

/- Why a declared type has no reference. -/
inductive ResolveError where
| undeclared (e : UndeclaredVariable)
| invalid (e : TypeRef.BuildError)
| unsupportedType
| wildcardComponent
| wildcardBound
deriving DecidableEq, Repr

namespace ResolveError

/- The report of a declared type without a reference. -/
def message : ResolveError → String
| .undeclared e => e.message
| .invalid e => e.message
| .unsupportedType => "Unsupported native type node"
| .wildcardComponent => "Array component cannot be a wildcard"
| .wildcardBound => "Wildcard bound cannot be a wildcard"

end ResolveError

/-
  What declared types are resolved in: the registered
  scopes, the class, and the member if there is one.
-/
structure ResolveScope where
  root : String
  registry : Registry
  scope : ClassScope
  member : Option MemberDecl := none

namespace ResolveScope

/- The declaration of a variable that must be visible. -/
def require
    (s : ResolveScope)
    (name : String) : Except ResolveError TypeParameter :=
  match s.registry.requireVariable s.scope s.member name with
  | .ok parameter => .ok parameter
  | .error e => .error (.undeclared e)

/- The named type of a base with arguments. -/
def ofBase
    (base : String)
    (arguments : List TypeRef) : Except ResolveError TypeRef :=
  match TypeRef.ofBase base arguments with
  | .ok reference => .ok reference
  | .error e => .error (.invalid e)

end ResolveScope

end DeclaredApi

------------------------------------------------------------
-- First Bounds
------------------------------------------------------------

namespace DeclaredApi

namespace DeclaredType

/- What a chain of first bounds meets in one declared type. -/
inductive Tip where
| className (base : String)
| variableName (name : String)
| unbounded
| unsupported
deriving DecidableEq, Repr

mutual

/-
  The class or variable that a type is built on, and the
  number of array layers around it.
-/
def tip : DeclaredType → Tip × Nat
| .named name dimensions _ =>
    (.className (name ++ Name.brackets dimensions), 0)
| .applied name dimensions _ _ =>
    (.className (name ++ Name.brackets dimensions), 0)
| .arrayOf component =>
    let (t, layers) := tip component
    (t, layers + 1)
| .wildcard upper _ => tipOfFirst upper
| .typeVariable name => (.variableName name, 0)
| .unsupported => (.unsupported, 0)

/- The tip of the first bound, if there is one. -/
def tipOfFirst : List DeclaredType → Tip × Nat
| [] => (.unbounded, 0)
| t :: _ => tip t

end

end DeclaredType

end DeclaredApi

------------------------------------------------------------
-- Erasure
------------------------------------------------------------

namespace DeclaredApi

namespace ResolveScope

/-
  The erasure of a parameter.  `siblings` are the parameters
  declared together with the one that erasure starts from;
  they are looked up before the scope.  `seen` holds the
  names on the chain so far.
-/
def eraseFrom
    (s : ResolveScope)
    (siblings : List TypeParameter) :
    (fuel : Nat) →
    (seen : List String) →
    TypeParameter → Except ResolveError TypeRef
| 0, _, _ => .ok (.named s.root)
| fuel + 1, seen, .mk name bounds =>
    if seen.contains name then
      .ok (.named s.root)
    else
      let (t, layers) := DeclaredType.tipOfFirst bounds
      match t with
      | .unbounded =>
          .ok ((TypeRef.named s.root).addDimensions layers)
      | .className base => do
          let reference ← ofBase base []
          pure (reference.addDimensions layers)
      | .unsupported => .error .unsupportedType
      | .variableName next => do
          let parameter ←
            match siblings.find? (fun p => p.name = next) with
            | some parameter => .ok parameter
            | none => s.require next
          let reference ←
            eraseFrom s siblings fuel (name :: seen) parameter
          pure (reference.addDimensions layers)

/- A bound on the number of names that a chain can pass. -/
def chainBound
    (s : ResolveScope)
    (siblings : List TypeParameter) : Nat :=
  let own :=
    match s.member with
    | none => 0
    | some m => m.typeParameters.length
  siblings.length + own + s.scope.parameters.length +
    s.registry.variableCount + 2

/- The erasure of a parameter. -/
def erase
    (s : ResolveScope)
    (siblings : List TypeParameter)
    (parameter : TypeParameter) :
    Except ResolveError TypeRef :=
  eraseFrom s siblings (s.chainBound siblings) [] parameter

/- The erasures of a list of parameters. -/
def eraseAll
    (s : ResolveScope)
    (siblings : List TypeParameter) :
    List TypeParameter → Except ResolveError (List TypeRef)
| [] => .ok []
| p :: ps => do
    let reference ← erase s siblings p
    let references ← eraseAll s siblings ps
    pure (reference :: references)

end ResolveScope

end DeclaredApi
