import DeclaredApi.Name

/-
  Types as declarations write them.

  A declared type is a use of a class, bare or applied to
  arguments, an array of another type, a wildcard, or a use
  of a type variable by name.  A bare use of a generic class
  carries the type parameters that the class declares.

  Key definitions include:
    * `DeclaredType`
    * `TypeParameter`
    * `DeclaredType.addDimensions`
    * `DeclaredType.rawName?`
-/

------------------------------------------------------------
-- Declared Types
------------------------------------------------------------

namespace DeclaredApi

mutual

/- A type as a declaration writes it. -/
inductive DeclaredType where
| named
    (name : String)
    (dimensions : Nat)
    (parameters : List TypeParameter)
| applied
    (name : String)
    (dimensions : Nat)
    (parameters : List TypeParameter)
    (arguments : List DeclaredType)
| arrayOf (component : DeclaredType)
| wildcard (upper lower : List DeclaredType)
| typeVariable (name : String)
| unsupported

/- A type variable with its declared bounds. -/
inductive TypeParameter where
| mk (name : String) (bounds : List DeclaredType)

end

deriving instance Inhabited for DeclaredType, TypeParameter

namespace TypeParameter

/- The name of the variable. -/
def name : TypeParameter → String
| .mk name _ => name

/- The bounds in declaration order. -/
def bounds : TypeParameter → List DeclaredType
| .mk _ bounds => bounds

end TypeParameter

end DeclaredApi

------------------------------------------------------------
-- Parts of Declared Types
------------------------------------------------------------

namespace DeclaredApi

namespace DeclaredType

/- A class without dimensions or known parameters. -/
def ofName (name : String) : DeclaredType :=
  .named name 0 []

/- A type inside a number of array layers. -/
def layered : Nat → DeclaredType → DeclaredType
| 0, t => t
| count + 1, t => layered count (.arrayOf t)

/-
  A type with more array dimensions: a bare class counts
  them, any other type is put inside array layers.
-/
def addDimensions
    (count : Nat) : DeclaredType → DeclaredType
| .named name dimensions parameters =>
    .named name (dimensions + count) parameters
| t => layered count t

/- The class that a type is a use of. -/
def rawName? : DeclaredType → Option String
| .named name _ _ => some name
| .applied name _ _ _ => some name
| _ => none

end DeclaredType

end DeclaredApi
