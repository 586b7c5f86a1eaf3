import DeclaredApi.Declaration.Class
import DeclaredApi.Scope.Registry
import DeclaredApi.TypeRef.Compact

/-
  Class signatures.

  A class signature holds the resolved references of every
  declared type of a class, in declaration order.

  Key definitions include:
    * `Visibility`
    * `Visibility.ofModifiers`
    * `TypeParameterRef`
    * `FieldRef`
    * `ParameterRef`
    * `ReturnRef`
    * `MemberRef`
    * `MemberRef.signature`
    * `ClassSignature`
-/

------------------------------------------------------------
-- Visibility
------------------------------------------------------------

namespace DeclaredApi

/- Who may use a class. -/
inductive Visibility where
| everyone
| subclasses
| nobody
| package
deriving DecidableEq, Repr

namespace Visibility

/- The modifier of a visibility, or the name of the default. -/
def word : Visibility → String
| .everyone => "public"
| .subclasses => "protected"
| .nobody => "private"
| .package => "package"

/- The visibility that modifiers declare. -/
def ofModifiers (modifiers : List String) : Visibility :=
  match [Visibility.everyone, .subclasses, .nobody].find?
      (fun v => modifiers.contains v.word) with
  | some visibility => visibility
  | none => .package

end Visibility

end DeclaredApi

------------------------------------------------------------
-- Members
------------------------------------------------------------

namespace DeclaredApi

/- A type parameter with its resolved bounds. -/
structure TypeParameterRef where
  name : String
  bounds : List TypeRef
deriving DecidableEq, Repr

/- A field with its resolved type. -/
structure FieldRef where
  name : String
  type : TypeRef
  modifiers : List String
deriving DecidableEq, Repr

/- A parameter with its resolved type. -/
structure ParameterRef where
  name : String
  type : TypeRef
  variadic : Bool
deriving DecidableEq, Repr

/-
  A resolved return type, which may be null unless it is a
  bare primitive.
-/
structure ReturnRef where
  type : TypeRef
  nullable : Bool
deriving DecidableEq, Repr

/- The return of a type; `void` returns nothing. -/
def ReturnRef.ofType? (type : TypeRef) : Option ReturnRef :=
  if type.base = "void" then
    none
  else
    some ⟨type, !type.isPrimitive⟩

/- A resolved method or constructor. -/
structure MemberRef where
  name : String
  kind : MemberKind
  modifiers : List String
  typeParameters : List TypeParameterRef
  parameters : List ParameterRef
  returns : Option ReturnRef
deriving DecidableEq, Repr

namespace MemberRef

/- The name and the parameter types, as in `put(K, V)`. -/
def signature
    (root : String)
    (m : MemberRef) : String :=
  m.name ++ "(" ++
    ", ".intercalate
      (m.parameters.map (fun p => p.type.compact root)) ++ ")"

end MemberRef

end DeclaredApi

------------------------------------------------------------
-- Class Signatures
------------------------------------------------------------

namespace DeclaredApi

/- The resolved API of one class declaration. -/
structure ClassSignature where
  name : String
  package : String
  localName : String
  kind : ClassKind
  visibility : Visibility
  isStatic : Bool
  isFinal : Bool
  typeParameters : List TypeParameterRef
  superclass : Option TypeRef
  interfaces : List TypeRef
  fields : List FieldRef
  constructors : List MemberRef
  methods : List MemberRef
  scope : ClassScope

end DeclaredApi
