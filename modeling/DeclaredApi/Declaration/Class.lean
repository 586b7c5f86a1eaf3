import DeclaredApi.Declaration.Type

/-
  Class declarations.

  A class declaration lists the declared types of its type
  parameters, supertypes, fields, constructors and methods,
  in declaration order.

  Key definitions include:
    * `ClassKind`
    * `MemberKind`
    * `FieldDecl`
    * `ParameterDecl`
    * `MemberDecl`
    * `ClassDecl`
    * `ClassDecl.simpleName`
    * `ClassDecl.localName`
    * `ClassDecl.isInner`
-/

------------------------------------------------------------
-- Kinds
------------------------------------------------------------

namespace DeclaredApi

/- What a declaration declares. -/
inductive ClassKind where
| plain
| interface
| enumeration
| record
deriving DecidableEq, Repr, Inhabited

namespace ClassKind

/- The name of a kind. -/
def label : ClassKind → String
| .plain => "CLASS"
| .interface => "INTERFACE"
| .enumeration => "ENUM"
| .record => "RECORD"

/- The kind with a name. -/
def ofLabel? (label : String) : Option ClassKind :=
  [.plain, .interface, .enumeration, .record].find?
    (fun kind => kind.label = label)

/- The name of a kind in class documents. -/
def documentLabel : ClassKind → String
| .plain => "class"
| .interface => "interface"
| .enumeration => "enum"
| .record => "record"

end ClassKind

/- A method or a constructor. -/
inductive MemberKind where
| method
| constructor
deriving DecidableEq, Repr, Inhabited

namespace MemberKind

/- The name of a kind. -/
def label : MemberKind → String
| .method => "METHOD"
| .constructor => "CONSTRUCTOR"

end MemberKind

end DeclaredApi

------------------------------------------------------------
-- Members
------------------------------------------------------------

namespace DeclaredApi

/- A field with its type. -/
structure FieldDecl where
  name : String
  type : DeclaredType
  modifiers : List String := []
deriving Inhabited

/- A parameter with its type; the last one may be variadic. -/
structure ParameterDecl where
  name : String
  type : DeclaredType
  variadic : Bool := false
deriving Inhabited

/-
  A method or constructor.  Its own type parameters are
  looked up before those of the class.
-/
structure MemberDecl where
  name : String
  kind : MemberKind := .method
  typeParameters : List TypeParameter := []
  parameters : List ParameterDecl := []
  returns : Option DeclaredType := none
  modifiers : List String := []
deriving Inhabited

end DeclaredApi

------------------------------------------------------------
-- Classes
------------------------------------------------------------

namespace DeclaredApi

/-
  A class, interface, enumeration or record.  The name is
  qualified; that of a nested class starts with the name of
  the class around it.
-/
structure ClassDecl where
  name : String
  package : String := ""
  kind : ClassKind := .plain
  modifiers : List String := []
  typeParameters : List TypeParameter := []
  superclass : Option DeclaredType := none
  interfaces : List DeclaredType := []
  fields : List FieldDecl := []
  constructors : List MemberDecl := []
  methods : List MemberDecl := []
  enclosing : Option String := none
deriving Inhabited

namespace ClassDecl

/- The last word of the name. -/
def simpleName (c : ClassDecl) : String :=
  String.ofList
    (c.name.toList.reverse.takeWhile
      (fun ch => ch != '.')).reverse

/- The name relative to the package. -/
def localName (c : ClassDecl) : String :=
  let holder := (c.package ++ ".").toList
  if c.package ≠ "" ∧ holder.isPrefixOf c.name.toList then
    String.ofList (c.name.toList.drop holder.length)
  else
    c.name

/- Declared static. -/
def isStatic (c : ClassDecl) : Bool :=
  c.modifiers.contains "static"

/- A nested class that captures the class around it. -/
def isInner (c : ClassDecl) : Bool :=
  c.enclosing.isSome && !c.isStatic && c.kind = .plain

/- The raw names of the declared supertypes. -/
def supertypes (c : ClassDecl) : List String :=
  (c.superclass.toList ++ c.interfaces).filterMap
      DeclaredType.rawName? |>.filter (fun name => name != "")

end ClassDecl

end DeclaredApi
