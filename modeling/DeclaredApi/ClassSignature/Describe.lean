import DeclaredApi.ClassSignature.Basic
import DeclaredApi.Resolution.Resolve

/-
  Description of class declarations.

  Every declared type of a class is resolved in the scope of
  the class, or of the member that it is declared in: first
  the superclass, then type parameters, interfaces, fields,
  constructors and methods.  A variable that is not declared
  is reported with the path of the type that names it.

  Key definitions include:
    * `DescribeError`
    * `DescribeError.message`
    * `Description`
    * `Description.resolveAt`
    * `Description.member`
    * `Description.describe`
-/

------------------------------------------------------------
-- Errors
------------------------------------------------------------

namespace DeclaredApi

/- Why a class has no signature. -/
inductive DescribeError where
| undeclared
    (path owner : String)
    (cause : UndeclaredVariable)
| unresolved (e : ResolveError)
deriving DecidableEq, Repr

namespace DescribeError

/- The report of a class without a signature. -/
def message : DescribeError → String
| .undeclared path owner cause =>
    (if owner = "" then path else owner ++ " " ++ path) ++
      ": invalid declared type: " ++ cause.message
| .unresolved e => e.message

end DescribeError

end DeclaredApi

------------------------------------------------------------
-- Descriptions
------------------------------------------------------------

namespace DeclaredApi

/- Where a class is described, and how. -/
structure Description where
  config : Config
  registry : Registry
  scope : ClassScope
  owner : String
  erases : Bool := false

namespace Description

/- Describing uses the interner and may fail. -/
abbrev Describer :=
  ExceptT DescribeError (StateM Interner)

/- What the types of a member, or of the class, resolve in. -/
def resolution
    (d : Description)
    (member : Option MemberDecl) : Resolution where
  config := d.config
  registry := d.registry
  scope := d.scope
  member := member
  erases := d.erases

/- The reference of the declared type at a path. -/
def resolveAt
    (d : Description)
    (member : Option MemberDecl)
    (path : String)
    (t : DeclaredType) : Describer TypeRef :=
  fun interner =>
    match (d.resolution member).resolve t interner with
    | (.ok reference, interner) => (.ok reference, interner)
    | (.error (.undeclared e), interner) =>
        (.error (.undeclared path d.owner e), interner)
    | (.error e, interner) => (.error (.unresolved e), interner)

/- The reference of a declared type that may be absent. -/
def resolveOptional
    (d : Description)
    (member : Option MemberDecl)
    (path : String) :
    Option DeclaredType → Describer (Option TypeRef)
| none => pure none
| some t => do
    let reference ← d.resolveAt member path t
    pure (some reference)

/- A name between single quotes after a label. -/
def labelled (label name : String) : String :=
  label ++ " '" ++ name ++ "'"

/- The type parameters of the class or of a member. -/
def typeParameters
    (d : Description)
    (member : Option MemberDecl)
    (label : String)
    (parameters : List TypeParameter) :
    Describer (List TypeParameterRef) :=
  parameters.mapM (fun p => do
    let bounds ←
      p.bounds.mapM (d.resolveAt member (labelled label p.name))
    pure ⟨p.name, bounds⟩)

end Description

end DeclaredApi

------------------------------------------------------------
-- Members
------------------------------------------------------------

namespace DeclaredApi

namespace Description

/- The path of a member. -/
def memberPath (m : MemberDecl) : String :=
  match m.kind with
  | .constructor => labelled "constructor" m.name
  | .method => labelled "method" m.name

/- A field. -/
def field
    (d : Description)
    (f : FieldDecl) : Describer FieldRef := do
  let type ← d.resolveAt none (labelled "field" f.name) f.type
  pure ⟨f.name, type, f.modifiers⟩

/- A parameter of a member. -/
def parameter
    (d : Description)
    (m : MemberDecl)
    (p : ParameterDecl) : Describer ParameterRef := do
  let label := labelled (memberPath m ++ " parameter") p.name
  let type ← d.resolveAt (some m) label p.type
  pure ⟨p.name, type, p.variadic⟩

/- A method or constructor. -/
def member
    (d : Description)
    (m : MemberDecl) : Describer MemberRef := do
  let parameters ← m.parameters.mapM (d.parameter m)
  let returns ←
    d.resolveOptional (some m) (memberPath m ++ " return type")
      m.returns
  let typeParameters ←
    d.typeParameters (some m)
      (memberPath m ++ " type parameter") m.typeParameters
  pure
    { name := m.name
      kind := m.kind
      modifiers := m.modifiers
      typeParameters := typeParameters
      parameters := parameters
      returns := returns.bind ReturnRef.ofType? }

end Description

end DeclaredApi

------------------------------------------------------------
-- Classes
------------------------------------------------------------

namespace DeclaredApi

namespace Description

/- Interfaces with their paths, from an index on. -/
def interfaces
    (d : Description) :
    Nat → List DeclaredType → Describer (List TypeRef)
| _, [] => pure []
| index, t :: ts => do
    let path := "implements[" ++ toString index ++ "]"
    let reference ← d.resolveAt none path t
    let references ← interfaces d (index + 1) ts
    pure (reference :: references)

/- The signature of a class. -/
def describe
    (d : Description)
    (c : ClassDecl) : Describer ClassSignature := do
  let superclass ←
    d.resolveOptional none "extends" c.superclass
  let typeParameters ←
    d.typeParameters none "type parameter" c.typeParameters
  let interfaces ← d.interfaces 0 c.interfaces
  let fields ← c.fields.mapM d.field
  let constructors ← c.constructors.mapM d.member
  let methods ← c.methods.mapM d.member
  pure
    { name := c.name
      package := c.package
      localName := c.localName
      kind := c.kind
      visibility := .ofModifiers c.modifiers
      isStatic := c.isStatic
      isFinal := c.modifiers.contains "final"
      typeParameters := typeParameters
      superclass := superclass
      interfaces := interfaces
      fields := fields
      constructors := constructors
      methods := methods
      scope := d.scope }

end Description

end DeclaredApi
