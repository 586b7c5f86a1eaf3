import DeclaredApi.ClassSignature.Describe
import DeclaredApi.Proofs.Resolution.Reference

/-
  Class signatures without an interner.

  The signature of a class is put together from the
  references of its declared types.  With a sound interner a
  description has exactly this signature, or this report, for
  its result, and leaves the interner sound.

  Main declarations:
    * `Description.ofClass`
    * `DescribeError.ofResolve`
    * `Description.referenceAt`
    * `Description.signature`
    * `Description.gives_describe`
-/

------------------------------------------------------------
-- Types at Paths
------------------------------------------------------------

namespace DeclaredApi

/- What a class is described with, once it is registered. -/
def Description.ofClass
    (config : Config)
    (erases : Bool)
    (registry : Registry)
    (c : ClassDecl) : Description where
  config := config
  registry := (registry.register c).2
  scope := (registry.register c).1
  owner := c.name
  erases := erases

/- The report of a declared type that has no reference. -/
def DescribeError.ofResolve
    (path owner : String) : ResolveError → DescribeError
| .undeclared e => .undeclared path owner e
| e => .unresolved e

namespace Description

/- The reference of the declared type at a path. -/
def referenceAt
    (d : Description)
    (member : Option MemberDecl)
    (path : String)
    (t : DeclaredType) : Except DescribeError TypeRef :=
  match (d.resolution member).reference t with
  | .ok reference => .ok reference
  | .error e => .error (.ofResolve path d.owner e)

/- The reference of a declared type that may be absent. -/
def optionalRef
    (d : Description)
    (member : Option MemberDecl)
    (path : String) :
    Option DeclaredType → Except DescribeError (Option TypeRef)
| none => pure none
| some t => do
    let reference ← d.referenceAt member path t
    pure (some reference)

/- The type parameters of the class or of a member. -/
def typeParameterRefs
    (d : Description)
    (member : Option MemberDecl)
    (label : String)
    (parameters : List TypeParameter) :
    Except DescribeError (List TypeParameterRef) :=
  parameters.mapM (fun p => do
    let bounds ←
      p.bounds.mapM (d.referenceAt member (labelled label p.name))
    pure ⟨p.name, bounds⟩)

end Description

end DeclaredApi

------------------------------------------------------------
-- Members and Classes
------------------------------------------------------------

namespace DeclaredApi

namespace Description

/- A field. -/
def fieldRef
    (d : Description)
    (f : FieldDecl) : Except DescribeError FieldRef := do
  let type ← d.referenceAt none (labelled "field" f.name) f.type
  pure ⟨f.name, type, f.modifiers⟩

/- A parameter of a member. -/
def parameterRef
    (d : Description)
    (m : MemberDecl)
    (p : ParameterDecl) :
    Except DescribeError ParameterRef := do
  let label := labelled (memberPath m ++ " parameter") p.name
  let type ← d.referenceAt (some m) label p.type
  pure ⟨p.name, type, p.variadic⟩

/- A method or constructor. -/
def memberRef
    (d : Description)
    (m : MemberDecl) : Except DescribeError MemberRef := do
  let parameters ← m.parameters.mapM (d.parameterRef m)
  let returns ←
    d.optionalRef (some m) (memberPath m ++ " return type")
      m.returns
  let typeParameters ←
    d.typeParameterRefs (some m)
      (memberPath m ++ " type parameter") m.typeParameters
  pure
    { name := m.name
      kind := m.kind
      modifiers := m.modifiers
      typeParameters := typeParameters
      parameters := parameters
      returns := returns.bind ReturnRef.ofType? }

/- The path of an interface by its index. -/
def interfacePath (index : Nat) : String :=
  "implements[" ++ toString index ++ "]"

/- Interfaces with their paths, from an index on. -/
def interfaceRefs
    (d : Description) :
    Nat → List DeclaredType → Except DescribeError (List TypeRef)
| _, [] => pure []
| index, t :: ts => do
    let reference ← d.referenceAt none (interfacePath index) t
    let references ← interfaceRefs d (index + 1) ts
    pure (reference :: references)

/- The signature of a class. -/
def signature
    (d : Description)
    (c : ClassDecl) : Except DescribeError ClassSignature := do
  let superclass ← d.optionalRef none "extends" c.superclass
  let typeParameters ←
    d.typeParameterRefs none "type parameter" c.typeParameters
  let interfaces ← d.interfaceRefs 0 c.interfaces
  let fields ← c.fields.mapM d.fieldRef
  let constructors ← c.constructors.mapM d.memberRef
  let methods ← c.methods.mapM d.memberRef
  pure
    { name := c.name
      package := c.package
      localName := c.localName
      kind := c.kind
      visibility := .ofModifiers c.modifiers
      isStatic := c.isStatic
      isFinal := c.modifiers.contains "final"
      typeParameters := typeParameters
      superclass := superclass
      interfaces := interfaces
      fields := fields
      constructors := constructors
      methods := methods
      scope := d.scope }

end Description

end DeclaredApi

------------------------------------------------------------
-- Interning on the Way
------------------------------------------------------------

namespace DeclaredApi

namespace Description

open DeclaredApi.Action

variable {d : Description}
variable {inv : Interner → Prop}

theorem gives_resolveAt
    (member : Option MemberDecl)
    (path : String)
    (t : DeclaredType)
    (hKept : Interner.Kept d.config.rootObject inv) :
    Gives inv (d.referenceAt member path t)
      (d.resolveAt member path t) := by
  intro interner hInv
  have hRun :=
    Resolution.gives_resolve (r := d.resolution member) t hKept
      interner hInv
  unfold referenceAt resolveAt
  revert hRun
  rcases (d.resolution member).resolve t interner with
    ⟨result, after⟩
  rintro ⟨hResult, hAfter⟩
  cases hResult
  cases hReference : (d.resolution member).reference t with
  | ok reference => exact ⟨rfl, hAfter⟩
  | error e => cases e <;> exact ⟨rfl, hAfter⟩

theorem gives_resolveOptional
    (member : Option MemberDecl)
    (path : String)
    (t : Option DeclaredType)
    (hKept : Interner.Kept d.config.rootObject inv) :
    Gives inv (d.optionalRef member path t)
      (d.resolveOptional member path t) := by
  cases t with
  | none => exact gives_pure none
  | some t =>
      apply (gives_resolveAt member path t hKept).bind
      intro reference _
      exact gives_pure (some reference)

theorem gives_typeParameters
    (member : Option MemberDecl)
    (label : String)
    (parameters : List TypeParameter)
    (hKept : Interner.Kept d.config.rootObject inv) :
    Gives inv (d.typeParameterRefs member label parameters)
      (d.typeParameters member label parameters) := by
  apply gives_mapM
  intro p _
  apply (gives_mapM fun t _ =>
    gives_resolveAt member (labelled label p.name) t hKept).bind
  intro bounds _
  exact gives_pure _

theorem gives_field
    (f : FieldDecl)
    (hKept : Interner.Kept d.config.rootObject inv) :
    Gives inv (d.fieldRef f) (d.field f) := by
  apply (gives_resolveAt none _ f.type hKept).bind
  intro type _
  exact gives_pure _

theorem gives_member
    (m : MemberDecl)
    (hKept : Interner.Kept d.config.rootObject inv) :
    Gives inv (d.memberRef m) (d.member m) := by
  have hParameters :
      Gives inv (m.parameters.mapM (d.parameterRef m))
        (m.parameters.mapM (d.parameter m)) := by
    apply gives_mapM
    intro p _
    apply (gives_resolveAt (some m) _ p.type hKept).bind
    intro type _
    exact gives_pure _
  apply hParameters.bind
  intro parameters _
  apply (gives_resolveOptional (some m) _ m.returns hKept).bind
  intro returns _
  apply (gives_typeParameters (some m) _ _ hKept).bind
  intro typeParameters _
  exact gives_pure _

theorem gives_interfaces
    (index : Nat)
    (ts : List DeclaredType)
    (hKept : Interner.Kept d.config.rootObject inv) :
    Gives inv (d.interfaceRefs index ts)
      (d.interfaces index ts) := by
  induction ts generalizing index with
  | nil => exact gives_pure []
  | cons t ts ih =>
      apply (gives_resolveAt none _ t hKept).bind
      intro reference _
      apply (ih (index + 1)).bind
      intro references _
      exact gives_pure (reference :: references)

/- A description gives the signature, whatever is interned. -/
theorem gives_describe
    (c : ClassDecl)
    (hKept : Interner.Kept d.config.rootObject inv) :
    Gives inv (d.signature c) (d.describe c) := by
  apply (gives_resolveOptional none _ c.superclass hKept).bind
  intro superclass _
  apply (gives_typeParameters none _ c.typeParameters hKept).bind
  intro typeParameters _
  apply (gives_interfaces 0 c.interfaces hKept).bind
  intro interfaces _
  apply (gives_mapM fun f _ => gives_field f hKept).bind
  intro fields _
  apply (gives_mapM fun m _ => gives_member m hKept).bind
  intro constructors _
  apply (gives_mapM fun m _ => gives_member m hKept).bind
  intro methods _
  exact gives_pure _

end Description

end DeclaredApi
