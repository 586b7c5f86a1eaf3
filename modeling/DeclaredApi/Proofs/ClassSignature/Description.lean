import DeclaredApi.ClassSignature.Describe
import DeclaredApi.Proofs.Action
import DeclaredApi.Proofs.Declaration.Variables

/-
  What holds of the description of a class.

  A class is described by resolving the types that it
  declares, one after the other, and nothing else.  So what
  holds of each of them, and of what is put together from
  them, holds of the description.

  Main declarations:
    * `Description.holds_member`
    * `Description.holds_describe`
-/

------------------------------------------------------------
-- Types and Members
------------------------------------------------------------

namespace DeclaredApi

namespace Description

variable {d : Description}
variable {P : (α : Type) → Describer α → Prop}

theorem holds_resolveOptional
    {member : Option MemberDecl}
    {path : String}
    {t : Option DeclaredType}
    (hP : Action.Compositional P)
    (hResolve :
      ∀ type,
        t = some type →
          P TypeRef (d.resolveAt member path type)) :
    P (Option TypeRef) (d.resolveOptional member path t) := by
  cases t with
  | none => exact hP.ofPure none
  | some type =>
      apply hP.ofBind (hResolve type rfl)
      intro reference
      exact hP.ofPure (some reference)

theorem holds_typeParameters
    {member : Option MemberDecl}
    {label : String}
    {ps : List TypeParameter}
    (hP : Action.Compositional P)
    (hResolve :
      ∀ p ∈ ps,
        ∀ t ∈ p.bounds,
          ∀ path, P TypeRef (d.resolveAt member path t)) :
    P (List TypeParameterRef)
      (d.typeParameters member label ps) := by
  apply hP.ofMapM
  intro p hp
  have hBounds :
      P (List TypeRef)
        (p.bounds.mapM
          (d.resolveAt member (labelled label p.name))) := by
    apply hP.ofMapM
    intro t ht
    exact hResolve p hp t ht _
  apply hP.ofBind hBounds
  intro bounds
  exact hP.ofPure _

/- A member is described by the types that it declares. -/
theorem holds_member
    {m : MemberDecl}
    (hP : Action.Compositional P)
    (hResolve :
      ∀ t,
        m.Declares t →
          ∀ path, P TypeRef (d.resolveAt (some m) path t)) :
    P MemberRef (d.member m) := by
  have hParameters :
      P (List ParameterRef)
        (m.parameters.mapM (d.parameter m)) := by
    apply hP.ofMapM
    intro p hp
    unfold parameter
    apply hP.ofBind (hResolve p.type (.parameter hp) _)
    intro type
    exact hP.ofPure _
  unfold Description.member
  apply hP.ofBind hParameters
  intro parameters
  apply hP.ofBind (holds_resolveOptional hP
    (fun t ht => hResolve t (.returns ht) _))
  intro returns
  apply hP.ofBind (holds_typeParameters hP
    (fun p hp t ht => hResolve t (.bound hp ht)))
  intro typeParameters
  exact hP.ofPure _

end Description

end DeclaredApi

------------------------------------------------------------
-- Classes
------------------------------------------------------------

namespace DeclaredApi

namespace Description

variable {d : Description}
variable {P : (α : Type) → Describer α → Prop}

theorem holds_interfaces
    {ts : List DeclaredType}
    {index : Nat}
    (hP : Action.Compositional P)
    (hResolve :
      ∀ t ∈ ts,
        ∀ path, P TypeRef (d.resolveAt none path t)) :
    P (List TypeRef) (d.interfaces index ts) := by
  induction ts generalizing index with
  | nil => exact hP.ofPure []
  | cons t ts ih =>
      rw [interfaces]
      apply hP.ofBind (hResolve t List.mem_cons_self _)
      intro reference
      apply hP.ofBind (ih fun u hu =>
        hResolve u (List.mem_cons_of_mem t hu))
      intro references
      exact hP.ofPure _

/- A class is described by the types that it declares. -/
theorem holds_describe
    {c : ClassDecl}
    (hP : Action.Compositional P)
    (hResolve :
      ∀ member t,
        c.Declares member t →
          ∀ path, P TypeRef (d.resolveAt member path t)) :
    P ClassSignature (d.describe c) := by
  have hFields :
      P (List FieldRef) (c.fields.mapM d.field) := by
    apply hP.ofMapM
    intro field hField
    unfold Description.field
    apply hP.ofBind (hResolve none _ (.field hField) _)
    intro type
    exact hP.ofPure _
  have hMember :
      ∀ m ∈ c.constructors ++ c.methods,
        P MemberRef (d.member m) := by
    intro m hm
    apply holds_member hP
    intro t ht
    exact hResolve (some m) t (.member hm ht)
  have hConstructors :
      P (List MemberRef) (c.constructors.mapM d.member) :=
    hP.ofMapM fun m hm =>
      hMember m (List.mem_append_left _ hm)
  have hMethods :
      P (List MemberRef) (c.methods.mapM d.member) :=
    hP.ofMapM fun m hm =>
      hMember m (List.mem_append_right _ hm)
  unfold describe
  apply hP.ofBind (holds_resolveOptional hP
    (fun t ht => hResolve none t (.superclass ht) _))
  intro superclass
  apply hP.ofBind (holds_typeParameters hP
    (fun p hp t ht => hResolve none t (.bound hp ht)))
  intro typeParameters
  apply hP.ofBind (holds_interfaces hP
    (fun t ht => hResolve none t (.interface ht)))
  intro interfaces
  apply hP.ofBind hFields
  intro fields
  apply hP.ofBind hConstructors
  intro constructors
  apply hP.ofBind hMethods
  intro methods
  exact hP.ofPure _

end Description

end DeclaredApi
