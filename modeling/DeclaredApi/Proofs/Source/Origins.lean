import DeclaredApi.Proofs.Result
import DeclaredApi.Source.Classes

/-
  Where the parts of classes and members come from.

  A member or class that could be read has, in each of its
  parts, what was read from the part of its node.  What is
  said about the declarations of a file starts from these
  facts, and not from the steps of the readers.

  Main declarations:
    * `SourceFile.MemberOrigin`
    * `SourceFile.ClassOrigin`
    * `SourceFile.exists_memberOrigin`
    * `SourceFile.classOrigin_of_classOf`
    * `SourceFile.bodyIn_cons_ok`
-/

------------------------------------------------------------
-- Members
------------------------------------------------------------

namespace DeclaredApi

namespace SourceFile

open SyntaxTree

/- What each part of a member was read from. -/
structure MemberOrigin
    (f : SourceFile)
    (classScope : List String)
    (kind : MemberKind)
    (implicit : List String)
    (t : SyntaxTree)
    (m : MemberDecl)
    (own : List String) : Prop where
  own_eq : f.parameterNames (memberParameterList t) = .ok own
  name_eq : f.readAt "name" t.children = .ok m.name
  kind_eq : m.kind = kind
  modifiers_eq :
    m.modifiers =
      Outline.mergeModifiers (Outline.modifiers t) implicit
  returns_eq :
    f.returnType (own ++ classScope) kind t = .ok m.returns
  typeParameters_eq :
    f.typeParameters (own ++ classScope)
        (memberParameterList t) =
      .ok m.typeParameters
  parameters_eq :
    f.parametersOf (own ++ classScope)
        (t.childAt? "parameters") =
      .ok m.parameters

variable {f : SourceFile} {t : SyntaxTree}

theorem exists_memberOrigin
    {classScope implicit : List String}
    {kind : MemberKind}
    {m : MemberDecl}
    (hOk : f.memberOf classScope kind implicit t = .ok m) :
    ∃ own, f.MemberOrigin classScope kind implicit t m own := by
  rcases Result.bind_eq_ok_iff.mp hOk with ⟨own, hOwn, hOk⟩
  rcases Result.bind_eq_ok_iff.mp hOk with
    ⟨returns, hReturns, hOk⟩
  rcases Result.bind_eq_ok_iff.mp hOk with ⟨name, hName, hOk⟩
  rcases Result.bind_eq_ok_iff.mp hOk with
    ⟨typeParameters, hTypeParameters, hOk⟩
  rcases Result.bind_eq_ok_iff.mp hOk with
    ⟨parameters, hParameters, hPure⟩
  cases hPure
  exact ⟨own, hOwn, hName, rfl, rfl, hReturns,
    hTypeParameters, hParameters⟩

end SourceFile

end DeclaredApi

------------------------------------------------------------
-- Bodies
------------------------------------------------------------

namespace DeclaredApi

namespace SourceFile

open SyntaxTree

variable {f : SourceFile} {t : SyntaxTree}

theorem bodyOf_field
    (b : BodyScope)
    (hKind :
      t.kind = "field_declaration" ∨
        t.kind = "constant_declaration") :
    f.bodyOf b t =
      (do
        let fields ←
          f.fieldsOf b.scope
            (b.implied ["public", "static", "final"]) t
        pure { fields := fields }) := by
  cases t
  rcases hKind with hKind | hKind <;>
    · rw [kind] at hKind
      subst hKind
      simp [bodyOf, Outline.enumBodyKind]

theorem bodyOf_members
    (b : BodyScope)
    (hKind : t.kind = Outline.enumBodyKind) :
    f.bodyOf b t =
      f.bodyIn { b with isInterface := false } t.children := by
  cases t
  rw [kind] at hKind
  subst hKind
  simp [bodyOf, Outline.enumBodyKind, children]

/- The kind of nodes that declare a kind of members. -/
def memberKind : MemberKind → String
| .method => "method_declaration"
| .constructor => "constructor_declaration"

theorem bodyOf_method
    (b : BodyScope)
    (hKind : t.kind = memberKind .method) :
    f.bodyOf b t =
      (do
        let member ←
          f.memberOf b.scope .method (b.implied ["public"]) t
        pure { methods := [member] }) := by
  cases t
  rw [kind] at hKind
  subst hKind
  simp [bodyOf, memberKind, Outline.enumBodyKind]

theorem bodyOf_constructor
    (b : BodyScope)
    (hKind : t.kind = memberKind .constructor) :
    f.bodyOf b t =
      (do
        let member ← f.memberOf b.scope .constructor [] t
        pure { constructors := [member] }) := by
  cases t
  rw [kind] at hKind
  subst hKind
  simp [bodyOf, memberKind, Outline.enumBodyKind]

/- A method or constructor is one of the members of a body. -/
theorem exists_memberOf_of_bodyOf
    {b : BodyScope}
    {body : Body}
    {kind : MemberKind}
    (hKind : t.kind = memberKind kind)
    (hOk : f.bodyOf b t = .ok body) :
    ∃ implicit member,
      f.memberOf b.scope kind implicit t = .ok member ∧
        member ∈ body.constructors ++ body.methods := by
  cases kind with
  | method =>
      rw [bodyOf_method b hKind] at hOk
      rcases Result.bind_eq_ok_iff.mp hOk with
        ⟨member, hMember, hPure⟩
      cases hPure
      exact ⟨_, member, hMember, List.mem_cons_self⟩
  | constructor =>
      rw [bodyOf_constructor b hKind] at hOk
      rcases Result.bind_eq_ok_iff.mp hOk with
        ⟨member, hMember, hPure⟩
      cases hPure
      exact ⟨_, member, hMember, List.mem_cons_self⟩

/- The members of the first node come before the others. -/
theorem bodyIn_cons_ok
    {b : BodyScope}
    {ts : List SyntaxTree}
    {body : Body}
    (hOk : f.bodyIn b (t :: ts) = .ok body) :
    ∃ first others,
      f.bodyOf b t = .ok first ∧
        f.bodyIn b ts = .ok others ∧
        body = first.append others := by
  rcases Result.bind_eq_ok_iff.mp hOk with ⟨first, hFirst, hOk⟩
  rcases Result.bind_eq_ok_iff.mp hOk with
    ⟨others, hOthers, hPure⟩
  cases hPure
  exact ⟨first, others, hFirst, hOthers, rfl⟩

end SourceFile

end DeclaredApi

------------------------------------------------------------
-- Classes
------------------------------------------------------------

namespace DeclaredApi

namespace SourceFile

/- What each part of a class was read from. -/
structure ClassOrigin
    (f : SourceFile)
    (outer : Outer)
    (t : SyntaxTree)
    (c : ClassDecl)
    (scope : List String) : Prop where
  name :
    ∃ name,
      f.readAt "name" t.children = .ok name ∧
        c.name = f.qualifiedName outer name
  package_eq : c.package = f.context.package
  kind_eq : c.kind = Outline.classKind t.kind
  modifiers_eq : c.modifiers = classModifiers outer c.kind t
  enclosing_eq : c.enclosing = outer.enclosing
  own :
    ∃ own,
      f.parameterNames (t.childAt? "type_parameters") =
          .ok own ∧
        scope = classScope outer c.modifiers own
  typeParameters_eq :
    f.typeParameters scope (t.childAt? "type_parameters") =
      .ok c.typeParameters
  superclass_eq : f.superclassOf scope t = .ok c.superclass
  interfaces_eq : f.interfacesOf scope t = .ok c.interfaces
  members :
    ∃ components body,
      f.headerFields scope c.kind t = .ok components ∧
        f.membersOf
            { className := c.name
              scope := scope
              isInterface := c.kind = .interface } t =
          .ok body ∧
        c.fields = components ++ body.fields ∧
        c.constructors = body.constructors ∧
        c.methods = body.methods

theorem classOrigin_of_classOf
    {f : SourceFile}
    {outer : Outer}
    {t : SyntaxTree}
    {c : ClassDecl}
    {scope : List String}
    (hOk : f.classOf outer t = .ok (c, scope)) :
    f.ClassOrigin outer t c scope := by
  rcases Result.bind_eq_ok_iff.mp hOk with ⟨name, hName, hOk⟩
  rcases Result.bind_eq_ok_iff.mp hOk with ⟨own, hOwn, hOk⟩
  rcases Result.bind_eq_ok_iff.mp hOk with
    ⟨typeParameters, hTypeParameters, hOk⟩
  rcases Result.bind_eq_ok_iff.mp hOk with
    ⟨superclass, hSuperclass, hOk⟩
  rcases Result.bind_eq_ok_iff.mp hOk with
    ⟨interfaces, hInterfaces, hOk⟩
  rcases Result.bind_eq_ok_iff.mp hOk with
    ⟨components, hComponents, hOk⟩
  rcases Result.bind_eq_ok_iff.mp hOk with
    ⟨body, hBody, hPure⟩
  cases hPure
  exact ⟨⟨name, hName, rfl⟩, rfl, rfl, rfl, rfl,
    ⟨own, hOwn, rfl⟩, hTypeParameters, hSuperclass,
    hInterfaces, components, body, hComponents, hBody, rfl, rfl,
    rfl⟩

end SourceFile

end DeclaredApi
