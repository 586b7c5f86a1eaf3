import DeclaredApi.Proofs.ClassSignature.Reference
import DeclaredApi.Proofs.Session.History

/-
  Failing descriptions.

  The declared types of a class stand at sites, which are
  visited in one order.  A class has a signature exactly when
  every site resolves, and then the signature has one entry
  for each declaration.  Otherwise the first site that does
  not resolve decides the report: it names the class and the
  path if a variable is undeclared, and it is the bare error
  of the resolution in every other case.

  Main declarations:
    * `TypeSite`
    * `ClassDecl.sites`
    * `Description.failure?_signature`
    * `Description.Describes`
    * `Description.describes_of_signature`
    * `Session.describe_outcome`
    * `Session.unresolved_escapes`
-/

------------------------------------------------------------
-- Sites
------------------------------------------------------------

namespace DeclaredApi

/- A declared type of a class and the path that names it. -/
structure TypeSite where
  member : Option MemberDecl
  path : String
  type : DeclaredType

namespace TypeSite

open Description (labelled memberPath interfacePath)

/- The bounds of type parameters. -/
def ofParameters
    (member : Option MemberDecl)
    (label : String)
    (parameters : List TypeParameter) : List TypeSite :=
  parameters.flatMap (fun p =>
    p.bounds.map (TypeSite.mk member (labelled label p.name)))

/- The types of a member: first those of its parameters. -/
def ofMember (m : MemberDecl) : List TypeSite :=
  m.parameters.map (fun p =>
      ⟨some m, labelled (memberPath m ++ " parameter") p.name,
        p.type⟩) ++
    (m.returns.toList.map
        (TypeSite.mk (some m) (memberPath m ++ " return type")) ++
      ofParameters (some m) (memberPath m ++ " type parameter")
        m.typeParameters)

/- Interfaces, from an index on. -/
def ofInterfaces : Nat → List DeclaredType → List TypeSite
| _, [] => []
| index, t :: ts =>
    ⟨none, interfacePath index, t⟩ :: ofInterfaces (index + 1) ts

end TypeSite

/- The declared types of a class, in the order of visits. -/
def ClassDecl.sites (c : ClassDecl) : List TypeSite :=
  c.superclass.toList.map (TypeSite.mk none "extends") ++
    (TypeSite.ofParameters none "type parameter"
        c.typeParameters ++
      (TypeSite.ofInterfaces 0 c.interfaces ++
        (c.fields.map (fun f =>
            ⟨none, Description.labelled "field" f.name, f.type⟩) ++
          (c.constructors.flatMap TypeSite.ofMember ++
            c.methods.flatMap TypeSite.ofMember))))

end DeclaredApi

------------------------------------------------------------
-- The First Failure
------------------------------------------------------------

namespace DeclaredApi

namespace Description

variable {d : Description}

/- What the declared type at a site resolves to. -/
def atSite
    (d : Description)
    (site : TypeSite) : Except ResolveError TypeRef :=
  (d.resolution site.member).reference site.type

/- The report of a site that does not resolve. -/
def fault?
    (d : Description)
    (site : TypeSite) : Option DescribeError :=
  Result.failure?
    (d.referenceAt site.member site.path site.type)

theorem fault?_eq_none_iff
    {site : TypeSite} :
    d.fault? site = none ↔ ∃ r, d.atSite site = .ok r := by
  unfold fault? referenceAt
  rw [atSite]
  cases (d.resolution site.member).reference site.type <;>
    simp [Result.failure?]

theorem fault?_eq_some_iff
    {site : TypeSite}
    {report : DescribeError} :
    d.fault? site = some report ↔
      ∃ cause,
        d.atSite site = .error cause ∧
          report = .ofResolve site.path d.owner cause := by
  unfold fault? referenceAt
  rw [atSite]
  cases (d.resolution site.member).reference site.type <;>
    simp [Result.failure?, eq_comm]

theorem failure?_optionalRef
    (member : Option MemberDecl)
    (path : String)
    (t : Option DeclaredType) :
    Result.failure? (d.optionalRef member path t) =
      (t.toList.map (TypeSite.mk member path)).findSome?
        d.fault? := by
  cases t with
  | none => rfl
  | some t =>
      rw [optionalRef, Result.failure?_bind_pure]
      exact (List.findSome?_singleton).symm

theorem failure?_typeParameterRefs
    (member : Option MemberDecl)
    (label : String)
    (parameters : List TypeParameter) :
    Result.failure?
        (d.typeParameterRefs member label parameters) =
      (TypeSite.ofParameters member label
        parameters).findSome? d.fault? := by
  apply Result.failure?_mapM_flatMap
  intro p
  rw [Result.failure?_bind_pure, Result.failure?_mapM,
    List.findSome?_map]
  rfl

theorem failure?_memberRef
    (m : MemberDecl) :
    Result.failure? (d.memberRef m) =
      (TypeSite.ofMember m).findSome? d.fault? := by
  have hParameters :
      Result.failure? (m.parameters.mapM (d.parameterRef m)) =
        (m.parameters.map (fun p => TypeSite.mk (some m)
          (labelled (memberPath m ++ " parameter") p.name)
          p.type)).findSome? d.fault? := by
    rw [Result.failure?_mapM, List.findSome?_map]
    congr 1
    funext p
    exact Result.failure?_bind_pure
  rw [TypeSite.ofMember, List.findSome?_append,
    List.findSome?_append, ← hParameters,
    ← failure?_optionalRef, ← failure?_typeParameterRefs]
  apply Result.failure?_bind
  intro parameters
  apply Result.failure?_bind
  intro returns
  exact Result.failure?_bind_pure

theorem failure?_interfaceRefs
    (index : Nat)
    (ts : List DeclaredType) :
    Result.failure? (d.interfaceRefs index ts) =
      (TypeSite.ofInterfaces index ts).findSome? d.fault? := by
  induction ts generalizing index with
  | nil => rfl
  | cons t ts ih =>
      rw [interfaceRefs, TypeSite.ofInterfaces,
        List.findSome?_cons,
        Result.failure?_bind fun _ => Result.failure?_bind_pure,
        ih]
      let site : TypeSite := ⟨none, interfacePath index, t⟩
      change (d.fault? site).or _ = _
      cases d.fault? site <;> rfl

/- The first site that does not resolve decides the report. -/
theorem failure?_signature
    (c : ClassDecl) :
    Result.failure? (d.signature c) =
      c.sites.findSome? d.fault? := by
  have hFields :
      Result.failure? (c.fields.mapM d.fieldRef) =
        (c.fields.map (fun f => TypeSite.mk none
          (labelled "field" f.name) f.type)).findSome?
            d.fault? := by
    rw [Result.failure?_mapM, List.findSome?_map]
    congr 1
    funext f
    exact Result.failure?_bind_pure
  rw [ClassDecl.sites, List.findSome?_append,
    List.findSome?_append, List.findSome?_append,
    List.findSome?_append, List.findSome?_append,
    ← failure?_optionalRef, ← failure?_typeParameterRefs,
    ← failure?_interfaceRefs, ← hFields,
    ← Result.failure?_mapM_flatMap failure?_memberRef,
    ← Result.failure?_mapM_flatMap failure?_memberRef]
  apply Result.failure?_bind
  intro superclass
  apply Result.failure?_bind
  intro typeParameters
  apply Result.failure?_bind
  intro interfaces
  apply Result.failure?_bind
  intro fields
  apply Result.failure?_bind
  intro constructors
  exact Result.failure?_bind_pure

end Description

end DeclaredApi

------------------------------------------------------------
-- Entries
------------------------------------------------------------

namespace DeclaredApi

namespace Description

variable {d : Description}

/- A declared type resolves to a reference. -/
def Resolves
    (d : Description)
    (member : Option MemberDecl)
    (t : DeclaredType)
    (r : TypeRef) : Prop :=
  (d.resolution member).reference t = .ok r

/- An entry stands for a type parameter. -/
structure DescribesTypeParameter
    (d : Description)
    (member : Option MemberDecl)
    (p : TypeParameter)
    (entry : TypeParameterRef) : Prop where
  name_eq : entry.name = p.name
  bounds : List.Forall₂ (d.Resolves member) p.bounds entry.bounds

/- An entry stands for a field. -/
structure DescribesField
    (d : Description)
    (f : FieldDecl)
    (entry : FieldRef) : Prop where
  name_eq : entry.name = f.name
  modifiers_eq : entry.modifiers = f.modifiers
  type : d.Resolves none f.type entry.type

/- An entry stands for a parameter of a member. -/
structure DescribesParameter
    (d : Description)
    (m : MemberDecl)
    (p : ParameterDecl)
    (entry : ParameterRef) : Prop where
  name_eq : entry.name = p.name
  variadic_eq : entry.variadic = p.variadic
  type : d.Resolves (some m) p.type entry.type

/- An entry stands for a method or constructor. -/
structure DescribesMember
    (d : Description)
    (m : MemberDecl)
    (entry : MemberRef) : Prop where
  name_eq : entry.name = m.name
  kind_eq : entry.kind = m.kind
  modifiers_eq : entry.modifiers = m.modifiers
  typeParameters :
    List.Forall₂ (d.DescribesTypeParameter (some m))
      m.typeParameters entry.typeParameters
  parameters :
    List.Forall₂ (d.DescribesParameter m)
      m.parameters entry.parameters
  returns :
    ∃ r,
      Option.Rel (d.Resolves (some m)) m.returns r ∧
        entry.returns = r.bind ReturnRef.ofType?

/- A signature has one entry for each declaration, in order. -/
structure Describes
    (d : Description)
    (c : ClassDecl)
    (sig : ClassSignature) : Prop where
  name_eq : sig.name = c.name
  package_eq : sig.package = c.package
  kind_eq : sig.kind = c.kind
  scope_eq : sig.scope = d.scope
  superclass :
    Option.Rel (d.Resolves none) c.superclass sig.superclass
  typeParameters :
    List.Forall₂ (d.DescribesTypeParameter none)
      c.typeParameters sig.typeParameters
  interfaces :
    List.Forall₂ (d.Resolves none) c.interfaces sig.interfaces
  fields : List.Forall₂ d.DescribesField c.fields sig.fields
  constructors :
    List.Forall₂ d.DescribesMember c.constructors
      sig.constructors
  methods :
    List.Forall₂ d.DescribesMember c.methods sig.methods

/- What is referenced at a path is what the type resolves to. -/
theorem resolves_of_referenceAt
    {member : Option MemberDecl}
    {path : String}
    {t : DeclaredType}
    {r : TypeRef}
    (hOk : d.referenceAt member path t = .ok r) :
    d.Resolves member t r := by
  unfold referenceAt at hOk
  unfold Resolves
  cases hReference : (d.resolution member).reference t with
  | ok reference =>
      rw [hReference] at hOk
      cases hOk
      rfl
  | error e =>
      rw [hReference] at hOk
      cases hOk

theorem rel_of_optionalRef
    {member : Option MemberDecl}
    {path : String}
    {t : Option DeclaredType}
    {r : Option TypeRef}
    (hOk : d.optionalRef member path t = .ok r) :
    Option.Rel (d.Resolves member) t r := by
  cases t with
  | none =>
      cases hOk
      exact .none
  | some t =>
      rcases Result.bind_eq_ok_iff.mp hOk with
        ⟨reference, hReference, hPure⟩
      cases hPure
      exact .some (resolves_of_referenceAt hReference)

theorem forall₂_of_typeParameterRefs
    {member : Option MemberDecl}
    {label : String}
    {parameters : List TypeParameter}
    {entries : List TypeParameterRef}
    (hOk :
      d.typeParameterRefs member label parameters =
        .ok entries) :
    List.Forall₂ (d.DescribesTypeParameter member)
      parameters entries := by
  apply (Result.forall₂_of_mapM hOk).imp
  intro p entry hEntry
  rcases Result.bind_eq_ok_iff.mp hEntry with
    ⟨bounds, hBounds, hPure⟩
  cases hPure
  exact
    { name_eq := rfl
      bounds := (Result.forall₂_of_mapM hBounds).imp
        fun _ _ => resolves_of_referenceAt }

theorem describes_of_fieldRef
    {f : FieldDecl}
    {entry : FieldRef}
    (hOk : d.fieldRef f = .ok entry) :
    d.DescribesField f entry := by
  rcases Result.bind_eq_ok_iff.mp hOk with ⟨type, hType, hPure⟩
  cases hPure
  exact
    { name_eq := rfl
      modifiers_eq := rfl
      type := resolves_of_referenceAt hType }

theorem describes_of_parameterRef
    {m : MemberDecl}
    {p : ParameterDecl}
    {entry : ParameterRef}
    (hOk : d.parameterRef m p = .ok entry) :
    d.DescribesParameter m p entry := by
  rcases Result.bind_eq_ok_iff.mp hOk with ⟨type, hType, hPure⟩
  cases hPure
  exact
    { name_eq := rfl
      variadic_eq := rfl
      type := resolves_of_referenceAt hType }

theorem describes_of_memberRef
    {m : MemberDecl}
    {entry : MemberRef}
    (hOk : d.memberRef m = .ok entry) :
    d.DescribesMember m entry := by
  rcases Result.bind_eq_ok_iff.mp hOk with
    ⟨parameters, hParameters, hOk⟩
  rcases Result.bind_eq_ok_iff.mp hOk with
    ⟨returns, hReturns, hOk⟩
  rcases Result.bind_eq_ok_iff.mp hOk with
    ⟨typeParameters, hTypeParameters, hPure⟩
  cases hPure
  exact
    { name_eq := rfl
      kind_eq := rfl
      modifiers_eq := rfl
      typeParameters :=
        forall₂_of_typeParameterRefs hTypeParameters
      parameters := (Result.forall₂_of_mapM hParameters).imp
        fun _ _ => describes_of_parameterRef
      returns := ⟨returns, rel_of_optionalRef hReturns, rfl⟩ }

theorem forall₂_of_interfaceRefs
    {index : Nat}
    {ts : List DeclaredType}
    {rs : List TypeRef}
    (hOk : d.interfaceRefs index ts = .ok rs) :
    List.Forall₂ (d.Resolves none) ts rs := by
  induction ts generalizing index rs with
  | nil =>
      cases hOk
      exact .nil
  | cons t ts ih =>
      rcases Result.bind_eq_ok_iff.mp hOk with ⟨r, hR, hOk⟩
      rcases Result.bind_eq_ok_iff.mp hOk with
        ⟨rest, hRest, hPure⟩
      cases hPure
      exact .cons (resolves_of_referenceAt hR) (ih hRest)

/- A signature is put together from entries and nothing else. -/
theorem describes_of_signature
    {c : ClassDecl}
    {sig : ClassSignature}
    (hOk : d.signature c = .ok sig) :
    d.Describes c sig := by
  rcases Result.bind_eq_ok_iff.mp hOk with
    ⟨superclass, hSuperclass, hOk⟩
  rcases Result.bind_eq_ok_iff.mp hOk with
    ⟨typeParameters, hTypeParameters, hOk⟩
  rcases Result.bind_eq_ok_iff.mp hOk with
    ⟨interfaces, hInterfaces, hOk⟩
  rcases Result.bind_eq_ok_iff.mp hOk with
    ⟨fields, hFields, hOk⟩
  rcases Result.bind_eq_ok_iff.mp hOk with
    ⟨constructors, hConstructors, hOk⟩
  rcases Result.bind_eq_ok_iff.mp hOk with
    ⟨methods, hMethods, hPure⟩
  cases hPure
  exact
    { name_eq := rfl
      package_eq := rfl
      kind_eq := rfl
      scope_eq := rfl
      superclass := rel_of_optionalRef hSuperclass
      typeParameters :=
        forall₂_of_typeParameterRefs hTypeParameters
      interfaces := forall₂_of_interfaceRefs hInterfaces
      fields := (Result.forall₂_of_mapM hFields).imp
        fun _ _ => describes_of_fieldRef
      constructors := (Result.forall₂_of_mapM hConstructors).imp
        fun _ _ => describes_of_memberRef
      methods := (Result.forall₂_of_mapM hMethods).imp
        fun _ _ => describes_of_memberRef }

end Description

end DeclaredApi

------------------------------------------------------------
-- Outcomes
------------------------------------------------------------

namespace DeclaredApi

namespace Session

/-
  A class is described by a signature with one entry for each
  declaration if every declared type resolves.  If one does
  not, the first of them decides the report.
-/
theorem describe_outcome
    {s : Session}
    (hReset : s.FollowsReset)
    (erases : Bool)
    (c : ClassDecl) :
    let d := Description.ofClass s.config erases s.registry c
    (∃ sig,
        (describe erases c s).1 = .ok sig ∧
          d.Describes c sig ∧
          ∀ site ∈ c.sites, ∃ r, d.atSite site = .ok r) ∨
      ∃ before site after cause,
        c.sites = before ++ site :: after ∧
          (∀ earlier ∈ before,
            ∃ r, d.atSite earlier = .ok r) ∧
          d.atSite site = .error cause ∧
          (describe erases c s).1 =
            .error (.ofResolve site.path c.name cause) := by
  intro d
  rw [describe_eq_signature hReset]
  have hFailure := d.failure?_signature c
  cases hSignature : d.signature c with
  | ok sig =>
      left
      rw [hSignature] at hFailure
      have hNone := List.findSome?_eq_none_iff.mp hFailure.symm
      refine ⟨sig, rfl, ?_, ?_⟩
      · exact Description.describes_of_signature hSignature
      · intro site hSite
        exact Description.fault?_eq_none_iff.mp (hNone site hSite)
  | error report =>
      right
      rw [hSignature] at hFailure
      rcases List.findSome?_eq_some_iff.mp hFailure.symm with
        ⟨before, site, after, hSites, hFault, hBefore⟩
      rcases Description.fault?_eq_some_iff.mp hFault with
        ⟨cause, hCause, rfl⟩
      refine ⟨before, site, after, cause, hSites, ?_, hCause, rfl⟩
      intro earlier hEarlier
      exact Description.fault?_eq_none_iff.mp
        (hBefore earlier hEarlier)

/- A class with a field of a name outside the base syntax. -/
def misnamedClass : ClassDecl where
  name := "a.C"
  fields :=
    [ .mk "e" (.named "a.B" 0 []) [],
      .mk "f" (.named "a.Größe" 0 []) [],
      .mk "g" (.typeVariable "U") [] ]

/-
  The field of the name decides, and not the undeclared
  variable of the field after it.
-/
theorem describe_outcome_misnamed :
    let s : Session := (reset {}).2
    let d :=
      Description.ofClass s.config false s.registry misnamedClass
    let site : TypeSite :=
      ⟨none, "field 'f'", .named "a.Größe" 0 []⟩
    (∃ before after,
      misnamedClass.sites = before ++ site :: after ∧
        ∀ earlier ∈ before, ∃ r, d.atSite earlier = .ok r) ∧
      d.atSite site = .error (.invalid .badBase) ∧
      (describe false misnamedClass s).1 =
        .error (.ofResolve "field 'f'" "a.C"
          (.invalid .badBase)) := by
  intro s d site
  have hReset : s.FollowsReset := ⟨{}, [], by simp, rfl⟩
  have hCause : d.atSite site = .error (.invalid .badBase) := by
    decide +kernel
  have hFirst :
      (d.atSite
        ⟨none, "field 'e'", .named "a.B" 0 []⟩).isOk = true := by
    decide +kernel
  rcases describe_outcome hReset false misnamedClass with
    ⟨_, _, _, hAll⟩ | hFails
  · rcases hAll site (by simp [ClassDecl.sites, misnamedClass,
      site, Description.labelled]) with ⟨r, hOk⟩
    cases hCause.symm.trans hOk
  · rcases hFails with
      ⟨before, found, after, cause, hSites, hBefore, hFound, hRun⟩
    have hList :
        misnamedClass.sites =
          [⟨none, "field 'e'", .named "a.B" 0 []⟩, site,
            ⟨none, "field 'g'", .typeVariable "U"⟩] := by
      rfl
    rw [hList] at hSites ⊢
    cases before with
    | nil =>
        cases hSites
        rw [hFound] at hFirst
        cases hFirst
    | cons first rest =>
        cases rest with
        | nil =>
            cases hSites
            cases hCause.symm.trans hFound
            exact ⟨⟨_, _, rfl, hBefore⟩, hCause, hRun⟩
        | cons other others =>
            injection hSites with _ hRest
            injection hRest with hSame
            rcases hBefore other (by simp) with ⟨r, hOk⟩
            rw [← hSame] at hOk
            cases hCause.symm.trans hOk

/- A class with fields of some types. -/
def fieldsClass (types : List DeclaredType) : ClassDecl where
  name := "a.C"
  fields := types.map (FieldDecl.mk "f" · [])

/-
  Only undeclared variables are reported with class and path.
  A class name outside the base syntax, a primitive type with
  arguments and an array of wildcards are not.
-/
theorem unresolved_escapes :
    let s : Session := (reset {}).2
    let report? (t : DeclaredType) :=
      Result.failure? (describe false (fieldsClass [t]) s).1
    report? (.typeVariable "U") =
        some (.undeclared "field 'f'" "a.C"
          { name := "U", context := "a.C" }) ∧
      report? (.named "a.Größe" 0 []) =
        some (.unresolved (.invalid .badBase)) ∧
      report? (.applied "int" 0 [] [.named "a.B" 0 []]) =
        some (.unresolved
          (.invalid (.primitiveArguments "int"))) ∧
      report? (.arrayOf (.wildcard [] [])) =
        some (.unresolved .wildcardComponent) := by
  decide +kernel

end Session

end DeclaredApi
