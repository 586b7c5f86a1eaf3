import DeclaredApi.Proofs.Resolution.Leaves
import DeclaredApi.Proofs.Session.Classification
import DeclaredApi.Proofs.Structured.RoundTrip

/-
  Projecting references and reading them back.

  As long as the root object type stays the same, what is
  read back is the reference with the leaves that its scope
  hides replaced by the root.

  A resolved type loses nothing if the probe confirms the
  classes that it names.

  Main declarations:
    * `Session.readStructured_project`
    * `Session.projection_exact`
    * `Session.resolved_projection_round_trip`
    * `Session.projected_type_lost`
-/

------------------------------------------------------------
-- Reading Back
------------------------------------------------------------

namespace DeclaredApi

namespace Session

/- What is projected is read back as what the scope shows. -/
theorem readStructured_project
    {s : Session}
    {r : TypeRef}
    (hReset : s.FollowsReset)
    (hWellFormed : r.WellFormed)
    (declared : Structured.Declared)
    (path : String) :
    let projected := project declared r s
    (readStructured path projected.1 projected.2).1 =
      .ok (r.renameLeaves
        (Structured.shown s.root s.classifier.probe declared)) := by
  intro projected
  have hForm :
      projected.1 =
        Structured.form (r.renameLeaves
          (Structured.shown s.root s.classifier.probe
            declared)) :=
    (Structured.yields_project r s.classifier
      hReset.decided).1
  have hShown :
      (r.renameLeaves
        (Structured.shown s.root s.classifier.probe
          declared)).WellFormed :=
    hWellFormed.renameLeaves fun _ =>
      Structured.isDotted_shown _ _ s.config.rootObject_isDotted
  rw [hForm]
  have hRead :
      Action.Gives (Interner.Sound s.config.rootObject)
        (.ok (r.renameLeaves
          (Structured.shown s.root s.classifier.probe
            declared)))
        (Structured.readNode s.config path
          (Structured.form (r.renameLeaves
            (Structured.shown s.root s.classifier.probe
              declared)))) :=
    Structured.gives_readNode_form path
      (Interner.kept_sound _) hShown
  exact (Structured.gives_read hRead s.interner
    hReset.sound.interner).1

/-
  Without a scope the reference itself is read back.  Under a
  scope exactly those leaves become the root object type that
  are taken for type variables and that the scope does not
  declare.
-/
theorem projection_exact
    {s : Session}
    {r : TypeRef}
    (hReset : s.FollowsReset)
    (hWellFormed : r.WellFormed)
    (path : String) :
    (∀ declares : String → Bool,
      let projected := project (some declares) r s
      (readStructured path projected.1 projected.2).1 =
        .ok (r.renameLeaves fun e =>
          if (isVariable e s).1 && !declares e then
            s.root
          else
            e)) ∧
      let projected := project none r s
      (readStructured path projected.1 projected.2).1 =
        .ok r := by
  refine ⟨?_, ?_⟩
  · intro declares projected
    have hShown :
        Structured.shown s.root s.classifier.probe
            (some declares) =
          fun e =>
            if (isVariable e s).1 && !declares e then
              s.root
            else
              e := by
      funext e
      have hAnswer :
          (isVariable e s).1 = !s.classifier.probe.regards e :=
        (Classifier.yields_isVariable e s.classifier
          hReset.decided).1
      rw [hAnswer]
      rfl
    have hRead :=
      readStructured_project hReset hWellFormed (some declares)
        path
    rw [hShown] at hRead
    exact hRead
  · intro projected
    have hRead :=
      readStructured_project hReset hWellFormed none path
    have hSame :
        r.renameLeaves
            (Structured.shown s.root s.classifier.probe none) =
          r := by
      rw [TypeRef.renameLeaves_eq_self_iff]
      intro e _
      rfl
    rw [hSame] at hRead
    exact hRead

/- A reference with names of all kinds on several levels. -/
def nestedNames : TypeRef :=
  .simple "a.Map" 1
    [.simple "K" 2 [],
      .wildcard .lower
        [.simple "a.List" 0
          [.simple "T" 1 [], .wildcard .upper [.named "U"]]],
      .simple "int" 1 []]

/- The undeclared names in it become the root object type. -/
theorem projection_exact_nested :
    let s : Session := (reset {}).2
    let declares : String → Bool := fun e => e == "T"
    let inScope := project (some declares) nestedNames s
    let bare := project none nestedNames s
    (readStructured "type" inScope.1 inScope.2).1 =
        .ok (.simple "a.Map" 1
          [.simple "java.lang.Object" 2 [],
            .wildcard .lower
              [.simple "a.List" 0
                [.simple "T" 1 [],
                  .wildcard .upper
                    [.named "java.lang.Object"]]],
            .simple "int" 1 []]) ∧
      (readStructured "type" bare.1 bare.2).1 =
        .ok nestedNames := by
  intro s declares inScope bare
  have hReset : s.FollowsReset := ⟨{}, [], by simp, rfl⟩
  have hExact :=
    projection_exact (r := nestedNames) hReset
      (by decide +kernel) "type"
  refine ⟨(hExact.1 declares).trans ?_, hExact.2⟩
  exact congrArg Except.ok (by decide +kernel)

end Session

end DeclaredApi

------------------------------------------------------------
-- Resolved Types
------------------------------------------------------------

namespace DeclaredApi

namespace Resolution

variable {r : Resolution}

/-
  Where a type was resolved, only the classes that it names
  can be hidden, and they are not if the probe confirms them.
  The variables in it are declared under their own names.
-/
theorem not_hidden_of_supplies
    {probe : Probe}
    {t : DeclaredType}
    {e : String}
    (hDotted : Name.isDotted e = true)
    (hSupplies : r.Supplies t e)
    (hVariables :
      ∀ v ∈ t.mentions, (Name.splitDimensions v).2 = 0)
    (hClasses :
      ∀ base, r.NamesClass t base → probe.regards base = true)
    (hHidden :
      Structured.hides probe
          (some (r.registry.declares r.scope r.member)) e =
        true) :
    e = r.config.rootObject := by
  simp only [Structured.hides, Bool.and_eq_true,
    Bool.not_eq_true'] at hHidden
  cases hSupplies with
  | root => rfl
  | @className base hNamed =>
      have hRegards := hClasses base hNamed
      rw [← Probe.regards_element probe hDotted, hHidden.1]
        at hRegards
      cases hRegards
  | @variableName v _ hMention hDeclared =>
      have hName :=
        Name.append_brackets_splitDimensions v
      rw [hVariables v hMention, Name.brackets,
        String.append_empty] at hName
      rw [hName, hDeclared] at hHidden
      cases hHidden.2

end Resolution

namespace Session

/-
  A resolved reference is projected in the scope in which it
  was resolved and read back as what the scope shows of it.
  It is the same reference exactly if no leaf is hidden but
  the root.  That is so if the probe confirms all the classes
  that the type names, where names of variables contain no
  brackets.
-/
theorem resolved_projection_round_trip
    {s : Session}
    {scope : ClassScope}
    {member : Option MemberDecl}
    {erases : Bool}
    {t : DeclaredType}
    {r : TypeRef}
    (hReset : s.FollowsReset)
    (hOk : (resolve scope member erases t s).1 = .ok r)
    (path : String) :
    let probe := s.classifier.probe
    let declared : Structured.Declared :=
      some (s.registry.declares scope member)
    let projected :=
      project declared r (resolve scope member erases t s).2
    let readBack :=
      (readStructured path projected.1 projected.2).1
    readBack =
        .ok (r.renameLeaves
          (Structured.shown s.root probe declared)) ∧
      (readBack = .ok r ↔
        ∀ e ∈ r.leaves,
          Structured.hides probe declared e = true →
            e = s.root) ∧
      ((∀ v ∈ t.mentions, (Name.splitDimensions v).2 = 0) →
        (∀ base,
          Resolution.NamesClass
              ⟨s.config, s.registry, scope, member, erases⟩ t
              base →
            probe.regards base = true) →
          readBack = .ok r) := by
  intro probe declared projected readBack
  have hReference := hOk
  rw [resolve_eq_reference hReset] at hReference
  have hWellFormed :=
    Resolution.wellFormed_of_reference hReference
  have hAfter :
      (resolve scope member erases t s).2.FollowsReset :=
    hReset.step (.resolve scope member erases t) trivial
  have hExact :
      readBack =
        .ok (r.renameLeaves
          (Structured.shown s.root probe declared)) :=
    readStructured_project hAfter hWellFormed declared path
  have hSame :
      readBack = .ok r ↔
        ∀ e ∈ r.leaves,
          Structured.hides probe declared e = true →
            e = s.root := by
    rw [hExact, Except.ok.injEq,
      TypeRef.renameLeaves_eq_self_iff]
    simp only [Structured.shown_eq_self_iff]
  refine ⟨hExact, hSame, ?_⟩
  intro hVariables hClasses
  rw [hSame]
  intro e hLeaf
  exact Resolution.not_hidden_of_supplies
    (hWellFormed.isDotted_of_mem_leaves hLeaf)
    (Resolution.supplies_of_reference hReference hLeaf)
    hVariables hClasses

/- A class with a type variable. -/
def variableClass : ClassDecl where
  name := "a.C"
  typeParameters := [.mk "T" []]

/- The class is registered. -/
def variableHistory : List Operation :=
  [.register variableClass]

/- A type that names the variable and qualified classes. -/
def qualifiedUse : DeclaredType :=
  .applied "a.Map" 0 []
    [.typeVariable "T", .wildcard [.named "a.B" 1 []] []]

/- Qualified classes and declared variables are kept. -/
theorem resolved_projection_round_trip_qualified :
    let s : Session := run variableHistory (reset {}).2
    let scope := ClassScope.ofDecl variableClass
    let r : TypeRef :=
      .simple "a.Map" 0
        [.named "T", .wildcard .upper [.simple "a.B" 1 []]]
    let projected :=
      project (some (s.registry.declares scope none)) r
        (resolve scope none false qualifiedUse s).2
    (resolve scope none false qualifiedUse s).1 = .ok r ∧
      (readStructured "type" projected.1 projected.2).1 =
        .ok r := by
  intro s scope r projected
  have hReset : s.FollowsReset :=
    ⟨{}, variableHistory,
      by simp [variableHistory, Operation.KeepsRoot], rfl⟩
  have hOk :
      (resolve scope none false qualifiedUse s).1 = .ok r := by
    decide +kernel
  refine ⟨hOk, ?_⟩
  refine (resolved_projection_round_trip hReset hOk "type").2.2
    (by decide +kernel) ?_
  intro base hNames
  cases hNames with
  | inType hBase =>
      revert base
      decide +kernel
  | inBound hErases _ _ => cases hErases

/- A list of a wildcard that is bounded by a class. -/
def boundedList : DeclaredType :=
  .applied "a.List" 0 [] [.wildcard [.named "a.Y" 0 []] []]

/-
  A simple class name that is not confirmed is lost.  After
  other root object types, a qualified class may be lost to
  what was interned under them.
-/
theorem projected_type_lost :
    let scope := ClassScope.ofDecl variableClass
    (let s : Session := run variableHistory (reset {}).2
      let r : TypeRef := .named "Foo"
      let projected :=
        project (some (s.registry.declares scope none)) r
          (resolve scope none false (.ofName "Foo") s).2
      (resolve scope none false (.ofName "Foo") s).1 = .ok r ∧
        (readStructured "type" projected.1 projected.2).1 =
          .ok (.named "java.lang.Object") ∧
        r ≠ .named "java.lang.Object") ∧
      let x : Config := { rootObject := "a.X" }
      let y : Config := { rootObject := "a.Y" }
      let z : Config := { rootObject := "a.Z" }
      let s : Session :=
        run
          [.register variableClass,
            .configure z, .parse "a.List<?>",
            .configure x, .parse "?",
            .configure y, .parse "a.List<? extends a.Y>",
            .configure z]
          (reset {}).2
      let r : TypeRef :=
        .simple "a.List" 0 [.unbounded "a.Z"]
      let projected :=
        project (some (s.registry.declares scope none)) r
          (resolve scope none false boundedList s).2
      (resolve scope none false boundedList s).1 = .ok r ∧
        (readStructured "type" projected.1 projected.2).1 =
          .ok (.simple "a.List" 0 [.unbounded "a.X"]) ∧
        r ≠ .simple "a.List" 0 [.unbounded "a.X"] := by
  intro scope
  refine ⟨?_, ?_⟩
  · intro s r projected
    exact ⟨by decide +kernel,
      Result.eq_ok_of_toOption (by decide +kernel),
      by decide +kernel⟩
  · intro x y z s r projected
    exact ⟨by decide +kernel,
      Result.eq_ok_of_toOption (by decide +kernel),
      by decide +kernel⟩

end Session

end DeclaredApi
