import DeclaredApi.Proofs.Declaration.Variables
import DeclaredApi.Proofs.Scope.Levels
import DeclaredApi.Proofs.Scope.Registration

/-
  Visibility of type variables.

  A variable is visible from a class if the member declares
  it or some class does that the class reaches, on a chain of
  links that does not come back to its name.  Parameters
  of the member come first, then those of the class, then
  those of the classes that fewer links lead to.  A class
  around an inner class is linked to before the supertypes,
  so of the declarations on one level its own is found, but
  a supertype on a level before hides it.

  Main declarations:
    * `Registry.findVariable_eq_or`
    * `Registry.Admits.reachesPast_iff`
    * `Registry.declares_iff_reaches`
    * `Registry.reached_class_passed_over`
    * `Registry.Encloses`
    * `Registry.Encloses.head?_classesAt`
    * `Registry.findVariable_of_encloses`
    * `Registry.supertype_hides_enclosing`
-/

------------------------------------------------------------
-- Parameters of Members
------------------------------------------------------------

namespace DeclaredApi

namespace Registry

/- A variable is looked for in the member, then in the class. -/
theorem findVariable_eq_or
    (registry : Registry)
    (scope : ClassScope)
    (member : Option MemberDecl)
    (name : String) :
    registry.findVariable scope member name =
      (member.bind
        (fun m => m.typeParameters.find?
          (fun p => p.name = name))).or
        (registry.findInClass scope name) := by
  cases member with
  | none => rfl
  | some m =>
      simp only [findVariable, Option.bind_some]
      cases m.typeParameters.find? (fun p => p.name = name) <;>
        rfl

/- A member hides nothing that it does not declare. -/
theorem findVariable_eq_findInClass
    {member : Option MemberDecl}
    {name : String}
    (registry : Registry)
    (scope : ClassScope)
    (hMember : name ∉ MemberDecl.declaredNames member) :
    registry.findVariable scope member name =
      registry.findInClass scope name := by
  cases member with
  | none => rfl
  | some m =>
      have hNone :
          m.typeParameters.find? (fun p => p.name = name) =
            none := by
        simpa [MemberDecl.declaredNames] using hMember
      rw [findVariable_eq_or, Option.bind_some, hNone,
        Option.none_or]

/- The first parameter of a name in the member is found. -/
theorem findVariable_eq_find?
    {m : MemberDecl}
    {name : String}
    (registry : Registry)
    (scope : ClassScope)
    (hMember : name ∈ MemberDecl.declaredNames (some m)) :
    ∃ p,
      m.typeParameters.find? (fun p => p.name = name) = some p ∧
        registry.findVariable scope (some m) name = some p := by
  have hFind :
      (m.typeParameters.find?
        (fun p => p.name = name)).isSome = true := by
    simpa [MemberDecl.declaredNames, List.find?_isSome]
      using hMember
  rcases Option.isSome_iff_exists.mp hFind with ⟨p, hp⟩
  refine ⟨p, hp, ?_⟩
  rw [findVariable_eq_or, Option.bind_some, hp, Option.some_or]

/- A parameter of the member is declared. -/
theorem declares_of_mem_declaredNames
    {registry : Registry}
    {member : Option MemberDecl}
    {name : String}
    (scope : ClassScope)
    (hMem : name ∈ MemberDecl.declaredNames member) :
    registry.declares scope member name = true := by
  cases member with
  | none => exact absurd hMem List.not_mem_nil
  | some m =>
      rcases findVariable_eq_find? registry scope hMem with
        ⟨p, _, hFound⟩
      rw [declares, hFound]
      rfl

end Registry

end DeclaredApi

------------------------------------------------------------
-- Reachable Declarations
------------------------------------------------------------

namespace DeclaredApi

namespace Registry

variable {registry : Registry}

/- A chain that goes on to another name goes past it. -/
theorem ReachesPast.tail
    {own : String}
    {c last next : ClassScope}
    (hReaches : registry.ReachesPast own c last)
    (hLink : registry.Links last next)
    (hOther : next.name ≠ own) :
    registry.ReachesPast own c next := by
  induction hReaches with
  | refl c =>
      exact ReachesPast.step hLink hOther (ReachesPast.refl next)
  | step hFirst hNext _ ih =>
      exact ReachesPast.step hFirst hNext (ih hLink)

/-
  If the name of a class means no other one, a chain that
  comes back to the name is back at the class, from where
  what follows is reached past the name.
-/
theorem ReachesPast.trans_reaches
    {scope c last : ClassScope}
    (hAdmits : registry.Admits scope)
    (hBefore : registry.ReachesPast scope.name scope c)
    (hRest : registry.Reaches c last) :
    registry.ReachesPast scope.name scope last := by
  induction hRest with
  | refl c => exact hBefore
  | @step c next last hLink _ ih =>
      apply ih
      by_cases hName : next.name = scope.name
      · have hLookup : registry.lookup scope.name = some next :=
          hName ▸ hLink.holds
        rw [hAdmits next hLookup]
        exact ReachesPast.refl scope
      · exact hBefore.tail hLink hName

/- What is reached at all is reached past it then. -/
theorem Admits.reachesPast_iff
    {scope last : ClassScope}
    (hAdmits : registry.Admits scope) :
    registry.ReachesPast scope.name scope last ↔
      registry.Reaches scope last :=
  ⟨ReachesPast.reaches,
    (ReachesPast.refl scope).trans_reaches hAdmits⟩

/- Past its name, chains lead to classes of the registry. -/
theorem ReachesPast.exists_ofDecl
    {own : String}
    {c : ClassDecl}
    {last : ClassScope}
    (hClasses :
      ∀ d ∈ registry, ∃ e, d = ClassScope.ofDecl e)
    (hReaches :
      registry.ReachesPast own (ClassScope.ofDecl c) last) :
    ∃ d, last = ClassScope.ofDecl d := by
  rcases hReaches.reaches.eq_or_holds with rfl | hHolds
  · exact ⟨c, rfl⟩
  · exact hClasses last hHolds.mem

/- What is found in a class is a parameter of a reached one. -/
theorem exists_reachesPast_of_findInClass
    {c : ClassDecl}
    {name : String}
    {p : TypeParameter}
    (hClasses :
      ∀ d ∈ registry, ∃ e, d = ClassScope.ofDecl e)
    (hFound :
      registry.findInClass (ClassScope.ofDecl c) name =
        some p) :
    ∃ d,
      registry.ReachesPast c.name (ClassScope.ofDecl c)
          (ClassScope.ofDecl d) ∧
        p ∈ d.typeParameters ∧ p.name = name := by
  rcases reachesPast_of_findInClass hFound with
    ⟨last, hReaches, hDeclares⟩
  rcases hReaches.exists_ofDecl hClasses with ⟨d, rfl⟩
  exact ⟨d, hReaches,
    ClassScope.mem_of_declaration?_ofDecl hDeclares,
    ClassScope.name_of_declaration?_ofDecl hDeclares⟩

/- A variable is visible if the member or a class has it. -/
theorem declares_iff
    {c : ClassDecl}
    {name : String}
    (member : Option MemberDecl)
    (hClasses :
      ∀ d ∈ registry, ∃ e, d = ClassScope.ofDecl e) :
    registry.declares (ClassScope.ofDecl c) member name = true ↔
      name ∈ MemberDecl.declaredNames member ∨
        ∃ d,
          registry.ReachesPast c.name (ClassScope.ofDecl c)
              (ClassScope.ofDecl d) ∧
            name ∈ d.typeParameters.map TypeParameter.name := by
  by_cases hMember : name ∈ MemberDecl.declaredNames member
  · exact iff_of_true (declares_of_mem_declaredNames _ hMember)
      (Or.inl hMember)
  · rw [declares, findVariable_eq_findInClass registry _ hMember]
    constructor
    · intro hSome
      rcases Option.isSome_iff_exists.mp hSome with ⟨p, hp⟩
      rcases exists_reachesPast_of_findInClass hClasses hp with
        ⟨d, hReaches, hParameter, hName⟩
      exact Or.inr
        ⟨d, hReaches, hName ▸ List.mem_map_of_mem hParameter⟩
    · rintro (hOther | ⟨d, hReaches, hDeclares⟩)
      · exact absurd hOther hMember
      · exact findInClass_isSome_of_reachesPast hReaches
          ((ClassScope.declaration?_ofDecl_isSome_iff d
            name).mpr hDeclares)

/- What is found is a parameter with the name asked for. -/
theorem origin_of_findVariable
    {c : ClassDecl}
    {member : Option MemberDecl}
    {name : String}
    {p : TypeParameter}
    (hClasses :
      ∀ d ∈ registry, ∃ e, d = ClassScope.ofDecl e)
    (hFound :
      registry.findVariable (ClassScope.ofDecl c) member name =
        some p) :
    p.name = name ∧
      ((∃ m, member = some m ∧ p ∈ m.typeParameters) ∨
        ∃ d,
          registry.ReachesPast c.name (ClassScope.ofDecl c)
              (ClassScope.ofDecl d) ∧
            p ∈ d.typeParameters) := by
  rw [findVariable_eq_or, Option.or_eq_some_iff] at hFound
  rcases hFound with hMember | ⟨_, hInClass⟩
  · rcases Option.bind_eq_some_iff.mp hMember with
      ⟨m, hm, hFind⟩
    exact ⟨by simpa using List.find?_some hFind,
      Or.inl ⟨m, hm, List.mem_of_find?_eq_some hFind⟩⟩
  · rcases exists_reachesPast_of_findInClass hClasses
        hInClass with
      ⟨d, hReaches, hParameter, hName⟩
    exact ⟨hName, Or.inr ⟨d, hReaches, hParameter⟩⟩

/- The last parameter of a name in the class comes next. -/
theorem findVariable_eq_of_class
    {c : ClassDecl}
    {member : Option MemberDecl}
    {name : String}
    (registry : Registry)
    (hMember : name ∉ MemberDecl.declaredNames member)
    (hDeclares :
      name ∈ c.typeParameters.map TypeParameter.name) :
    registry.findVariable (ClassScope.ofDecl c) member name =
      c.typeParameters.reverse.find?
        (fun p => p.name = name) := by
  rcases Option.isSome_iff_exists.mp
      ((ClassScope.declaration?_ofDecl_isSome_iff c
        name).mpr hDeclares) with
    ⟨p, hp⟩
  rw [findVariable_eq_findInClass registry _ hMember,
    findInClass_of_declaration? registry hp,
    ← ClassScope.declaration?_ofDecl, hp]

/-
  Visibility is reachability.  In a registry of classes, with
  links that may be cyclic or name nothing, the search comes
  to an end.  It finds a variable exactly if the member
  declares it or a class does that is reached past the name
  of the class, and what it finds has the name that was asked
  for.  If no other class is registered under that name, it
  is enough that the class is reached.  The first parameter
  of the member comes before all others, and then the last
  one of the class.
-/
theorem declares_iff_reaches
    (registry : Registry)
    (c : ClassDecl)
    (member : Option MemberDecl)
    (name : String)
    (hClasses :
      ∀ d ∈ registry, ∃ e, d = ClassScope.ofDecl e) :
    (∀ result,
      registry.Searches name [] [ClassScope.ofDecl c] result ↔
        result =
          registry.findInClass (ClassScope.ofDecl c) name) ∧
      (registry.declares (ClassScope.ofDecl c) member name =
          true ↔
        name ∈ MemberDecl.declaredNames member ∨
          ∃ d,
            registry.ReachesPast c.name (ClassScope.ofDecl c)
                (ClassScope.ofDecl d) ∧
              name ∈ d.typeParameters.map TypeParameter.name) ∧
      (registry.Admits (ClassScope.ofDecl c) →
        (registry.declares (ClassScope.ofDecl c) member name =
            true ↔
          name ∈ MemberDecl.declaredNames member ∨
            ∃ d,
              registry.Reaches (ClassScope.ofDecl c)
                  (ClassScope.ofDecl d) ∧
                name ∈
                  d.typeParameters.map TypeParameter.name)) ∧
      (∀ p,
        registry.findVariable (ClassScope.ofDecl c) member name =
            some p →
          p.name = name ∧
            ((∃ m, member = some m ∧ p ∈ m.typeParameters) ∨
              ∃ d,
                registry.ReachesPast c.name
                    (ClassScope.ofDecl c)
                    (ClassScope.ofDecl d) ∧
                  p ∈ d.typeParameters)) ∧
      (∀ m,
        member = some m →
          name ∈ MemberDecl.declaredNames member →
            registry.findVariable (ClassScope.ofDecl c) member
                name =
              m.typeParameters.find? (fun p => p.name = name)) ∧
      (name ∉ MemberDecl.declaredNames member →
        name ∈ c.typeParameters.map TypeParameter.name →
          registry.findVariable (ClassScope.ofDecl c) member
              name =
            c.typeParameters.reverse.find?
              (fun p => p.name = name)) := by
  refine ⟨fun result => searches_iff,
    declares_iff member hClasses, ?_,
    fun p => origin_of_findVariable hClasses, ?_,
    findVariable_eq_of_class registry⟩
  · intro hAdmits
    rw [declares_iff member hClasses]
    apply or_congr_right
    apply exists_congr
    intro d
    exact and_congr_left fun _ => hAdmits.reachesPast_iff
  · rintro m rfl hMember
    rcases findVariable_eq_find? registry (ClassScope.ofDecl c)
        hMember with
      ⟨p, hFind, hFound⟩
    rw [hFind, hFound]

end Registry

end DeclaredApi

------------------------------------------------------------
-- Cyclic Classes
------------------------------------------------------------

namespace DeclaredApi

namespace Registry

/-
  Classes of which each extends the next and the last one the
  first, with interfaces across and one that is not known; an
  inner class extends itself.
-/
def cyclicClasses : List ClassDecl :=
  [ { name := "a.A"
      superclass := some (.named "a.B" 0 [])
      interfaces := [.named "a.C" 0 [], .named "a.Gone" 0 []] },
    { name := "a.B"
      superclass := some (.named "a.C" 0 []) },
    { name := "a.C"
      typeParameters := [.mk "T" []]
      superclass := some (.named "a.A" 0 []) },
    { name := "a.A.In"
      superclass := some (.named "a.A.In" 0 [])
      enclosing := some "a.A" } ]

def cyclicRegistry : Registry :=
  cyclicClasses.map ClassScope.ofDecl

/- Around a cycle, a variable is found or the search ends. -/
theorem declares_iff_reaches_cyclic :
    cyclicRegistry.declares
        (ClassScope.ofDecl (cyclicClasses[3])) none "T" = true ∧
      cyclicRegistry.Searches "U" []
        [ClassScope.ofDecl (cyclicClasses[3])] none := by
  have hClasses :
      ∀ d ∈ cyclicRegistry, ∃ e, d = ClassScope.ofDecl e := by
    intro d hd
    rcases List.mem_map.mp hd with ⟨e, _, hEq⟩
    exact ⟨e, hEq.symm⟩
  have hAdmits :
      cyclicRegistry.Admits
        (ClassScope.ofDecl (cyclicClasses[3])) :=
    Holds.admits rfl
  have hAround :
      cyclicRegistry.Links
        (ClassScope.ofDecl (cyclicClasses[3]))
        (ClassScope.ofDecl (cyclicClasses[0])) :=
    ⟨"a.A", by decide, rfl⟩
  have hExtends :
      cyclicRegistry.Links
        (ClassScope.ofDecl (cyclicClasses[0]))
        (ClassScope.ofDecl (cyclicClasses[2])) :=
    ⟨"a.C", by decide, rfl⟩
  have hReaches :=
    Reaches.step hAround
      (Reaches.step hExtends (Reaches.refl _))
  constructor
  · exact ((declares_iff_reaches cyclicRegistry
      (cyclicClasses[3]) none "T" hClasses).2.2.1 hAdmits).mpr
        (Or.inr ⟨cyclicClasses[2], hReaches, by decide⟩)
  · exact ((declares_iff_reaches cyclicRegistry
      (cyclicClasses[3]) none "U" hClasses).1 none).mpr rfl

/- A class that was kept while others were registered. -/
def keptClass : ClassDecl where
  name := "a.C"
  superclass := some (.named "a.D" 0 [])

/-
  Another class under its name, with a variable, and its
  superclass, which extends that class.
-/
def laterRegistry : Registry :=
  [ { name := "a.C"
      typeParameters := [.mk "T" []] },
    { name := "a.D"
      superclass := some (.named "a.C" 0 []) } ].map
    ClassScope.ofDecl

/- A class that extends one with an empty name. -/
def heirOfNameless : ClassDecl where
  name := "a.C"
  superclass := some (.named "" 0 [])

/- The class with the empty name declares a variable. -/
def namelessRegistry : Registry :=
  [ClassScope.ofDecl
    { name := ""
      typeParameters := [.mk "T" []] }]

/-
  A class that is reached is passed over if it bears the name
  of the class that the search starts from, and one that is
  named as a supertype is if its name is empty.
-/
theorem reached_class_passed_over :
    (∃ last,
      laterRegistry.Reaches (ClassScope.ofDecl keptClass) last ∧
        last.declaration? "T" = some (.mk "T" []) ∧
        laterRegistry.declares (ClassScope.ofDecl keptClass)
            none "T" =
          false) ∧
      ∃ supertype last,
        heirOfNameless.superclass.bind DeclaredType.rawName? =
            some supertype ∧
          namelessRegistry.lookup supertype = some last ∧
          last.declaration? "T" = some (.mk "T" []) ∧
          namelessRegistry.declares
              (ClassScope.ofDecl heirOfNameless) none "T" =
            false := by
  have hFirst :
      laterRegistry.Links (ClassScope.ofDecl keptClass)
        (laterRegistry[1]) :=
    ⟨"a.D", by decide, rfl⟩
  have hSecond :
      laterRegistry.Links (laterRegistry[1])
        (laterRegistry[0]) :=
    ⟨"a.C", by decide, rfl⟩
  exact ⟨⟨laterRegistry[0],
      Reaches.step hFirst
        (Reaches.step hSecond (Reaches.refl _)), rfl, rfl⟩,
    "", namelessRegistry[0], rfl, rfl, rfl, rfl⟩

end Registry

end DeclaredApi

------------------------------------------------------------
-- Enclosing Classes
------------------------------------------------------------

namespace DeclaredApi

namespace Registry

/- A number of classes around one another, all registered. -/
inductive Encloses
    (registry : Registry) :
    Nat → ClassScope → ClassScope → Prop
| here
    (c : ClassScope) :
    Encloses registry 0 c c
| around
    {n : Nat}
    {c next last : ClassScope}
    {name : String}
    (hEnclosing : c.enclosing = some name)
    (hName : name ≠ "")
    (hLookup : registry.lookup name = some next)
    (hRest : Encloses registry n next last) :
    Encloses registry (n + 1) c last

variable {registry : Registry}

/- The class around a class is the first that it links to. -/
theorem head?_linked
    {c next : ClassScope}
    {name : String}
    (hEnclosing : c.enclosing = some name)
    (hName : name ≠ "")
    (hLookup : registry.lookup name = some next) :
    (registry.linked c).head? = some next := by
  have hLinks : c.links = name :: c.supertypes := by
    simp [ClassScope.links, hEnclosing, hName]
  rw [linked, hLinks, List.filterMap_cons_some hLookup]
  rfl

/- So the classes around a class are first on their levels. -/
theorem Encloses.head?_classesAt
    {n : Nat}
    {c last : ClassScope}
    {cs : List ClassScope}
    (hEncloses : registry.Encloses n c last)
    (hHead : cs.head? = some c) :
    (registry.classesAt n cs).head? = some last := by
  induction hEncloses generalizing cs with
  | here c => exact hHead
  | @around n c next last name hEnclosing hName hLookup _ ih =>
      rcases List.head?_eq_some_iff.mp hHead with ⟨rest, rfl⟩
      apply ih
      rw [List.flatMap_cons, List.head?_append,
        head?_linked hEnclosing hName hLookup, Option.some_or]

/-
  When a class around another one declares a variable and no
  class that fewer links lead to does, its declaration is the
  one that is found, whatever the supertypes as far away or
  further declare.  Otherwise one of those classes hides it.
-/
theorem findVariable_of_encloses
    {scope around : ClassScope}
    {member : Option MemberDecl}
    {name : String}
    {k : Nat}
    {p : TypeParameter}
    (hAdmits : registry.Admits scope)
    (hMember : name ∉ MemberDecl.declaredNames member)
    (hEncloses : registry.Encloses k scope around)
    (hDeclares : around.declaration? name = some p) :
    ((∀ m < k,
        ∀ c ∈ registry.classesAt m [scope],
          c.declaration? name = none) →
      registry.findVariable scope member name = some p) ∧
      ((∃ m < k,
        ∃ c ∈ registry.classesAt m [scope],
          (c.declaration? name).isSome = true) →
        ∃ n < k,
          ∃ q,
            registry.FoundAt scope name n q ∧
              registry.findVariable scope member name =
                some q) := by
  rw [findVariable_eq_findInClass registry scope hMember]
  constructor
  · intro hBefore
    have hHead :
        (registry.classesAt k [scope]).head? = some around :=
      hEncloses.head?_classesAt rfl
    rcases List.head?_eq_some_iff.mp hHead with ⟨rest, hLevel⟩
    have hFound : registry.FoundAt scope name k p := by
      refine ⟨hBefore, ?_⟩
      rw [hLevel, List.findSome?_cons, hDeclares]
    exact hFound.findInClass_eq hAdmits
  · rintro ⟨m, hm, c, hc, hSome⟩
    rcases exists_foundAt_of_level hc hSome with
      ⟨n, q, hn, hFound⟩
    exact ⟨n, by omega, q, hFound,
      hFound.findInClass_eq hAdmits⟩

/- A class that declares a variable. -/
def outermostClass : ClassDecl where
  name := "a.A"
  typeParameters := [.mk "T" [.named "a.X" 0 []]]

/- An inner class of an inner class, with a superclass. -/
def innermostClass (superclass : String) : ClassDecl where
  name := "a.A.B.C"
  superclass := some (.named superclass 0 [])
  enclosing := some "a.A.B"

/-
  The classes around it, and a class with a superclass that
  declares the variable of the outermost class as well.
-/
def nestedRegistry (superclass : String) : Registry :=
  [ outermostClass,
    { name := "a.A.B"
      enclosing := some "a.A" },
    innermostClass superclass,
    { name := "a.R"
      superclass := some (.named "a.S" 0 []) },
    { name := "a.S"
      typeParameters := [.mk "T" [.named "a.Y" 0 []]] } ].map
    ClassScope.ofDecl

/- The outer class is two classes away. -/
theorem encloses_nestedRegistry
    (superclass : String) :
    (nestedRegistry superclass).Encloses 2
      (ClassScope.ofDecl (innermostClass superclass))
      (ClassScope.ofDecl outermostClass) :=
  Encloses.around rfl (by decide) rfl
    (Encloses.around rfl (by decide) rfl (Encloses.here _))

/- Of two classes as far away, the one around is found. -/
theorem findVariable_of_encloses_tie :
    (nestedRegistry "a.R").findVariable
        (ClassScope.ofDecl (innermostClass "a.R")) none "T" =
      some (.mk "T" [.named "a.X" 0 []]) := by
  have hHolds :
      (nestedRegistry "a.R").Holds
        (ClassScope.ofDecl (innermostClass "a.R")) :=
    rfl
  have hBefore :
      ∀ m < 2,
        ∀ c ∈ (nestedRegistry "a.R").classesAt m
            [ClassScope.ofDecl (innermostClass "a.R")],
          c.declaration? "T" = none := by
    decide
  exact (findVariable_of_encloses hHolds.admits
    List.not_mem_nil (encloses_nestedRegistry "a.R")
    rfl).1 hBefore

/- A superclass hides the variable of the outer class. -/
theorem supertype_hides_enclosing :
    let registry := nestedRegistry "a.S"
    let scope := ClassScope.ofDecl (innermostClass "a.S")
    registry.Holds scope ∧
      scope.declaration? "T" = none ∧
      ∃ middle outer,
        registry.Encloses 1 scope middle ∧
          middle.declaration? "T" = none ∧
          registry.Encloses 2 scope outer ∧
          outer.declaration? "T" =
            some (.mk "T" [.named "a.X" 0 []]) ∧
          registry.findVariable scope none "T" =
            some (.mk "T" [.named "a.Y" 0 []]) :=
  ⟨rfl, rfl, _, _,
    Encloses.around rfl (by decide) rfl (Encloses.here _), rfl,
    encloses_nestedRegistry "a.S", rfl, rfl⟩

end Registry

end DeclaredApi
