import Mathlib.Data.List.Basic
import DeclaredApi.Proofs.Scope.Registration

/-
  Registries within registries.

  A registry is part of another one if its scopes are looked
  up alike there, and so is every name that they link to.  A
  search that starts at one of them meets the same classes in
  both, whatever else the larger registry holds.

  Main declarations:
    * `Registry.PartOf`
    * `Registry.PartOf.searches`
    * `Registry.PartOf.findVariable_eq`
    * `Registry.withAll`
    * `Registry.lookup_withAll`
    * `Registry.Undisturbed`
    * `Registry.Undisturbed.partOf`
-/

------------------------------------------------------------
-- Parts
------------------------------------------------------------

namespace DeclaredApi

namespace Registry

/-
  The scopes of a registry and the names that they link to
  are looked up alike in a larger one.
-/
structure PartOf (part whole : Registry) : Prop where
  holds : ∀ c, part.Holds c → whole.Holds c
  lookup_eq :
    ∀ c,
      part.Holds c →
        ∀ name ∈ c.links, whole.lookup name = part.lookup name

variable {part whole : Registry}

/- Registries that look up alike are part of each other. -/
theorem PartOf.of_lookup
    (hLookup : ∀ name, whole.lookup name = part.lookup name) :
    PartOf part whole where
  holds := fun c hHolds => (hLookup c.name).trans hHolds
  lookup_eq := fun _ _ name _ => hLookup name

/- A visit of a scope of the part adds the same scopes. -/
theorem PartOf.added_eq
    {c : ClassScope}
    (hPart : PartOf part whole)
    (hHolds : part.Holds c)
    (visited : List String) :
    whole.added visited c = part.added visited c := by
  have hLinks :
      c.links.filterMap whole.lookup =
        c.links.filterMap part.lookup :=
    List.filterMap_congr (hPart.lookup_eq c hHolds)
  rw [added, added, hLinks]

/- A run from scopes of the part is a run in both. -/
theorem PartOf.searches
    {name : String}
    {visited : List String}
    {pending : List ClassScope}
    {result : Option TypeParameter}
    (hPart : PartOf part whole)
    (hSearches : part.Searches name visited pending result)
    (hHolds : ∀ c ∈ pending, part.Holds c) :
    whole.Searches name visited pending result := by
  induction hSearches with
  | exhausted visited => exact Searches.exhausted visited
  | again hVisited _ ih =>
      exact Searches.again hVisited
        (ih (fun d hd => hHolds d (List.mem_cons_of_mem _ hd)))
  | declared hNew hDeclares =>
      exact Searches.declared hNew hDeclares
  | visit hNew hNone _ ih =>
      apply Searches.visit hNew hNone
      rw [hPart.added_eq (hHolds _ List.mem_cons_self)]
      apply ih
      intro d hd
      rcases List.mem_append.mp hd with hOld | hAdd
      · exact hHolds d (List.mem_cons_of_mem _ hOld)
      · exact (mem_added_iff.mp hAdd).1.holds

theorem PartOf.findInClass_eq
    {scope : ClassScope}
    (hPart : PartOf part whole)
    (hHolds : part.Holds scope)
    (name : String) :
    whole.findInClass scope name =
      part.findInClass scope name := by
  have hRun :=
    hPart.searches (searches_findInClass part scope name)
      (by simpa using hHolds)
  exact (searches_iff.mp hRun).symm

/- So a class of the part sees the same variables. -/
theorem PartOf.findVariable_eq
    {scope : ClassScope}
    (hPart : PartOf part whole)
    (hHolds : part.Holds scope)
    (member : Option MemberDecl)
    (name : String) :
    whole.findVariable scope member name =
      part.findVariable scope member name := by
  unfold findVariable
  rw [hPart.findInClass_eq hHolds]

end Registry

end DeclaredApi

------------------------------------------------------------
-- Registered Lists
------------------------------------------------------------

namespace DeclaredApi

namespace Registry

variable {registry : Registry} {classes : List ClassDecl}

/- A registry after some classes were registered in it. -/
def withAll
    (registry : Registry)
    (classes : List ClassDecl) : Registry :=
  classes.foldl (fun r c => (r.register c).2) registry

/- One more class is looked up after those before it. -/
theorem lookup_register
    (registry : Registry)
    (c : ClassDecl)
    (name : String) :
    (registry.register c).2.lookup name =
      (registry.lookup name).or
        (lookup [ClassScope.ofDecl c] name) := by
  cases hLookup : registry.lookup c.name with
  | none =>
      rw [register_of_lookup_eq_none hLookup]
      exact List.find?_append
  | some scope =>
      rw [register_of_lookup_eq_some hLookup]
      by_cases hName : c.name = name
      · rw [← hName, hLookup, Option.some_or]
      · have hOther :
            lookup [ClassScope.ofDecl c] name = none := by
          simpa [lookup, ClassScope.ofDecl] using hName
        rw [hOther, Option.or_none]

/- What was registered first is looked up first. -/
theorem lookup_withAll
    (registry : Registry)
    (classes : List ClassDecl)
    (name : String) :
    (registry.withAll classes).lookup name =
      (registry.lookup name).or
        (lookup (classes.map ClassScope.ofDecl) name) := by
  induction classes generalizing registry with
  | nil => exact Option.or_none.symm
  | cons c classes ih =>
      have hCons :
          lookup ((c :: classes).map ClassScope.ofDecl) name =
            (lookup [ClassScope.ofDecl c] name).or
              (lookup (classes.map ClassScope.ofDecl) name) :=
        @List.find?_append _ _ [ClassScope.ofDecl c] _
      rw [withAll, List.foldl_cons, ← withAll, ih,
        lookup_register, hCons, Option.or_assoc]

/-
  Nothing that classes look up is in the way: each of their
  names, and each name that they link to, has no scope in the
  registry, or the one that the classes give it.
-/
def Undisturbed
    (registry : Registry)
    (classes : List ClassDecl) : Prop :=
  ∀ c ∈ classes,
    ∀ name ∈ c.name :: (ClassScope.ofDecl c).links,
      registry.lookup name = none ∨
        registry.lookup name =
          lookup (classes.map ClassScope.ofDecl) name

theorem lookup_withAll_nil
    (classes : List ClassDecl)
    (name : String) :
    lookup (withAll [] classes) name =
      lookup (classes.map ClassScope.ofDecl) name :=
  lookup_withAll [] classes name

/- A class among others is the first one with its name. -/
theorem exists_of_holds_withAll_nil
    {scope : ClassScope}
    (hHolds : Holds (withAll [] classes) scope) :
    ∃ c ∈ classes, scope = ClassScope.ofDecl c := by
  have hLookup :
      lookup (classes.map ClassScope.ofDecl) scope.name =
        some scope :=
    (lookup_withAll_nil classes scope.name).symm.trans hHolds
  rcases List.mem_map.mp (List.mem_of_find?_eq_some hLookup)
    with ⟨c, hc, hEq⟩
  exact ⟨c, hc, hEq.symm⟩

/- Undisturbed classes look up what they do on their own. -/
theorem Undisturbed.lookup_eq
    {c : ClassDecl}
    {name : String}
    (hUndisturbed : registry.Undisturbed classes)
    (hMem : c ∈ classes)
    (hName : name ∈ c.name :: (ClassScope.ofDecl c).links) :
    (registry.withAll classes).lookup name =
      lookup (withAll [] classes) name := by
  rw [lookup_withAll, lookup_withAll_nil]
  rcases hUndisturbed c hMem name hName with hNone | hSame
  · rw [hNone, Option.none_or]
  · rw [hSame, Option.or_self]

theorem Undisturbed.partOf
    (hUndisturbed : registry.Undisturbed classes) :
    PartOf (withAll [] classes) (registry.withAll classes) where
  holds := by
    intro scope hHolds
    rcases exists_of_holds_withAll_nil hHolds with ⟨c, hc, rfl⟩
    exact (hUndisturbed.lookup_eq hc
      List.mem_cons_self).trans hHolds
  lookup_eq := by
    intro scope hHolds name hName
    rcases exists_of_holds_withAll_nil hHolds with ⟨c, hc, rfl⟩
    exact hUndisturbed.lookup_eq hc
      (List.mem_cons_of_mem _ hName)

/- Each class of a list has a scope after registration. -/
theorem exists_lookup_withAll
    {c : ClassDecl}
    (registry : Registry)
    (hMem : c ∈ classes) :
    ∃ scope,
      (registry.withAll classes).lookup c.name = some scope := by
  have hFound :
      (lookup (classes.map ClassScope.ofDecl)
        c.name).isSome = true := by
    rw [lookup, List.find?_isSome]
    exact ⟨ClassScope.ofDecl c, List.mem_map_of_mem hMem,
      decide_eq_true rfl⟩
  rw [← Option.isSome_iff_exists, lookup_withAll,
    Option.isSome_or, hFound, Bool.or_true]

end Registry

end DeclaredApi
