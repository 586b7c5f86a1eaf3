import Mathlib.Data.List.Basic
import Mathlib.Data.Nat.Find
import DeclaredApi.Proofs.Scope.Reachability

/-
  Levels of the search.

  The search for a variable meets the classes by the number
  of links that lead to them, so it finds the declaration of
  the first class on the first level that has one.  A class
  that was visited or that is pending is not added again;
  what is left out this way could only repeat what is met
  before.

  Main declarations:
    * `Registry.Admits`
    * `Registry.classesAt`
    * `Registry.FoundAt`
    * `Registry.Walks`
    * `Registry.Thins`
    * `Registry.Explored`
    * `Registry.searches_of_walks`
    * `Registry.findInClass_eq_some_iff`
-/

------------------------------------------------------------
-- Classes Told Apart by Name
------------------------------------------------------------

namespace DeclaredApi

namespace Registry

/-
  No other class is registered under the name of this one,
  which may be registered or not.
-/
def Admits
    (registry : Registry)
    (scope : ClassScope) : Prop :=
  ∀ c, registry.lookup scope.name = some c → c = scope

variable {registry : Registry} {scope : ClassScope}

/- A registered class is the one under its name. -/
theorem Holds.admits
    (hHolds : registry.Holds scope) :
    registry.Admits scope := by
  intro c hLookup
  rw [Holds, hLookup] at hHolds
  exact Option.some.inj hHolds

theorem Reaches.tail
    {c last next : ClassScope}
    (hReaches : registry.Reaches c last)
    (hLink : registry.Links last next) :
    registry.Reaches c next := by
  induction hReaches with
  | refl c => exact Reaches.step hLink (Reaches.refl next)
  | step hFirst _ ih => exact Reaches.step hFirst (ih hLink)

/- Whatever a chain arrives at is registered. -/
theorem Reaches.eq_or_holds
    {c last : ClassScope}
    (hReaches : registry.Reaches c last) :
    last = c ∨ registry.Holds last := by
  cases hReaches with
  | refl => exact Or.inl rfl
  | step hLink hRest => exact Or.inr (hRest.holds hLink.holds)

/- Reached classes with the same name are the same. -/
theorem Admits.eq_of_reaches
    {c d : ClassScope}
    (hAdmits : registry.Admits scope)
    (hC : registry.Reaches scope c)
    (hD : registry.Reaches scope d)
    (hName : c.name = d.name) :
    c = d := by
  rcases hC.eq_or_holds with rfl | hHoldsC
  · rcases hD.eq_or_holds with rfl | hHoldsD
    · rfl
    · exact (hAdmits d (hName ▸ hHoldsD)).symm
  · rcases hD.eq_or_holds with rfl | hHoldsD
    · exact hAdmits c (hName ▸ hHoldsC)
    · exact eq_of_holds hHoldsC hHoldsD hName

end Registry

end DeclaredApi

------------------------------------------------------------
-- Levels
------------------------------------------------------------

namespace DeclaredApi

namespace Registry

/- The classes that a class links to, in their order. -/
def linked
    (registry : Registry)
    (c : ClassScope) : List ClassScope :=
  c.links.filterMap registry.lookup

/-
  The classes that some classes lead to by a number of links,
  in breadth-first order, once for each chain of links.
-/
def classesAt
    (registry : Registry) :
    Nat → List ClassScope → List ClassScope
| 0, cs => cs
| n + 1, cs => classesAt registry n (cs.flatMap registry.linked)

/-
  A declaration is the first one on a level, and there is
  none on the levels before.
-/
structure FoundAt
    (registry : Registry)
    (scope : ClassScope)
    (name : String)
    (n : Nat)
    (parameter : TypeParameter) : Prop where
  before :
    ∀ m < n,
      ∀ c ∈ registry.classesAt m [scope],
        c.declaration? name = none
  first :
    (registry.classesAt n [scope]).findSome?
        (fun c => c.declaration? name) =
      some parameter

variable {registry : Registry}

theorem mem_linked
    {c next : ClassScope} :
    next ∈ registry.linked c ↔ registry.Links c next :=
  links_iff_mem.symm

/- What links to a class is one level before it. -/
theorem mem_classesAt_of_reaches
    {c last : ClassScope}
    {cs : List ClassScope}
    (hReaches : registry.Reaches c last)
    (hMem : c ∈ cs) :
    ∃ n, last ∈ registry.classesAt n cs := by
  induction hReaches generalizing cs with
  | refl c => exact ⟨0, hMem⟩
  | @step c next last hLink _ ih =>
      have hNext : next ∈ cs.flatMap registry.linked :=
        List.mem_flatMap.mpr ⟨c, hMem, mem_linked.mpr hLink⟩
      rcases ih hNext with ⟨n, hn⟩
      exact ⟨n + 1, hn⟩

/- A level with a declaration is the first one or later. -/
theorem exists_foundAt_of_level
    {scope c : ClassScope}
    {name : String}
    {k : Nat}
    (hMem : c ∈ registry.classesAt k [scope])
    (hDeclares : (c.declaration? name).isSome = true) :
    ∃ n parameter,
      n ≤ k ∧ registry.FoundAt scope name n parameter := by
  classical
  have hLevel :
      ∃ n,
        ∃ c ∈ registry.classesAt n [scope],
          (c.declaration? name).isSome = true :=
    ⟨k, c, hMem, hDeclares⟩
  have hFirst :
      ((registry.classesAt (Nat.find hLevel) [scope]).findSome?
        (fun c => c.declaration? name)).isSome = true := by
    rw [List.findSome?_isSome_iff]
    exact Nat.find_spec hLevel
  rcases Option.isSome_iff_exists.mp hFirst with ⟨p, hp⟩
  refine ⟨Nat.find hLevel, p,
    Nat.find_min' hLevel ⟨c, hMem, hDeclares⟩, ?_, hp⟩
  intro m hm d hd
  by_contra hSome
  exact Nat.find_min hLevel hm
    ⟨d, hd, Option.isSome_iff_ne_none.mpr hSome⟩

/- A declaration that is reached is on a first level. -/
theorem exists_foundAt
    {scope last : ClassScope}
    {name : String}
    (hReaches : registry.Reaches scope last)
    (hDeclares : (last.declaration? name).isSome = true) :
    ∃ n parameter,
      registry.FoundAt scope name n parameter := by
  rcases mem_classesAt_of_reaches hReaches
      (List.mem_singleton_self scope) with
    ⟨k, hMem⟩
  rcases exists_foundAt_of_level hMem hDeclares with
    ⟨n, p, _, hFound⟩
  exact ⟨n, p, hFound⟩

end Registry

end DeclaredApi

------------------------------------------------------------
-- Walks
------------------------------------------------------------

namespace DeclaredApi

namespace Registry

/-
  The search without memory: every pending class adds all the
  classes that it links to, whether they were met or not.
-/
inductive Walks
    (registry : Registry)
    (name : String) :
    List ClassScope → TypeParameter → Prop
| declared
    {c : ClassScope}
    {rest : List ClassScope}
    {parameter : TypeParameter}
    (hDeclares : c.declaration? name = some parameter) :
    Walks registry name (c :: rest) parameter
| link
    {c : ClassScope}
    {rest : List ClassScope}
    {parameter : TypeParameter}
    (hNone : c.declaration? name = none)
    (hRest :
      Walks registry name (rest ++ registry.linked c)
        parameter) :
    Walks registry name (c :: rest) parameter

variable {registry : Registry} {name : String}

/- Classes without the variable leave their links behind. -/
theorem walks_append_of_none
    {cs rest : List ClassScope}
    {parameter : TypeParameter}
    (hNone : ∀ c ∈ cs, c.declaration? name = none)
    (hWalks :
      registry.Walks name (rest ++ cs.flatMap registry.linked)
        parameter) :
    registry.Walks name (cs ++ rest) parameter := by
  induction cs generalizing rest with
  | nil => simpa using hWalks
  | cons c cs ih =>
      rw [List.flatMap_cons, ← List.append_assoc] at hWalks
      have hRest :=
        ih (fun d hd => hNone d (List.mem_cons_of_mem _ hd))
          hWalks
      rw [← List.append_assoc] at hRest
      exact Walks.link (hNone c List.mem_cons_self) hRest

/- The first declaration among the pending classes is met. -/
theorem walks_of_findSome?
    {cs : List ClassScope}
    {parameter : TypeParameter}
    (hFirst :
      cs.findSome? (fun c => c.declaration? name) =
        some parameter) :
    registry.Walks name cs parameter := by
  rcases List.findSome?_eq_some_iff.mp hFirst with
    ⟨before, c, after, rfl, hDeclares, hNone⟩
  exact walks_append_of_none hNone (Walks.declared hDeclares)

/- So the levels are walked one after the other. -/
theorem walks_of_levels
    {n : Nat}
    {cs : List ClassScope}
    {parameter : TypeParameter}
    (hBefore :
      ∀ m < n,
        ∀ c ∈ registry.classesAt m cs,
          c.declaration? name = none)
    (hFirst :
      (registry.classesAt n cs).findSome?
          (fun c => c.declaration? name) =
        some parameter) :
    registry.Walks name cs parameter := by
  induction n generalizing cs with
  | zero => exact walks_of_findSome? hFirst
  | succ n ih =>
      have hRest :
          registry.Walks name (cs.flatMap registry.linked)
            parameter :=
        ih (fun m hm => hBefore (m + 1) (Nat.succ_lt_succ hm))
          hFirst
      have hNone :
          ∀ c ∈ cs, c.declaration? name = none :=
        hBefore 0 (Nat.succ_pos n)
      have hWalks : registry.Walks name (cs ++ []) parameter :=
        walks_append_of_none hNone hRest
      rwa [List.append_nil] at hWalks

end Registry

end DeclaredApi

------------------------------------------------------------
-- Thinned Queues
------------------------------------------------------------

namespace DeclaredApi

namespace Registry

/-
  Some classes are left out of a list.  Each of them has a
  name that was seen, or that a class kept before it has.
-/
inductive Thins :
    List String → List ClassScope → List ClassScope → Prop
| nil
    (seen : List String) :
    Thins seen [] []
| keep
    {seen : List String}
    {c : ClassScope}
    {all kept : List ClassScope}
    (hRest : Thins (c.name :: seen) all kept) :
    Thins seen (c :: all) (c :: kept)
| drop
    {seen : List String}
    {c : ClassScope}
    {all kept : List ClassScope}
    (hSeen : c.name ∈ seen)
    (hRest : Thins seen all kept) :
    Thins seen (c :: all) kept

theorem Thins.mono
    {seen seen' : List String}
    {all kept : List ClassScope}
    (hThins : Thins seen all kept)
    (hSeen : seen ⊆ seen') :
    Thins seen' all kept := by
  induction hThins generalizing seen' with
  | nil _ => exact Thins.nil seen'
  | @keep _ c _ _ _ ih =>
      exact Thins.keep (ih (List.cons_subset_cons c.name hSeen))
  | drop hMem _ ih => exact Thins.drop (hSeen hMem) (ih hSeen)

/- Lists thinned one after the other are thinned together. -/
theorem Thins.append
    {seen : List String}
    {all kept more moreKept : List ClassScope}
    (hThins : Thins seen all kept)
    (hMore :
      Thins (kept.map ClassScope.name ++ seen) more moreKept) :
    Thins seen (all ++ more) (kept ++ moreKept) := by
  induction hThins with
  | nil _ => exact hMore
  | keep _ ih =>
      apply Thins.keep
      apply ih
      apply hMore.mono
      intro name hName
      simpa [or_left_comm] using hName
  | drop hSeen _ ih => exact Thins.drop hSeen (ih hMore)

/- Nothing is kept of classes that were all seen. -/
theorem thins_of_seen
    {seen : List String}
    {all : List ClassScope}
    (hSeen : ∀ c ∈ all, c.name ∈ seen) :
    Thins seen all [] := by
  induction all with
  | nil => exact Thins.nil seen
  | cons c all ih =>
      exact Thins.drop (hSeen c List.mem_cons_self)
        (ih (fun d hd => hSeen d (List.mem_cons_of_mem _ hd)))

/- The classes with names not seen yet are kept. -/
theorem thins_filter
    {seen seen' : List String}
    (all : List ClassScope)
    (hSeen : seen ⊆ seen') :
    Thins seen' all
      (all.filter (fun c => !seen.contains c.name)) := by
  induction all generalizing seen' with
  | nil => exact Thins.nil seen'
  | cons c all ih =>
      by_cases hMem : c.name ∈ seen
      · rw [List.filter_cons_of_neg (by simpa using hMem)]
        exact Thins.drop (hSeen hMem) (ih hSeen)
      · rw [List.filter_cons_of_pos (by simpa using hMem)]
        exact Thins.keep
          (ih (List.subset_cons_of_subset c.name hSeen))

end Registry

end DeclaredApi

------------------------------------------------------------
-- Searches along Walks
------------------------------------------------------------

namespace DeclaredApi

namespace Registry

/-
  What the visited classes leave for the search: they do not
  declare the variable, and the classes that they link to are
  visited or pending.
-/
structure Explored
    (registry : Registry)
    (scope : ClassScope)
    (name : String)
    (visited : List String)
    (pending : List ClassScope) : Prop where
  quiet :
    ∀ c,
      registry.Reaches scope c →
        c.name ∈ visited →
          c.declaration? name = none
  closed :
    ∀ c,
      registry.Reaches scope c →
        c.name ∈ visited →
          ∀ d ∈ registry.linked c,
            d.name ∈ pending.map ClassScope.name ++ visited

variable {registry : Registry}
variable {scope : ClassScope} {name : String}

/- A class that is met again adds nothing. -/
theorem Explored.again
    {visited : List String}
    {current : ClassScope}
    {pending : List ClassScope}
    (hExplored :
      registry.Explored scope name visited (current :: pending))
    (hVisited : current.name ∈ visited) :
    registry.Explored scope name visited pending where
  quiet := hExplored.quiet
  closed := by
    intro c hReaches hMem d hd
    have hName := hExplored.closed c hReaches hMem d hd
    rw [List.map_cons, List.cons_append] at hName
    rcases List.mem_cons.mp hName with hSame | hRest
    · rw [hSame]
      exact List.mem_append_right _ hVisited
    · exact hRest

/- The first visit of a class leaves its links pending. -/
theorem Explored.visit
    {visited : List String}
    {current : ClassScope}
    {pending : List ClassScope}
    (hAdmits : registry.Admits scope)
    (hCurrent : registry.Reaches scope current)
    (hNone : current.declaration? name = none)
    (hExplored :
      registry.Explored scope name visited (current :: pending)) :
    registry.Explored scope name (current.name :: visited)
      (pending ++
        registry.added (current.name :: visited) current) where
  quiet := by
    intro c hReaches hMem
    rcases List.mem_cons.mp hMem with hName | hOld
    · rw [hAdmits.eq_of_reaches hReaches hCurrent hName]
      exact hNone
    · exact hExplored.quiet c hReaches hOld
  closed := by
    intro c hReaches hMem d hd
    rw [List.map_append, List.append_assoc]
    rcases List.mem_cons.mp hMem with hName | hOld
    · rw [hAdmits.eq_of_reaches hReaches hCurrent hName] at hd
      apply List.mem_append_right
      by_cases hSeen : d.name ∈ current.name :: visited
      · exact List.mem_append_right _ hSeen
      · apply List.mem_append_left
        exact List.mem_map_of_mem
          (mem_added_iff.mpr ⟨mem_linked.mp hd, hSeen⟩)
    · have hName := hExplored.closed c hReaches hOld d hd
      simp only [List.map_cons, List.mem_append, List.mem_cons]
        at hName ⊢
      tauto

/-
  The search meets what the walk meets.  The queue of the
  search is the one of the walk without classes whose names
  are visited or pending before; when the walk comes to such
  a class, the search is already past it.
-/
theorem searches_of_walks
    {visited : List String}
    {all kept : List ClassScope}
    {parameter : TypeParameter}
    (hAdmits : registry.Admits scope)
    (hWalks : registry.Walks name all parameter)
    (hReaches : ∀ c ∈ all, registry.Reaches scope c)
    (hThins : Thins visited all kept)
    (hExplored : registry.Explored scope name visited kept) :
    registry.Searches name visited kept (some parameter) := by
  induction hWalks generalizing visited kept with
  | @declared c rest parameter hDeclares =>
      have hC := hReaches c List.mem_cons_self
      have hNew : c.name ∉ visited := by
        intro hVisited
        have hNone := hExplored.quiet c hC hVisited
        cases hDeclares.symm.trans hNone
      cases hThins with
      | keep _ => exact Searches.declared hNew hDeclares
      | drop hVisited _ => exact absurd hVisited hNew
  | @link c rest parameter hNone hRest ih =>
      have hC := hReaches c List.mem_cons_self
      have hNext :
          ∀ d ∈ rest ++ registry.linked c,
            registry.Reaches scope d := by
        intro d hd
        rcases List.mem_append.mp hd with hOld | hLinked
        · exact hReaches d (List.mem_cons_of_mem _ hOld)
        · exact hC.tail (mem_linked.mp hLinked)
      -- The links of a visited class add nothing new.
      have hPassed :
          ∀ {pending},
            c.name ∈ visited →
              Thins visited rest pending →
                registry.Explored scope name visited pending →
                  registry.Searches name visited pending
                    (some parameter) := by
        intro pending hVisited hThins hExplored
        have hLinks :
            Thins visited (rest ++ registry.linked c)
              (pending ++ []) :=
          hThins.append
            (thins_of_seen (hExplored.closed c hC hVisited))
        rw [List.append_nil] at hLinks
        exact ih hNext hLinks hExplored
      cases hThins with
      | drop hVisited hThins =>
          exact hPassed hVisited hThins hExplored
      | @keep _ _ _ pending hThins =>
          by_cases hVisited : c.name ∈ visited
          · apply Searches.again hVisited
            apply hPassed hVisited
            · exact hThins.mono
                (List.cons_subset.mpr
                  ⟨hVisited, List.Subset.refl visited⟩)
            · exact hExplored.again hVisited
          · apply Searches.visit hVisited hNone
            apply ih hNext
            · exact hThins.append
                (thins_filter (registry.linked c)
                  (List.subset_append_right _ _))
            · exact hExplored.visit hAdmits hC hNone

end Registry

end DeclaredApi

------------------------------------------------------------
-- First Levels
------------------------------------------------------------

namespace DeclaredApi

namespace Registry

variable {registry : Registry}
variable {scope : ClassScope} {name : String}
variable {parameter : TypeParameter}

theorem FoundAt.findInClass_eq
    {n : Nat}
    (hAdmits : registry.Admits scope)
    (hFound : registry.FoundAt scope name n parameter) :
    registry.findInClass scope name = some parameter := by
  have hRun :
      registry.Searches name [] [scope] (some parameter) := by
    apply searches_of_walks hAdmits
      (walks_of_levels hFound.before hFound.first)
    · intro c hc
      rw [List.mem_singleton.mp hc]
      exact Reaches.refl scope
    · exact Thins.keep (Thins.nil _)
    · constructor <;> intro c _ hMem <;>
        exact absurd hMem List.not_mem_nil
  exact (searches_iff.mp hRun).symm

/-
  The search finds the first declaration on the first level
  that has one.
-/
theorem findInClass_eq_some_iff
    (hAdmits : registry.Admits scope) :
    registry.findInClass scope name = some parameter ↔
      ∃ n, registry.FoundAt scope name n parameter := by
  constructor
  · intro hFind
    rcases reaches_of_findInClass hFind with
      ⟨last, hReaches, hDeclares⟩
    rcases exists_foundAt hReaches
        (Option.isSome_of_eq_some hDeclares) with
      ⟨n, q, hFound⟩
    have hSame := hFound.findInClass_eq hAdmits
    rw [hFind] at hSame
    injection hSame with hEq
    exact ⟨n, hEq ▸ hFound⟩
  · rintro ⟨n, hFound⟩
    exact hFound.findInClass_eq hAdmits

end Registry

end DeclaredApi
