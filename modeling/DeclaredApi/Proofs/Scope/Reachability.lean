import DeclaredApi.Scope.Lookup

/-
  Reachability of type variables.

  The search for a variable is sound and complete: it finds
  one exactly when a chain of links leads from the class to a
  class that declares it.  The classes that were visited take
  part in no chain any more, and what they did not yield is
  reached through their links.  These are facts about the
  search without its fuel, of which there is always enough.

  Main declarations:
    * `Registry.Links`
    * `Registry.Reaches`
    * `Registry.ReachesPast`
    * `Registry.Leads`
    * `Registry.Searches`
    * `Registry.searches_iff`
    * `Registry.Searches.isSome_of_leads`
    * `Registry.Searches.reachesPast`
    * `Registry.reachesPast_of_findInClass`
    * `Registry.findInClass_isSome_of_leads`
    * `Registry.findInClass_isSome_of_reachesPast`
    * `Registry.own_or_inClass_of_findVariable`
-/

------------------------------------------------------------
-- Links
------------------------------------------------------------

namespace DeclaredApi

namespace Registry

/- A scope is the one that is registered under its name. -/
def Holds
    (registry : Registry)
    (c : ClassScope) : Prop :=
  registry.lookup c.name = some c

/- A class names another one that is registered. -/
def Links
    (registry : Registry)
    (c next : ClassScope) : Prop :=
  ∃ name ∈ c.links, registry.lookup name = some next

/- A chain of links. -/
inductive Reaches
    (registry : Registry) : ClassScope → ClassScope → Prop
| refl (c : ClassScope) : Reaches registry c c
| step
    {c next last : ClassScope}
    (hLink : registry.Links c next)
    (hRest : Reaches registry next last) :
    Reaches registry c last

/- A chain of links on which no later class has a name. -/
inductive ReachesPast
    (registry : Registry)
    (own : String) : ClassScope → ClassScope → Prop
| refl (c : ClassScope) : ReachesPast registry own c c
| step
    {c next last : ClassScope}
    (hLink : registry.Links c next)
    (hOther : next.name ≠ own)
    (hRest : ReachesPast registry own next last) :
    ReachesPast registry own c last

/-
  A chain of links to a class that declares a variable, on
  which no class has a blocked name.
-/
inductive Leads
    (registry : Registry)
    (name : String)
    (blocked : List String) : ClassScope → Prop
| here
    {c : ClassScope}
    (hFree : c.name ∉ blocked)
    (hDeclares : (c.declaration? name).isSome = true) :
    Leads registry name blocked c
| link
    {c next : ClassScope}
    (hFree : c.name ∉ blocked)
    (hLink : registry.Links c next)
    (hNext : Leads registry name blocked next) :
    Leads registry name blocked c

variable {registry : Registry}

/- What is looked up is registered under its own name. -/
theorem holds_of_lookup
    {name : String}
    {c : ClassScope}
    (hLookup : registry.lookup name = some c) :
    registry.Holds c := by
  have hName : c.name = name := by
    simpa using List.find?_some hLookup
  rw [Holds, hName]
  exact hLookup

/- Registered classes with the same name are the same. -/
theorem eq_of_holds
    {c d : ClassScope}
    (hC : registry.Holds c)
    (hD : registry.Holds d)
    (hName : c.name = d.name) :
    c = d := by
  rw [Holds, hName, hD] at hC
  injection hC with hEq
  exact hEq.symm

/- What a class links to is what the search adds for it. -/
theorem links_iff_mem
    {c next : ClassScope} :
    registry.Links c next ↔
      next ∈ c.links.filterMap registry.lookup := by
  simp [Links]

theorem Links.holds
    {c next : ClassScope}
    (hLink : registry.Links c next) :
    registry.Holds next := by
  rcases hLink with ⟨name, _, hLookup⟩
  exact holds_of_lookup hLookup

theorem Reaches.holds
    {c last : ClassScope}
    (hReaches : registry.Reaches c last)
    (hHolds : registry.Holds c) :
    registry.Holds last := by
  induction hReaches with
  | refl c => exact hHolds
  | step hLink _ ih => exact ih hLink.holds

/- Such a chain is a chain of links. -/
theorem ReachesPast.reaches
    {own : String}
    {c last : ClassScope}
    (hReaches : registry.ReachesPast own c last) :
    registry.Reaches c last := by
  induction hReaches with
  | refl c => exact Reaches.refl c
  | step hLink _ _ ih => exact Reaches.step hLink ih

/- From another class it leads to what its end declares. -/
theorem ReachesPast.leads
    {own name : String}
    {c last : ClassScope}
    (hReaches : registry.ReachesPast own c last)
    (hOther : c.name ≠ own)
    (hDeclares : (last.declaration? name).isSome = true) :
    registry.Leads name [own] c := by
  induction hReaches with
  | refl c => exact Leads.here (by simpa using hOther) hDeclares
  | step hLink hNext _ ih =>
      exact Leads.link (by simpa using hOther) hLink
        (ih hNext hDeclares)

/- What is visible from a class is visible where it leads. -/
theorem Reaches.leads
    {name : String}
    {c last : ClassScope}
    (hReaches : registry.Reaches c last)
    (hLeads : registry.Leads name [] last) :
    registry.Leads name [] c := by
  induction hReaches with
  | refl c => exact hLeads
  | step hLink _ ih =>
      exact Leads.link List.not_mem_nil hLink (ih hLeads)

/- A chain starts at a class that is not blocked. -/
theorem Leads.free
    {name : String}
    {blocked : List String}
    {c : ClassScope}
    (hLeads : registry.Leads name blocked c) :
    c.name ∉ blocked := by
  cases hLeads with
  | here hFree _ => exact hFree
  | link hFree _ _ => exact hFree

/-
  A chain goes on without a class that does not declare the
  variable, or starts anew at one of the links of that class.
-/
theorem Leads.avoid
    {name : String}
    {blocked : List String}
    {c current : ClassScope}
    (hLeads : registry.Leads name blocked c)
    (hHolds : registry.Holds c)
    (hCurrent : registry.Holds current)
    (hNone : current.declaration? name = none) :
    registry.Leads name (current.name :: blocked) c ∨
      ∃ next,
        registry.Links current next ∧
          registry.Leads name (current.name :: blocked) next := by
  induction hLeads with
  | @here c hFree hDeclares =>
      left
      refine Leads.here ?_ hDeclares
      intro hMem
      rcases List.mem_cons.mp hMem with hName | hBlocked
      · have hEq := eq_of_holds hHolds hCurrent hName
        rw [hEq, hNone] at hDeclares
        cases hDeclares
      · exact hFree hBlocked
  | @link c next hFree hLink _ ih =>
      rcases ih hLink.holds with hNext | hLater
      · by_cases hName : c.name = current.name
        · right
          have hEq := eq_of_holds hHolds hCurrent hName
          exact ⟨next, hEq ▸ hLink, hNext⟩
        · left
          refine Leads.link ?_ hLink hNext
          intro hMem
          rcases List.mem_cons.mp hMem with hSame | hBlocked
          · exact hName hSame
          · exact hFree hBlocked
      · exact Or.inr hLater

end Registry

end DeclaredApi

------------------------------------------------------------
-- Fuel
------------------------------------------------------------

namespace DeclaredApi

namespace Registry

/- The number of links that a first visit would add. -/
def linksLeft
    (visited : List String)
    (c : ClassScope) : Nat :=
  if visited.contains c.name then 0 else c.links.length

/- The number of links of the classes not yet visited. -/
def remaining
    (visited : List String) : Registry → Nat
| [] => 0
| c :: rest => linksLeft visited c + remaining visited rest

theorem remaining_nil
    (registry : Registry) :
    remaining [] registry = registry.linkCount := by
  induction registry with
  | nil => rfl
  | cons c rest ih => simp [remaining, linksLeft, linkCount, ih]

/- A visit adds no links. -/
theorem linksLeft_cons_le
    (name : String)
    (visited : List String)
    (c : ClassScope) :
    linksLeft (name :: visited) c ≤ linksLeft visited c := by
  unfold linksLeft
  by_cases hVisited : visited.contains c.name = true
  · have hStill :
        (name :: visited).contains c.name = true := by
      rw [List.contains_cons, hVisited, Bool.or_true]
    rw [if_pos hStill]
    exact Nat.zero_le _
  · rw [if_neg hVisited]
    split
    · exact Nat.zero_le _
    · exact Nat.le_refl _

theorem remaining_cons_le
    (name : String)
    (visited : List String)
    (registry : Registry) :
    remaining (name :: visited) registry ≤
      remaining visited registry := by
  induction registry with
  | nil => exact Nat.le_refl 0
  | cons c rest ih =>
      exact Nat.add_le_add (linksLeft_cons_le name visited c) ih

/- The first visit of a class takes its links away. -/
theorem remaining_visit
    {visited : List String}
    {registry : Registry}
    {c : ClassScope}
    (hMem : c ∈ registry)
    (hNew : visited.contains c.name = false) :
    remaining (c.name :: visited) registry + c.links.length ≤
      remaining visited registry := by
  induction registry with
  | nil => simp at hMem
  | cons d rest ih =>
      simp only [remaining]
      rcases List.mem_cons.mp hMem with rfl | hRest
      · have hGone : linksLeft (c.name :: visited) c = 0 := by
          simp [linksLeft]
        have hLinks : linksLeft visited c = c.links.length := by
          rw [linksLeft, hNew]
          rfl
        have hLe := remaining_cons_le c.name visited rest
        omega
      · have hHead := linksLeft_cons_le c.name visited d
        have hTail := ih hRest
        omega

end Registry

end DeclaredApi

------------------------------------------------------------
-- Visits
------------------------------------------------------------

namespace DeclaredApi

namespace Registry

variable {registry : Registry}

/- A registered class is among the scopes. -/
theorem Holds.mem
    {c : ClassScope}
    (hHolds : registry.Holds c) :
    c ∈ registry :=
  List.mem_of_find?_eq_some hHolds

/- The classes that a visit of a class adds to the search. -/
def added
    (registry : Registry)
    (visited : List String)
    (current : ClassScope) : List ClassScope :=
  (current.links.filterMap registry.lookup).filter
    (fun c => !visited.contains c.name)

variable {visited : List String} {current : ClassScope}

theorem mem_added_iff
    {c : ClassScope} :
    c ∈ registry.added visited current ↔
      registry.Links current c ∧ c.name ∉ visited := by
  rw [added, List.mem_filter, ← links_iff_mem]
  simp

/- A visit adds no more classes than there are links. -/
theorem length_added_le :
    (registry.added visited current).length ≤
      current.links.length :=
  Nat.le_trans
    (List.length_filter_le _
      (current.links.filterMap registry.lookup))
    (List.length_filterMap_le registry.lookup current.links)

end Registry

end DeclaredApi

------------------------------------------------------------
-- The Search without Fuel
------------------------------------------------------------

namespace DeclaredApi

namespace Registry

/-
  A run of the search from the classes visited and pending to
  what it finds, one constructor for each way through the
  loop.
-/
inductive Searches
    (registry : Registry)
    (name : String) :
    List String →
    List ClassScope →
    Option TypeParameter → Prop
| exhausted
    (visited : List String) :
    Searches registry name visited [] none
| again
    {visited : List String}
    {current : ClassScope}
    {pending : List ClassScope}
    {result : Option TypeParameter}
    (hVisited : current.name ∈ visited)
    (hRest : Searches registry name visited pending result) :
    Searches registry name visited (current :: pending) result
| declared
    {visited : List String}
    {current : ClassScope}
    {pending : List ClassScope}
    {parameter : TypeParameter}
    (hNew : current.name ∉ visited)
    (hDeclares : current.declaration? name = some parameter) :
    Searches registry name visited (current :: pending)
      (some parameter)
| visit
    {visited : List String}
    {current : ClassScope}
    {pending : List ClassScope}
    {result : Option TypeParameter}
    (hNew : current.name ∉ visited)
    (hNone : current.declaration? name = none)
    (hRest :
      Searches registry name (current.name :: visited)
        (pending ++
          registry.added (current.name :: visited) current)
        result) :
    Searches registry name visited (current :: pending) result

variable {registry : Registry} {name : String}

/- One turn of the loop, with the classes that it adds. -/
theorem search_succ_cons
    (registry : Registry)
    (name : String)
    (fuel : Nat)
    (visited : List String)
    (current : ClassScope)
    (pending : List ClassScope) :
    registry.search name (fuel + 1) visited
        (current :: pending) =
      if visited.contains current.name then
        registry.search name fuel visited pending
      else
        match current.declaration? name with
        | some parameter => some parameter
        | none =>
            registry.search name fuel (current.name :: visited)
              (pending ++
                registry.added (current.name :: visited)
                  current) :=
  rfl

/-
  With fuel for the pending classes and for all the links
  that may still be added, the search runs to its end.
-/
theorem searches_search
    {fuel : Nat}
    {visited : List String}
    {pending : List ClassScope}
    (hFuel :
      pending.length + remaining visited registry < fuel)
    (hHolds : ∀ c ∈ pending, registry.Holds c) :
    registry.Searches name visited pending
      (registry.search name fuel visited pending) := by
  induction fuel generalizing visited pending with
  | zero => exact absurd hFuel (Nat.not_lt_zero _)
  | succ fuel ih =>
      cases pending with
      | nil => exact Searches.exhausted visited
      | cons current pending =>
          have hCurrent := hHolds current List.mem_cons_self
          have hPending :
              ∀ d ∈ pending, registry.Holds d :=
            fun d hd => hHolds d (List.mem_cons_of_mem _ hd)
          rw [List.length_cons] at hFuel
          rw [search_succ_cons]
          by_cases hVisited :
              visited.contains current.name = true
          · rw [if_pos hVisited]
            exact Searches.again (by simpa using hVisited)
              (ih (by omega) hPending)
          · rw [if_neg hVisited]
            have hUnvisited :
                visited.contains current.name = false :=
              Bool.eq_false_iff.mpr hVisited
            have hNew : current.name ∉ visited := by
              simpa using hVisited
            cases hDeclares : current.declaration? name with
            | some parameter =>
                exact Searches.declared hNew hDeclares
            | none =>
                have hVisit :=
                  remaining_visit hCurrent.mem hUnvisited
                have hAdded :
                    (registry.added (current.name :: visited)
                      current).length ≤ current.links.length :=
                  length_added_le
                apply Searches.visit hNew hDeclares
                apply ih
                · rw [List.length_append]
                  omega
                · intro d hd
                  rcases List.mem_append.mp hd with hOld | hAdd
                  · exact hPending d hOld
                  · exact (mem_added_iff.mp hAdd).1.holds

/- A run has one end. -/
theorem Searches.unique
    {visited : List String}
    {pending : List ClassScope}
    {result result' : Option TypeParameter}
    (hSearches : registry.Searches name visited pending result)
    (hSearches' :
      registry.Searches name visited pending result') :
    result = result' := by
  induction hSearches with
  | exhausted visited =>
      cases hSearches'
      rfl
  | again hVisited _ ih =>
      cases hSearches' with
      | again _ hRest' => exact ih hRest'
      | declared hNew _ => exact absurd hVisited hNew
      | visit hNew _ _ => exact absurd hVisited hNew
  | declared hNew hDeclares =>
      cases hSearches' with
      | again hVisited _ => exact absurd hVisited hNew
      | declared _ hDeclares' =>
          rw [← hDeclares, hDeclares']
      | visit _ hNone _ => cases hDeclares.symm.trans hNone
  | visit hNew hNone _ ih =>
      cases hSearches' with
      | again hVisited _ => exact absurd hVisited hNew
      | declared _ hDeclares => cases hNone.symm.trans hDeclares
      | visit _ _ hRest' => exact ih hRest'

/-
  The fuel of a class is enough, whether or not the class is
  registered: after its own visit, all that is pending is.
-/
theorem searches_findInClass
    (registry : Registry)
    (scope : ClassScope)
    (name : String) :
    registry.Searches name [] [scope]
      (registry.findInClass scope name) := by
  rw [findInClass, search_succ_cons]
  simp only [List.contains_nil, Bool.false_eq_true, if_false,
    List.nil_append]
  cases hDeclares : scope.declaration? name with
  | some parameter =>
      exact Searches.declared List.not_mem_nil hDeclares
  | none =>
      have hAdded :
          (registry.added [scope.name] scope).length ≤
            scope.links.length :=
        length_added_le
      have hRemaining :=
        remaining_cons_le scope.name [] registry
      rw [remaining_nil] at hRemaining
      apply Searches.visit List.not_mem_nil hDeclares
      rw [List.nil_append]
      apply searches_search
      · omega
      · intro d hd
        exact (mem_added_iff.mp hd).1.holds

/- So the search in a class is the run that starts there. -/
theorem searches_iff
    {scope : ClassScope}
    {result : Option TypeParameter} :
    registry.Searches name [] [scope] result ↔
      result = registry.findInClass scope name := by
  have hRun := searches_findInClass registry scope name
  constructor
  · intro hSearches
    exact hSearches.unique hRun
  · rintro rfl
    exact hRun

end Registry

end DeclaredApi

------------------------------------------------------------
-- Soundness and Completeness
------------------------------------------------------------

namespace DeclaredApi

namespace Registry

variable {registry : Registry} {name : String}

/-
  When a class without the variable was visited, some class
  that is still pending or was added leads to the variable.
-/
theorem exists_leads_of_visit
    {visited : List String}
    {current : ClassScope}
    {pending : List ClassScope}
    {c : ClassScope}
    (hHolds : ∀ d ∈ current :: pending, registry.Holds d)
    (hNone : current.declaration? name = none)
    (hMem : c ∈ current :: pending)
    (hLeads : registry.Leads name visited c) :
    ∃ d ∈ pending ++
        registry.added (current.name :: visited) current,
      registry.Leads name (current.name :: visited) d := by
  rcases hLeads.avoid (hHolds c hMem)
      (hHolds current List.mem_cons_self) hNone with
    hSame | ⟨next, hLink, hNext⟩
  · rcases List.mem_cons.mp hMem with rfl | hRest
    · exact absurd List.mem_cons_self hSame.free
    · exact ⟨c, List.mem_append_left _ hRest, hSame⟩
  · refine ⟨next, ?_, hNext⟩
    exact List.mem_append_right _
      (mem_added_iff.mpr ⟨hLink, hNext.free⟩)

/- A run finds a variable that some pending class leads to. -/
theorem Searches.isSome_of_leads
    {visited : List String}
    {pending : List ClassScope}
    {result : Option TypeParameter}
    (hSearches : registry.Searches name visited pending result)
    (hHolds : ∀ c ∈ pending, registry.Holds c)
    (hLeads :
      ∃ c ∈ pending, registry.Leads name visited c) :
    result.isSome = true := by
  induction hSearches with
  | exhausted visited =>
      rcases hLeads with ⟨c, hc, _⟩
      exact absurd hc List.not_mem_nil
  | again hVisited _ ih =>
      rcases hLeads with ⟨c, hc, hLeads⟩
      refine ih (fun d hd => hHolds d (List.mem_cons_of_mem _ hd))
        ⟨c, ?_, hLeads⟩
      rcases List.mem_cons.mp hc with rfl | hRest
      · exact absurd hVisited hLeads.free
      · exact hRest
  | declared _ _ => rfl
  | visit hNew hNone _ ih =>
      rcases hLeads with ⟨c, hc, hLeads⟩
      apply ih
      · intro d hd
        rcases List.mem_append.mp hd with hOld | hAdd
        · exact hHolds d (List.mem_cons_of_mem _ hOld)
        · exact (mem_added_iff.mp hAdd).1.holds
      · exact exists_leads_of_visit hHolds hNone hc hLeads

/-
  What a run finds is declared by a class that is reached
  past each of the names that were visited before.
-/
theorem Searches.reachesPast
    {own : String}
    {visited : List String}
    {pending : List ClassScope}
    {result : Option TypeParameter}
    {parameter : TypeParameter}
    (hSearches : registry.Searches name visited pending result)
    (hOwn : own ∈ visited)
    (hFound : result = some parameter) :
    ∃ c ∈ pending,
      ∃ last,
        registry.ReachesPast own c last ∧
          last.declaration? name = some parameter := by
  induction hSearches with
  | exhausted visited => cases hFound
  | again _ _ ih =>
      rcases ih hOwn hFound with ⟨c, hc, hLast⟩
      exact ⟨c, List.mem_cons_of_mem _ hc, hLast⟩
  | @declared visited current _ _ _ hDeclares =>
      injection hFound with hEq
      exact ⟨current, List.mem_cons_self, current,
        ReachesPast.refl current, hEq ▸ hDeclares⟩
  | @visit visited current _ _ _ _ _ ih =>
      have hStill : own ∈ current.name :: visited :=
        List.mem_cons_of_mem _ hOwn
      rcases ih hStill hFound with
        ⟨c, hc, last, hReaches, hLast⟩
      rcases List.mem_append.mp hc with hOld | hAdd
      · exact ⟨c, List.mem_cons_of_mem _ hOld, last, hReaches,
          hLast⟩
      · rcases mem_added_iff.mp hAdd with ⟨hLink, hNew⟩
        have hOther : c.name ≠ own := by
          rintro rfl
          exact hNew hStill
        exact ⟨current, List.mem_cons_self, last,
          ReachesPast.step hLink hOther hReaches, hLast⟩

/-
  What is found in a class is declared where it reaches past
  its own name, which the first visit marks.
-/
theorem reachesPast_of_findInClass
    {scope : ClassScope}
    {parameter : TypeParameter}
    (hFound : registry.findInClass scope name = some parameter) :
    ∃ last,
      registry.ReachesPast scope.name scope last ∧
        last.declaration? name = some parameter := by
  have hRun := searches_findInClass registry scope name
  rw [hFound] at hRun
  cases hRun with
  | again hVisited _ => exact absurd hVisited List.not_mem_nil
  | declared _ hDeclares =>
      exact ⟨scope, ReachesPast.refl scope, hDeclares⟩
  | visit _ _ hRest =>
      rcases hRest.reachesPast List.mem_cons_self rfl with
        ⟨next, hNext, last, hReaches, hLast⟩
      rw [List.nil_append] at hNext
      rcases mem_added_iff.mp hNext with ⟨hLink, hNew⟩
      have hOther : next.name ≠ scope.name := by
        simpa using hNew
      exact ⟨last, ReachesPast.step hLink hOther hReaches,
        hLast⟩

/- So it is declared by a class that is reached. -/
theorem reaches_of_findInClass
    {scope : ClassScope}
    {parameter : TypeParameter}
    (hFound : registry.findInClass scope name = some parameter) :
    ∃ last,
      registry.Reaches scope last ∧
        last.declaration? name = some parameter := by
  rcases reachesPast_of_findInClass hFound with
    ⟨last, hReaches, hLast⟩
  exact ⟨last, hReaches.reaches, hLast⟩

/- A class finds what it declares itself first. -/
theorem findInClass_of_declaration?
    {scope : ClassScope}
    {parameter : TypeParameter}
    (registry : Registry)
    (hDeclares : scope.declaration? name = some parameter) :
    registry.findInClass scope name = some parameter :=
  (searches_iff.mp
    (Searches.declared List.not_mem_nil hDeclares)).symm

/- A class that leads to a declaration has the variable. -/
theorem findInClass_isSome_of_leads
    {scope : ClassScope}
    (hHolds : registry.Holds scope)
    (hLeads : registry.Leads name [] scope) :
    (registry.findInClass scope name).isSome = true := by
  apply (searches_findInClass registry scope name).isSome_of_leads
  · intro c hc
    rw [List.mem_singleton.mp hc]
    exact hHolds
  · exact ⟨scope, List.mem_singleton_self scope, hLeads⟩

/-
  So has a class that reaches one past its own name, whether
  or not it is registered itself: all that its visit adds is.
-/
theorem findInClass_isSome_of_reachesPast
    {scope last : ClassScope}
    (hReaches : registry.ReachesPast scope.name scope last)
    (hDeclares : (last.declaration? name).isSome = true) :
    (registry.findInClass scope name).isSome = true := by
  have hRun := searches_findInClass registry scope name
  cases hReaches with
  | refl =>
      rcases Option.isSome_iff_exists.mp hDeclares with
        ⟨parameter, hOwn⟩
      rw [findInClass_of_declaration? registry hOwn]
      rfl
  | @step _ next _ hLink hOther hRest =>
      generalize registry.findInClass scope name = result at hRun
      cases hRun with
      | again hVisited _ =>
          exact absurd hVisited List.not_mem_nil
      | declared _ _ => rfl
      | visit _ _ hSearches =>
          apply hSearches.isSome_of_leads
          · intro d hd
            rw [List.nil_append] at hd
            exact (mem_added_iff.mp hd).1.holds
          · refine ⟨next, ?_, hRest.leads hOther hDeclares⟩
            rw [List.nil_append]
            exact mem_added_iff.mpr
              ⟨hLink, by simpa using hOther⟩

/- What is found is declared by the member or in the class. -/
theorem own_or_inClass_of_findVariable
    {scope : ClassScope}
    {member : Option MemberDecl}
    {parameter : TypeParameter}
    (hFound :
      registry.findVariable scope member name =
        some parameter) :
    (∃ m, member = some m ∧ parameter ∈ m.typeParameters) ∨
      registry.findInClass scope name = some parameter := by
  unfold findVariable at hFound
  cases member with
  | none => exact Or.inr hFound
  | some m =>
      simp only at hFound
      split at hFound
      · next own hOwn =>
          cases hFound
          exact Or.inl
            ⟨m, rfl, List.mem_of_find?_eq_some hOwn⟩
      · exact Or.inr hFound

end Registry

end DeclaredApi
