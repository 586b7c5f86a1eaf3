import DeclaredApi.Analysis
import DeclaredApi.Proofs.Scope.Reachability

/-
  Registration of classes.

  The scope of a class declares the names of its type
  parameters.  When classes with different names are
  registered in an empty registry, in any order, each of
  them is looked up by its name.

  Main declarations:
    * `ClassScope.declaration?_ofDecl`
    * `ClassScope.declaration?_ofDecl_isSome_iff`
    * `ClassScope.mem_of_declaration?_ofDecl`
    * `Registry.Registers`
    * `Session.registers_registerAll`
-/

------------------------------------------------------------
-- Scopes of Declarations
------------------------------------------------------------

namespace DeclaredApi

namespace ClassScope

/- Setting a variable changes what its own name declares. -/
theorem lookup_setVariable
    (p : TypeParameter)
    (name : String)
    (table : List (String × TypeParameter)) :
    (setVariable p table).lookup name =
      if name = p.name then
        some p
      else
        table.lookup name := by
  induction table with
  | nil =>
      simp only [setVariable, List.lookup_cons, List.lookup_nil]
      by_cases hName : name = p.name
      · simp [hName]
      · rw [if_neg hName, beq_eq_false_iff_ne.mpr hName]
  | cons entry rest ih =>
      rcases entry with ⟨other, q⟩
      unfold setVariable
      by_cases hOther : other = p.name
      · rw [if_pos hOther, List.lookup_cons, List.lookup_cons,
          hOther]
        by_cases hName : name = p.name
        · simp [hName]
        · rw [if_neg hName, beq_eq_false_iff_ne.mpr hName]
      · rw [if_neg hOther, List.lookup_cons, List.lookup_cons,
          ih]
        by_cases hName : name = p.name
        · have hNe : (p.name == other) = false := by
            simpa using Ne.symm hOther
          simp [hName, hNe]
        · simp [hName]

/- The last parameter of a name is set, over those before. -/
theorem lookup_setVariables
    (ps : List TypeParameter)
    (name : String)
    (table : List (String × TypeParameter)) :
    (ps.foldl (fun acc p => setVariable p acc)
        table).lookup name =
      (ps.reverse.find? (fun p => p.name = name)).or
        (table.lookup name) := by
  induction ps generalizing table with
  | nil => rfl
  | cons p ps ih =>
      rw [List.foldl_cons, ih, lookup_setVariable,
        List.reverse_cons, List.find?_append, Option.or_assoc]
      by_cases hName : name = p.name
      · simp [hName]
      · simp [hName, Ne.symm hName]

/- A class declares its last parameter of each name. -/
theorem declaration?_ofDecl
    (c : ClassDecl)
    (name : String) :
    (ofDecl c).declaration? name =
      c.typeParameters.reverse.find?
        (fun p => p.name = name) := by
  rw [declaration?, ofDecl, lookup_setVariables, List.lookup_nil,
    Option.or_none]

/- A class declares the names of its type parameters. -/
theorem declaration?_ofDecl_isSome_iff
    (c : ClassDecl)
    (name : String) :
    ((ofDecl c).declaration? name).isSome = true ↔
      name ∈ c.typeParameters.map TypeParameter.name := by
  simp [declaration?_ofDecl, List.find?_isSome]

/- What a class declares is one of its type parameters. -/
theorem mem_of_declaration?_ofDecl
    {c : ClassDecl}
    {name : String}
    {p : TypeParameter}
    (hDeclares : (ofDecl c).declaration? name = some p) :
    p ∈ c.typeParameters := by
  rw [declaration?_ofDecl] at hDeclares
  exact List.mem_reverse.mp (List.mem_of_find?_eq_some hDeclares)

/- What a class declares under a name has that name. -/
theorem name_of_declaration?_ofDecl
    {c : ClassDecl}
    {name : String}
    {p : TypeParameter}
    (hDeclares : (ofDecl c).declaration? name = some p) :
    p.name = name := by
  rw [declaration?_ofDecl] at hDeclares
  simpa using List.find?_some hDeclares

end ClassScope

end DeclaredApi

------------------------------------------------------------
-- Registries of Classes
------------------------------------------------------------

namespace DeclaredApi

namespace Registry

/-
  Every class of a list is looked up by its name, and there
  is nothing else to be looked up.
-/
structure Registers
    (registry : Registry)
    (classes : List ClassDecl) : Prop where
  lookup_eq :
    ∀ c ∈ classes,
      registry.lookup c.name = some (ClassScope.ofDecl c)
  exists_of_lookup :
    ∀ name scope,
      registry.lookup name = some scope →
        ∃ c ∈ classes, scope = ClassScope.ofDecl c

/- Classes of different names are told apart by them. -/
theorem lookup_map_ofDecl
    {classes : List ClassDecl}
    {c : ClassDecl}
    (hNames : (classes.map ClassDecl.name).Nodup)
    (hMem : c ∈ classes) :
    lookup (classes.map ClassScope.ofDecl) c.name =
      some (ClassScope.ofDecl c) := by
  induction classes with
  | nil => exact absurd hMem List.not_mem_nil
  | cons d classes ih =>
      rw [List.map_cons, List.nodup_cons] at hNames
      rw [List.map_cons, lookup, List.find?_cons]
      rcases List.mem_cons.mp hMem with rfl | hRest
      · simp [ClassScope.ofDecl]
      · have hName : d.name ≠ c.name := by
          intro hEq
          exact hNames.1 (hEq ▸ List.mem_map_of_mem hRest)
        have hSkip :
            decide ((ClassScope.ofDecl d).name = c.name) =
              false :=
          decide_eq_false hName
        rw [hSkip]
        exact ih hNames.2 hRest

/- A class with a new name is put behind the others. -/
theorem register_of_lookup_eq_none
    {registry : Registry}
    {c : ClassDecl}
    (hNew : registry.lookup c.name = none) :
    registry.register c =
      (ClassScope.ofDecl c,
        registry ++ [ClassScope.ofDecl c]) := by
  simp only [register, hNew]

/- A class that is registered is left as it is. -/
theorem register_of_lookup_eq_some
    {registry : Registry}
    {c : ClassDecl}
    {scope : ClassScope}
    (hLookup : registry.lookup c.name = some scope) :
    registry.register c = (scope, registry) := by
  simp only [register, hLookup]

end Registry

namespace Session

/- Classes with new and different names are all appended. -/
theorem registry_registerAll
    {classes : List ClassDecl}
    {s : Session}
    (before : List ClassDecl)
    (hBefore : s.registry = before.map ClassScope.ofDecl)
    (hNames :
      ((before ++ classes).map ClassDecl.name).Nodup) :
    (registerAll classes s).2 =
      { s with
        registry :=
          (before ++ classes).map ClassScope.ofDecl } := by
  induction classes generalizing before s with
  | nil =>
      rw [List.append_nil, ← hBefore]
      rfl
  | cons c classes ih =>
      have hNew : s.registry.lookup c.name = none := by
        rw [hBefore, Registry.lookup, List.find?_eq_none]
        intro scope hScope
        rcases List.mem_map.mp hScope with ⟨d, hd, rfl⟩
        rw [List.map_append, List.nodup_append] at hNames
        have hNe :=
          hNames.2.2 d.name (List.mem_map_of_mem hd) c.name
            (List.mem_map_of_mem List.mem_cons_self)
        exact fun hEq => hNe (of_decide_eq_true hEq)
      have hStep :
          register c s =
            (ClassScope.ofDecl c,
              { s with
                registry :=
                  (before ++ [c]).map ClassScope.ofDecl }) := by
        rw [register, Registry.register_of_lookup_eq_none hNew,
          hBefore, List.map_append]
        rfl
      have hRest :=
        ih (s := (register c s).2) (before ++ [c])
          (by rw [hStep])
          (by simpa using hNames)
      have hRun :
          (registerAll (c :: classes) s).2 =
            (registerAll classes (register c s).2).2 := rfl
      rw [hRun, hRest, hStep]
      simp

/-
  In an empty registry, classes of different names are all
  registered, in whatever order they come.
-/
theorem registers_registerAll
    {classes order : List ClassDecl}
    {s : Session}
    (hEmpty : s.registry = [])
    (hNames : (classes.map ClassDecl.name).Nodup)
    (hOrder : order.Perm classes) :
    (registerAll order s).2.registry.Registers classes := by
  have hOrderNames : (order.map ClassDecl.name).Nodup :=
    (hOrder.map ClassDecl.name).nodup_iff.mpr hNames
  have hRegistry :=
    registry_registerAll (s := s) [] (by simpa using hEmpty)
      (by simpa using hOrderNames)
  rw [hRegistry, List.nil_append]
  constructor
  · intro c hc
    exact Registry.lookup_map_ofDecl hOrderNames
      (hOrder.mem_iff.mpr hc)
  · intro name scope hLookup
    have hMem := List.mem_of_find?_eq_some hLookup
    rcases List.mem_map.mp hMem with ⟨c, hc, rfl⟩
    exact ⟨c, hOrder.mem_iff.mp hc, rfl⟩

end Session

end DeclaredApi
