import Mathlib.Data.List.Perm.Subperm
import DeclaredApi.Proofs.Resolution.Reference
import DeclaredApi.Proofs.Scope.Reachability

/-
  Erasure without a bound on the length of chains.

  An erasure follows first bounds from parameter to parameter
  until it meets a class, a parameter without bounds, or a
  name that is already on the chain.  A name is on the chain
  once at most and is declared in scope, so the bound on the
  length of chains is never reached.

  Main declarations:
    * `ResolveScope.ErasesTo`
    * `ResolveScope.eraseFrom_succ_eq_ok_iff`
    * `ResolveScope.erase_eq_ok_iff`
    * `Resolution.erasedVariable_eq_ok_iff`
-/

------------------------------------------------------------
-- Chains of First Bounds
------------------------------------------------------------

namespace DeclaredApi

namespace ResolveScope

/-
  What a variable on a chain stands for: a sibling of the
  parameter that the chain starts from, or what is in scope.
-/
def declaration?
    (s : ResolveScope)
    (siblings : List TypeParameter)
    (name : String) : Option TypeParameter :=
  match siblings.find? (fun p => p.name = name) with
  | some parameter => some parameter
  | none => s.registry.findVariable s.scope s.member name

/- What a variable stands for is a sibling or in scope. -/
theorem mem_or_findVariable
    {s : ResolveScope}
    {siblings : List TypeParameter}
    {name : String}
    {q : TypeParameter}
    (hFound : s.declaration? siblings name = some q) :
    q ∈ siblings ∨
      s.registry.findVariable s.scope s.member name =
        some q := by
  unfold declaration? at hFound
  split at hFound
  · next p hSibling =>
      cases hFound
      exact Or.inl (List.mem_of_find?_eq_some hSibling)
  · exact Or.inr hFound

/-
  What the chain of first bounds from a parameter erases to,
  with the names that are on the chain before it.
-/
inductive ErasesTo
    (s : ResolveScope)
    (siblings : List TypeParameter) :
    List String → TypeParameter → TypeRef → Prop
| again
    {seen : List String}
    {p : TypeParameter}
    (hSeen : p.name ∈ seen) :
    ErasesTo s siblings seen p (.named s.root)
| unbounded
    {seen : List String}
    {p : TypeParameter}
    {layers : Nat}
    (hNew : p.name ∉ seen)
    (hTip :
      DeclaredType.tipOfFirst p.bounds =
        (.unbounded, layers)) :
    ErasesTo s siblings seen p
      ((TypeRef.named s.root).addDimensions layers)
| className
    {seen : List String}
    {p : TypeParameter}
    {base : String}
    {layers : Nat}
    {r : TypeRef}
    (hNew : p.name ∉ seen)
    (hTip :
      DeclaredType.tipOfFirst p.bounds =
        (.className base, layers))
    (hBase : ofBase base [] = .ok r) :
    ErasesTo s siblings seen p (r.addDimensions layers)
| variableName
    {seen : List String}
    {p q : TypeParameter}
    {next : String}
    {layers : Nat}
    {r : TypeRef}
    (hNew : p.name ∉ seen)
    (hTip :
      DeclaredType.tipOfFirst p.bounds =
        (.variableName next, layers))
    (hFound : s.declaration? siblings next = some q)
    (hNext : ErasesTo s siblings (p.name :: seen) q r) :
    ErasesTo s siblings seen p (r.addDimensions layers)

end ResolveScope

end DeclaredApi

------------------------------------------------------------
-- Names on Chains
------------------------------------------------------------

namespace DeclaredApi

namespace ClassScope

/- The names of the variables of a class. -/
def parameterNames (scope : ClassScope) : List String :=
  scope.parameters.map (fun entry => entry.2.name)

/- What a class declares is one of its variables. -/
theorem mem_parameterNames
    {scope : ClassScope}
    {name : String}
    {p : TypeParameter}
    (hDeclares : scope.declaration? name = some p) :
    p.name ∈ scope.parameterNames := by
  rcases List.lookup_eq_some_iff.mp hDeclares with
    ⟨before, after, hEntries, _⟩
  refine List.mem_map.mpr ⟨(name, p), ?_, rfl⟩
  rw [hEntries]
  exact List.mem_append_right _ List.mem_cons_self

end ClassScope

namespace Registry

theorem length_parameterNames
    (registry : Registry) :
    (registry.flatMap ClassScope.parameterNames).length =
      registry.variableCount := by
  induction registry with
  | nil => rfl
  | cons scope rest ih =>
      rw [List.flatMap_cons, List.length_append, ih,
        variableCount, ClassScope.parameterNames,
        List.length_map]

/- A chain of links ends where it starts or in the registry. -/
theorem Reaches.eq_or_mem
    {registry : Registry}
    {c last : ClassScope}
    (hReaches : registry.Reaches c last) :
    last = c ∨ last ∈ registry := by
  cases hReaches with
  | refl => exact Or.inl rfl
  | step hLink hRest =>
      exact Or.inr (hRest.holds hLink.holds).mem

end Registry

namespace ResolveScope

variable {s : ResolveScope}
variable {siblings : List TypeParameter}

/- The names that a chain of first bounds can pass. -/
def parameterNames
    (s : ResolveScope)
    (siblings : List TypeParameter) : List String :=
  siblings.map TypeParameter.name ++
    MemberDecl.declaredNames s.member ++
    s.scope.parameterNames ++
    s.registry.flatMap ClassScope.parameterNames

theorem length_parameterNames
    (s : ResolveScope)
    (siblings : List TypeParameter) :
    (s.parameterNames siblings).length + 2 =
      s.chainBound siblings := by
  unfold parameterNames chainBound
  simp only [List.length_append, List.length_map,
    Registry.length_parameterNames, ClassScope.parameterNames]
  cases s.member with
  | none => rfl
  | some m => simp only [MemberDecl.declaredNames, List.length_map]

/- What a variable stands for is one of those in scope. -/
theorem mem_parameterNames
    {name : String}
    {p : TypeParameter}
    (hFound : s.declaration? siblings name = some p) :
    p.name ∈ s.parameterNames siblings := by
  unfold parameterNames
  simp only [List.mem_append]
  rcases mem_or_findVariable hFound with hSibling | hScope
  · refine Or.inl (Or.inl (Or.inl ?_))
    exact List.mem_map_of_mem hSibling
  · rcases Registry.own_or_inClass_of_findVariable hScope with
      ⟨m, hMember, hOwn⟩ | hInClass
    · refine Or.inl (Or.inl (Or.inr ?_))
      rw [hMember]
      exact List.mem_map_of_mem hOwn
    · rcases Registry.reaches_of_findInClass hInClass with
        ⟨last, hReaches, hDeclares⟩
      have hName := ClassScope.mem_parameterNames hDeclares
      rcases hReaches.eq_or_mem with rfl | hMem
      · exact Or.inl (Or.inr hName)
      · exact Or.inr
          (List.mem_flatMap.mpr ⟨last, hMem, hName⟩)

end ResolveScope

end DeclaredApi

------------------------------------------------------------
-- Steps of Erasures
------------------------------------------------------------

namespace DeclaredApi

namespace ResolveScope

variable {s : ResolveScope}
variable {siblings : List TypeParameter}

/-
  What a successful step makes of the tip of a first bound,
  where `follow` erases what a variable stands for.
-/
def StepsTo
    (s : ResolveScope)
    (siblings : List TypeParameter)
    (follow : TypeParameter → Except ResolveError TypeRef)
    (r : TypeRef) : DeclaredType.Tip × Nat → Prop
| (.unbounded, layers) =>
    r = (TypeRef.named s.root).addDimensions layers
| (.className base, layers) =>
    ∃ reference,
      ofBase base [] = .ok reference ∧
        r = reference.addDimensions layers
| (.variableName next, layers) =>
    ∃ q reference,
      s.declaration? siblings next = some q ∧
        follow q = .ok reference ∧
          r = reference.addDimensions layers
| (.unsupported, _) => False

/- Layers are added to what a step erases to. -/
theorem bind_addDimensions_eq_ok_iff
    {x : Except ResolveError TypeRef}
    {layers : Nat}
    {r : TypeRef} :
    (do
      let reference ← x
      pure (reference.addDimensions layers)) =
        Except.ok r ↔
      ∃ reference,
        x = .ok reference ∧
          r = reference.addDimensions layers := by
  rw [Result.bind_eq_ok_iff]
  simp only [pure, Except.pure, Except.ok.injEq, eq_comm]

/- A variable on the chain is looked up as it is declared. -/
theorem bind_declaration_eq_ok_iff
    {name : String}
    {f : TypeParameter → Except ResolveError TypeRef}
    {r : TypeRef} :
    (match siblings.find? (fun p => p.name = name) with
      | some parameter => Except.ok parameter >>= f
      | none => s.require name >>= f) =
        .ok r ↔
      ∃ q, s.declaration? siblings name = some q ∧
        f q = .ok r := by
  unfold declaration?
  cases siblings.find? (fun p => p.name = name) with
  | some parameter => simp [Result.bind_eq_ok_iff]
  | none =>
      simp only [require, Registry.requireVariable]
      cases s.registry.findVariable s.scope s.member name with
      | some parameter => simp [Result.bind_eq_ok_iff]
      | none => simp [Result.bind_eq_ok_iff]

/- A step ends at a name on the chain, or takes the bound. -/
theorem eraseFrom_succ_eq_ok_iff
    {fuel : Nat}
    {seen : List String}
    {p : TypeParameter}
    {r : TypeRef} :
    eraseFrom s siblings (fuel + 1) seen p = .ok r ↔
      p.name ∈ seen ∧ r = .named s.root ∨
        p.name ∉ seen ∧
          StepsTo s siblings
            (eraseFrom s siblings fuel (p.name :: seen))
            r (DeclaredType.tipOfFirst p.bounds) := by
  rcases p with ⟨name, bounds⟩
  unfold eraseFrom
  simp only [TypeParameter.name, TypeParameter.bounds]
  by_cases hSeen : name ∈ seen
  · simp [hSeen, eq_comm]
  · have hNew : ¬ seen.contains name = true := by
      simpa using hSeen
    rw [if_neg hNew]
    simp only [hSeen, false_and, not_false_eq_true, true_and,
      false_or]
    rcases DeclaredType.tipOfFirst bounds with ⟨t, layers⟩
    cases t with
    | unbounded => simp [StepsTo, eq_comm]
    | unsupported => simp [StepsTo]
    | className base => exact bind_addDimensions_eq_ok_iff
    | variableName next =>
        refine bind_declaration_eq_ok_iff.trans ?_
        simp only [bind_addDimensions_eq_ok_iff, StepsTo,
          exists_and_left]

end ResolveScope

end DeclaredApi

------------------------------------------------------------
-- Lengths of Chains
------------------------------------------------------------

namespace DeclaredApi

namespace ResolveScope

variable {s : ResolveScope}
variable {siblings : List TypeParameter}
variable {names : List String}

/-
  The names on a chain are different ones of some names, and
  there is fuel for the rest of these names and one more.
-/
structure Covers
    (names seen : List String)
    (fuel : Nat)
    (p : TypeParameter) : Prop where
  nodup : seen.Nodup
  subset : seen ⊆ names
  mem : p.name ∈ names
  enough : names.length < seen.length + fuel

/- There are no more names on a chain than there are names. -/
theorem Covers.pos
    {seen : List String}
    {fuel : Nat}
    {p : TypeParameter}
    (hCovers : Covers names seen fuel p) :
    0 < fuel := by
  have hLength := (hCovers.nodup.subperm hCovers.subset).length_le
  have hEnough := hCovers.enough
  omega

/- A new name on the chain takes one unit of fuel. -/
theorem Covers.next
    {seen : List String}
    {fuel : Nat}
    {p q : TypeParameter}
    (hCovers : Covers names seen (fuel + 1) p)
    (hNew : p.name ∉ seen)
    (hNext : q.name ∈ names) :
    Covers names (p.name :: seen) fuel q where
  nodup := List.nodup_cons.mpr ⟨hNew, hCovers.nodup⟩
  subset := List.cons_subset.mpr ⟨hCovers.mem, hCovers.subset⟩
  mem := hNext
  enough := by
    have hEnough := hCovers.enough
    rw [List.length_cons]
    omega

/- An erasure that succeeds has followed a chain. -/
theorem erasesTo_of_eraseFrom
    {fuel : Nat}
    {seen : List String}
    {p : TypeParameter}
    {r : TypeRef}
    (hNames : s.parameterNames siblings ⊆ names)
    (hCovers : Covers names seen fuel p)
    (hOk : eraseFrom s siblings fuel seen p = .ok r) :
    ErasesTo s siblings seen p r := by
  induction fuel generalizing seen p r with
  | zero => exact absurd hCovers.pos (Nat.lt_irrefl 0)
  | succ fuel ih =>
      rcases eraseFrom_succ_eq_ok_iff.mp hOk with
        ⟨hSeen, rfl⟩ | ⟨hNew, hStep⟩
      · exact .again hSeen
      · rcases hTip : DeclaredType.tipOfFirst p.bounds with
          ⟨t, layers⟩
        rw [hTip] at hStep
        cases t with
        | unbounded =>
            cases hStep
            exact .unbounded hNew hTip
        | unsupported => cases hStep
        | className base =>
            rcases hStep with ⟨reference, hBase, rfl⟩
            exact .className hNew hTip hBase
        | variableName next =>
            rcases hStep with
              ⟨q, reference, hFound, hNext, rfl⟩
            have hMem := hNames (mem_parameterNames hFound)
            exact .variableName hNew hTip hFound
              (ih (hCovers.next hNew hMem) hNext)

/- A chain can be followed where there is fuel for it. -/
theorem eraseFrom_of_erasesTo
    {fuel : Nat}
    {seen : List String}
    {p : TypeParameter}
    {r : TypeRef}
    (hNames : s.parameterNames siblings ⊆ names)
    (hCovers : Covers names seen fuel p)
    (hErases : ErasesTo s siblings seen p r) :
    eraseFrom s siblings fuel seen p = .ok r := by
  induction hErases generalizing fuel with
  | again hSeen =>
      rcases Nat.exists_eq_add_one.mpr hCovers.pos with
        ⟨fuel, rfl⟩
      exact eraseFrom_succ_eq_ok_iff.mpr (.inl ⟨hSeen, rfl⟩)
  | unbounded hNew hTip =>
      rcases Nat.exists_eq_add_one.mpr hCovers.pos with
        ⟨fuel, rfl⟩
      refine eraseFrom_succ_eq_ok_iff.mpr (.inr ⟨hNew, ?_⟩)
      rw [hTip]
      exact rfl
  | className hNew hTip hBase =>
      rcases Nat.exists_eq_add_one.mpr hCovers.pos with
        ⟨fuel, rfl⟩
      refine eraseFrom_succ_eq_ok_iff.mpr (.inr ⟨hNew, ?_⟩)
      rw [hTip]
      exact ⟨_, hBase, rfl⟩
  | variableName hNew hTip hFound _ ih =>
      rcases Nat.exists_eq_add_one.mpr hCovers.pos with
        ⟨fuel, rfl⟩
      have hMem := hNames (mem_parameterNames hFound)
      have hRest := ih (hCovers.next hNew hMem)
      refine eraseFrom_succ_eq_ok_iff.mpr (.inr ⟨hNew, ?_⟩)
      rw [hTip]
      exact ⟨_, _, hFound, hRest, rfl⟩

/- There is fuel for every chain from a parameter. -/
theorem covers_chainBound
    (p : TypeParameter) :
    Covers (p.name :: s.parameterNames siblings) []
      (s.chainBound siblings) p where
  nodup := List.nodup_nil
  subset := List.nil_subset _
  mem := List.mem_cons_self
  enough := by
    have hBound := s.length_parameterNames siblings
    simp only [List.length_cons, List.length_nil]
    omega

/- The erasure of a parameter follows its whole chain. -/
theorem erase_eq_ok_iff
    {p : TypeParameter}
    {r : TypeRef} :
    s.erase siblings p = .ok r ↔
      ErasesTo s siblings [] p r := by
  have hNames :
      s.parameterNames siblings ⊆
        p.name :: s.parameterNames siblings :=
    List.subset_cons_self _ _
  exact ⟨erasesTo_of_eraseFrom hNames (covers_chainBound p),
    eraseFrom_of_erasesTo hNames (covers_chainBound p)⟩

end ResolveScope

end DeclaredApi

------------------------------------------------------------
-- Erased Variables
------------------------------------------------------------

namespace DeclaredApi

namespace Resolution

/- A variable erases as the parameter that it stands for. -/
theorem erasedVariable_eq_ok_iff
    {r : Resolution}
    {name : String}
    {reference : TypeRef}
    (hErases : r.erases = true) :
    r.reference (.typeVariable name) = .ok reference ↔
      ∃ p,
        r.registry.findVariable r.scope r.member name = some p ∧
          r.toScope.ErasesTo [] [] p reference := by
  rw [Resolution.reference, variableRef,
    Result.bind_eq_ok_iff]
  simp only [hErases, if_true, ResolveScope.erase_eq_ok_iff,
    ResolveScope.require, Registry.requireVariable, toScope]
  cases r.registry.findVariable r.scope r.member name with
  | none => simp
  | some p => simp

end Resolution

end DeclaredApi
