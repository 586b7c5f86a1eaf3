import DeclaredApi.Proofs.Resolution.Lists

/-
  Resolution of declared variables.

  Resolution fails at a variable only if the variable is not
  declared.  Erasure follows the bounds of what it looked up,
  so what is declared has to be closed under bounds; then all
  the variables that are met on the way are declared too.

  Main declarations:
    * `ResolveScope.Declared`
    * `ResolveScope.Closed`
    * `ResolveScope.Meets`
    * `ResolveScope.declared_of_meets`
    * `ResolveScope.avoids_erase`
    * `Resolution.avoids_resolve`
-/

------------------------------------------------------------
-- Declared Variables
------------------------------------------------------------

namespace DeclaredApi

/- The report of an undeclared variable. -/
def ResolveError.IsUndeclared (e : ResolveError) : Prop :=
  ∃ missing, e = .undeclared missing

namespace ResolveScope

/- A variable is declared in the class or member in scope. -/
def Declared
    (s : ResolveScope)
    (name : String) : Prop :=
  s.registry.declares s.scope s.member name = true

/- Bounds of declared variables mention declared variables. -/
def Closed (s : ResolveScope) : Prop :=
  ∀ name p,
    s.registry.findVariable s.scope s.member name = some p →
      ∀ v ∈ p.mentions, s.Declared v

/-
  A variable is met while a parameter is erased: the first
  bound of the parameter is built on it, or on a variable
  whose declaration meets it.
-/
inductive Meets
    (s : ResolveScope)
    (name : String) : TypeParameter → Prop
| tip
    {p : TypeParameter}
    (hTip :
      (DeclaredType.tipOfFirst p.bounds).1 =
        .variableName name) :
    Meets s name p
| next
    {p q : TypeParameter}
    {other : String}
    (hTip :
      (DeclaredType.tipOfFirst p.bounds).1 =
        .variableName other)
    (hFind :
      s.registry.findVariable s.scope s.member other = some q)
    (hMeets : Meets s name q) :
    Meets s name p

variable {s : ResolveScope}

/- A declared variable has a declaration. -/
theorem require_of_declared
    {name : String}
    (hDeclared : s.Declared name) :
    ∃ p,
      s.registry.findVariable s.scope s.member name = some p ∧
        s.require name = .ok p := by
  rcases Option.isSome_iff_exists.mp hDeclared with ⟨p, hFind⟩
  refine ⟨p, hFind, ?_⟩
  simp only [require, Registry.requireVariable, hFind]

/- The first bound of a parameter is built on its variables. -/
theorem mem_variables_of_tipOfFirst
    {p : TypeParameter}
    {name : String}
    (hTip :
      (DeclaredType.tipOfFirst p.bounds).1 =
        .variableName name) :
    name ∈ p.mentions := by
  rw [TypeParameter.mem_variables,
    ← DeclaredType.mem_mentionsAll]
  exact DeclaredType.mem_mentionsAll_of_tipOfFirst hTip

/- What is met from declared variables is declared. -/
theorem declared_of_meets
    {name : String}
    {p : TypeParameter}
    (hClosed : s.Closed)
    (hBounds : ∀ v ∈ p.mentions, s.Declared v)
    (hMeets : s.Meets name p) :
    s.Declared name := by
  induction hMeets with
  | tip hTip =>
      exact hBounds name (mem_variables_of_tipOfFirst hTip)
  | next _ hFind _ ih => exact ih (hClosed _ _ hFind)

end ResolveScope

end DeclaredApi

------------------------------------------------------------
-- Erasure
------------------------------------------------------------

namespace DeclaredApi

namespace ResolveScope

open ResolveError

variable {s : ResolveScope}

theorem avoids_ofBase
    (base : String)
    (arguments : List TypeRef) :
    Result.Avoids IsUndeclared (ofBase base arguments) := by
  unfold ofBase
  split
  · exact Result.avoids_ok _ _
  · apply Result.avoids_error
    rintro ⟨e, hError⟩
    cases hError

/-
  Each parameter on the chain mentions declared variables:
  the siblings do by assumption and any other is declared.
-/
theorem avoids_eraseFrom
    {siblings : List TypeParameter}
    {fuel : Nat}
    {seen : List String}
    {p : TypeParameter}
    (hClosed : s.Closed)
    (hSiblings :
      ∀ q ∈ siblings, ∀ v ∈ q.mentions, s.Declared v)
    (hBounds : ∀ v ∈ p.mentions, s.Declared v) :
    Result.Avoids IsUndeclared
      (eraseFrom s siblings fuel seen p) := by
  induction fuel generalizing seen p with
  | zero =>
      rw [eraseFrom]
      exact Result.avoids_ok _ _
  | succ fuel ih =>
      rcases p with ⟨name, bounds⟩
      unfold eraseFrom
      split
      · exact Result.avoids_ok _ _
      · cases hTip : DeclaredType.tipOfFirst bounds with
        | mk t layers =>
            cases t with
            | unbounded => exact Result.avoids_ok _ _
            | className base =>
                apply (avoids_ofBase base []).bind
                intro reference _
                exact Result.avoids_ok _ _
            | unsupported =>
                apply Result.avoids_error
                rintro ⟨e, hError⟩
                cases hError
            | variableName next =>
                simp only
                split
                · next q hSibling =>
                    have hMem :=
                      List.mem_of_find?_eq_some hSibling
                    apply (ih (hSiblings q hMem)).bind
                    intro reference _
                    exact Result.avoids_ok _ _
                · have hDeclared : s.Declared next := by
                    apply hBounds
                    apply mem_variables_of_tipOfFirst
                    rw [TypeParameter.bounds, hTip]
                  rcases require_of_declared hDeclared with
                    ⟨q, hFind, hRequire⟩
                  rw [hRequire]
                  apply (ih (hClosed next q hFind)).bind
                  intro reference _
                  exact Result.avoids_ok _ _

theorem avoids_erase
    {siblings : List TypeParameter}
    {p : TypeParameter}
    (hClosed : s.Closed)
    (hSiblings :
      ∀ q ∈ siblings, ∀ v ∈ q.mentions, s.Declared v)
    (hBounds : ∀ v ∈ p.mentions, s.Declared v) :
    Result.Avoids IsUndeclared (s.erase siblings p) :=
  avoids_eraseFrom hClosed hSiblings hBounds

theorem avoids_eraseAll
    {siblings ps : List TypeParameter}
    (hClosed : s.Closed)
    (hSiblings :
      ∀ q ∈ siblings, ∀ v ∈ q.mentions, s.Declared v)
    (hBounds : ∀ p ∈ ps, ∀ v ∈ p.mentions, s.Declared v) :
    Result.Avoids IsUndeclared (s.eraseAll siblings ps) := by
  induction ps with
  | nil => exact Result.avoids_ok _ _
  | cons p ps ih =>
      rw [eraseAll]
      apply (avoids_erase hClosed hSiblings
        (hBounds p List.mem_cons_self)).bind
      intro reference _
      apply (ih fun q hq =>
        hBounds q (List.mem_cons_of_mem p hq)).bind
      intro references _
      exact Result.avoids_ok _ _

end ResolveScope

end DeclaredApi

------------------------------------------------------------
-- Resolution
------------------------------------------------------------

namespace DeclaredApi

namespace Resolution

open ResolveError

variable {r : Resolution}

theorem avoids_keepResult
    {result : Except ResolveError TypeRef}
    (hResult : Result.Avoids IsUndeclared result) :
    Action.Avoids IsUndeclared (r.keepResult result) := by
  cases result with
  | ok reference => exact fun _ => Result.avoids_ok _ _
  | error e => exact Action.avoids_throw (hResult e rfl)

theorem avoids_variableRef
    {name : String}
    (hClosed : r.toScope.Closed)
    (hDeclared : r.toScope.Declared name) :
    Result.Avoids IsUndeclared (r.variableRef name) := by
  rcases ResolveScope.require_of_declared hDeclared with
    ⟨p, hFind, hRequire⟩
  have hFound :
      Result.Avoids IsUndeclared (r.toScope.require name) := by
    rw [hRequire]
    exact Result.avoids_ok _ _
  unfold variableRef
  apply hFound.bind
  intro q hq
  rw [hRequire] at hq
  injection hq with hq
  subst hq
  split
  · exact ResolveScope.avoids_erase hClosed
      (fun q hq => absurd hq List.not_mem_nil)
      (hClosed name p hFind)
  · exact ResolveScope.avoids_ofBase name []

theorem avoids_namedRef
    {parameters : List TypeParameter}
    (name : String)
    (dimensions : Nat)
    (hClosed : r.toScope.Closed)
    (hBounds :
      ∀ p ∈ parameters,
        ∀ v ∈ p.mentions, r.toScope.Declared v) :
    Result.Avoids IsUndeclared
      (r.namedRef name dimensions parameters) := by
  unfold namedRef
  split
  · apply (ResolveScope.avoids_eraseAll hClosed hBounds
      hBounds).bind
    intro arguments _
    exact ResolveScope.avoids_ofBase _ arguments
  · apply (Result.avoids_ok _ []).bind
    intro arguments _
    exact ResolveScope.avoids_ofBase _ arguments

/- A bound has no other error if its type has none. -/
theorem avoids_resolveBound
    {t : DeclaredType}
    (hType : Action.Avoids IsUndeclared (r.resolve t)) :
    Action.Avoids IsUndeclared (r.resolveBound t) := by
  rw [resolveBound]
  apply hType.bind
  intro bound
  split
  · apply Action.avoids_throw
    rintro ⟨e, hError⟩
    cases hError
  · exact Action.avoids_pure _ _

/- The variables of each type of a list are declared. -/
theorem declared_of_mentionsAll
    {ts : List DeclaredType}
    {t : DeclaredType}
    (hDeclared :
      ∀ v ∈ DeclaredType.mentionsAll ts, r.toScope.Declared v)
    (hMem : t ∈ ts) :
    ∀ v ∈ t.mentions, r.toScope.Declared v := by
  intro v hv
  apply hDeclared
  exact DeclaredType.mem_mentionsAll.mpr ⟨t, hMem, hv⟩

/- A type all of whose variables are declared has no other. -/
theorem avoids_resolve
    {t : DeclaredType}
    (hClosed : r.toScope.Closed)
    (hDeclared : ∀ v ∈ t.mentions, r.toScope.Declared v) :
    Action.Avoids IsUndeclared (r.resolve t) := by
  have hList := Action.compositional_avoids (σ := Interner)
    IsUndeclared
  induction t using DeclaredType.inductionOnRead with
  | named name dimensions parameters =>
      rw [resolve]
      apply avoids_keepResult
      apply avoids_namedRef name dimensions hClosed
      intro p hp v hv
      apply hDeclared
      rw [DeclaredType.mentions]
      exact TypeParameter.mem_mentionsAll.mpr ⟨p, hp, hv⟩
  | applied name dimensions parameters arguments ih =>
      rw [DeclaredType.mentions, List.forall_mem_append]
        at hDeclared
      rw [resolve, resolveAll_eq_mapM]
      apply Action.Avoids.bind
      · apply hList.ofMapM
        intro t ht
        exact ih t ht (declared_of_mentionsAll hDeclared.2 ht)
      · intro references
        exact avoids_keepResult (ResolveScope.avoids_ofBase _ _)
  | arrayOf component ih =>
      rw [resolve]
      rw [DeclaredType.mentions] at hDeclared
      apply (ih hDeclared).bind
      intro reference
      split
      · apply Action.avoids_throw
        rintro ⟨e, hError⟩
        cases hError
      · exact fun _ => Result.avoids_ok _ _
  | unbounded =>
      rw [resolve]
      exact fun _ => Result.avoids_ok _ _
  | bounded hReads ih =>
      rw [resolve_wildcard r hReads]
      apply Action.Avoids.bind
      · apply hList.ofMapM
        intro u hu
        apply avoids_resolveBound
        apply ih u hu
        intro v hv
        apply hDeclared
        exact hReads.mentions_subset
          (DeclaredType.mem_mentionsAll.mpr ⟨u, hu, hv⟩)
      · intro bounds
        exact fun _ => Result.avoids_ok _ _
  | typeVariable name =>
      rw [resolve]
      apply avoids_keepResult
      apply avoids_variableRef hClosed
      apply hDeclared
      rw [DeclaredType.mentions]
      exact List.mem_singleton_self name
  | unsupported =>
      rw [resolve]
      apply Action.avoids_throw
      rintro ⟨e, hError⟩
      cases hError

end Resolution

end DeclaredApi
