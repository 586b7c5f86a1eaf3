import DeclaredApi.Proofs.Resolution.Erasure
import DeclaredApi.Proofs.Scope.Parts

/-
  Resolution in larger registries.

  What a declared type resolves to, and why it does not, is
  decided by the variables that are found in scope.  So a
  type resolves alike in two registries in which its class
  finds the same variables, as it does in a registry and one
  that this registry is part of.

  Main declarations:
    * `ResolveScope.eraseFrom_congr`
    * `Resolution.reference_congr`
    * `Resolution.reference_eq_of_partOf`
-/

------------------------------------------------------------
-- Erasures
------------------------------------------------------------

namespace DeclaredApi

namespace ResolveScope

variable {s : ResolveScope}
variable {registry : Registry}
variable {siblings : List TypeParameter}

/- The class finds the same variables in another registry. -/
def FindsAlike
    (s : ResolveScope)
    (registry : Registry) : Prop :=
  ∀ name,
    registry.findVariable s.scope s.member name =
      s.registry.findVariable s.scope s.member name

theorem FindsAlike.require_eq
    (hAlike : s.FindsAlike registry)
    (name : String) :
    require { s with registry := registry } name =
      s.require name := by
  simp only [require, Registry.requireVariable, hAlike name]

theorem FindsAlike.declaration?_eq
    (hAlike : s.FindsAlike registry)
    (name : String) :
    declaration? { s with registry := registry } siblings name =
      s.declaration? siblings name := by
  simp only [declaration?, hAlike name]

/- What must be visible is declared if nothing hides it. -/
theorem declaration?_of_require
    {name : String}
    {p : TypeParameter}
    (hNone :
      siblings.find? (fun q => q.name = name) = none)
    (hOk : s.require name = .ok p) :
    s.declaration? siblings name = some p := by
  unfold require Registry.requireVariable at hOk
  unfold declaration?
  rw [hNone]
  cases hFind :
      s.registry.findVariable s.scope s.member name with
  | none =>
      rw [hFind] at hOk
      cases hOk
  | some q =>
      rw [hFind] at hOk
      cases hOk
      rfl

/-
  A chain of first bounds is followed alike where there is
  fuel for it in both registries.
-/
theorem eraseFrom_congr
    {names names' : List String}
    {fuel fuel' : Nat}
    {seen : List String}
    {p : TypeParameter}
    (hAlike : s.FindsAlike registry)
    (hNames : s.parameterNames siblings ⊆ names)
    (hNames' :
      parameterNames { s with registry := registry } siblings ⊆
        names')
    (hCovers : Covers names seen fuel p)
    (hCovers' : Covers names' seen fuel' p) :
    eraseFrom { s with registry := registry } siblings fuel'
        seen p =
      eraseFrom s siblings fuel seen p := by
  induction fuel generalizing fuel' seen p with
  | zero => exact absurd hCovers.pos (Nat.lt_irrefl 0)
  | succ fuel ih =>
      rcases Nat.exists_eq_add_one.mpr hCovers'.pos with
        ⟨fuel', rfl⟩
      rcases p with ⟨name, bounds⟩
      unfold eraseFrom
      by_cases hSeen : seen.contains name = true
      · rw [if_pos hSeen, if_pos hSeen]
      · rw [if_neg hSeen, if_neg hSeen]
        have hNew : name ∉ seen := by simpa using hSeen
        rcases DeclaredType.tipOfFirst bounds with ⟨t, layers⟩
        cases t with
        | unbounded => rfl
        | className base => rfl
        | unsupported => rfl
        | variableName next =>
            have hNext :
                ∀ q,
                  s.declaration? siblings next = some q →
                    (do
                      let r ←
                        eraseFrom { s with registry := registry }
                          siblings fuel' (name :: seen) q
                      pure (r.addDimensions layers)) =
                      (do
                        let r ←
                          eraseFrom s siblings fuel
                            (name :: seen) q
                        pure (r.addDimensions layers)) := by
              intro q hFound
              have hMem := hNames (mem_parameterNames hFound)
              have hMem' :=
                hNames' (mem_parameterNames
                  ((hAlike.declaration?_eq next).trans hFound))
              have hRest :=
                ih (hCovers.next hNew hMem)
                  (hCovers'.next hNew hMem')
              simp only [TypeParameter.name] at hRest
              rw [hRest]
            simp only
            cases hSibling :
                siblings.find? (fun q => q.name = next) with
            | some q =>
                have hFound :
                    s.declaration? siblings next = some q := by
                  rw [declaration?, hSibling]
                exact hNext q hFound
            | none =>
                rw [hAlike.require_eq]
                cases hRequire : s.require next with
                | error e => rfl
                | ok q =>
                    exact hNext q
                      (declaration?_of_require hSibling hRequire)

theorem erase_congr
    (hAlike : s.FindsAlike registry)
    (siblings : List TypeParameter)
    (p : TypeParameter) :
    erase { s with registry := registry } siblings p =
      s.erase siblings p :=
  eraseFrom_congr hAlike (List.subset_cons_self _ _)
    (List.subset_cons_self _ _) (covers_chainBound p)
    (covers_chainBound p)

theorem eraseAll_congr
    (hAlike : s.FindsAlike registry)
    (siblings ps : List TypeParameter) :
    eraseAll { s with registry := registry } siblings ps =
      s.eraseAll siblings ps := by
  rw [eraseAll_eq_mapM, eraseAll_eq_mapM]
  apply Result.mapM_congr
  exact fun p _ => erase_congr hAlike siblings p

end ResolveScope

end DeclaredApi

------------------------------------------------------------
-- References
------------------------------------------------------------

namespace DeclaredApi

namespace Resolution

variable {r other : Resolution}

/-
  A reference is made of the references of names and
  variables.
-/
theorem reference_congr
    (hRoot : other.config.rootObject = r.config.rootObject)
    (hNamed :
      ∀ name dimensions parameters,
        other.namedRef name dimensions parameters =
          r.namedRef name dimensions parameters)
    (hVariable :
      ∀ name, other.variableRef name = r.variableRef name)
    (t : DeclaredType) :
    other.reference t = r.reference t := by
  induction t using DeclaredType.inductionOnRead with
  | named name dimensions parameters =>
      exact hNamed name dimensions parameters
  | applied name dimensions parameters arguments ih =>
      rw [reference, reference, referenceAll_eq_mapM,
        referenceAll_eq_mapM, Result.mapM_congr ih]
  | arrayOf component ih => rw [reference, reference, ih]
  | unbounded => rw [reference, reference, hRoot]
  | bounded hReads ih =>
      rw [reference_wildcard hReads, reference_wildcard hReads]
      apply congrArg (· >>= _)
      apply Result.mapM_congr
      intro u hu
      rw [boundReference, boundReference, ih u hu]
  | typeVariable name => exact hVariable name
  | unsupported => rfl

/- A type resolves alike where its class finds variables alike. -/
theorem reference_eq_of_findsAlike
    {registry : Registry}
    (hAlike : r.toScope.FindsAlike registry)
    (t : DeclaredType) :
    reference { r with registry := registry } t =
      r.reference t := by
  have hScope :
      toScope { r with registry := registry } =
        { r.toScope with registry := registry } :=
    rfl
  apply reference_congr
  · rfl
  · intro name dimensions parameters
    unfold namedRef
    rw [hScope, ResolveScope.eraseAll_congr hAlike]
  · intro name
    unfold variableRef
    rw [hScope, hAlike.require_eq]
    simp only [ResolveScope.erase_congr hAlike]

/- So it does in a registry and in a part of it. -/
theorem reference_eq_of_partOf
    {whole : Registry}
    (hPart : Registry.PartOf r.registry whole)
    (hHolds : r.registry.Holds r.scope)
    (t : DeclaredType) :
    reference { r with registry := whole } t = r.reference t :=
  reference_eq_of_findsAlike
    (hPart.findVariable_eq hHolds r.member) t

end Resolution

end DeclaredApi
