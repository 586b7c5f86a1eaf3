import DeclaredApi.Proofs.Action
import DeclaredApi.Proofs.Declaration.Variables
import DeclaredApi.Resolution.Resolve

/-
  Resolution of lists.

  A list of parameters is erased one after the other, and so
  is a list of types resolved.  A bound is resolved as any
  type, but refused if it becomes a wildcard.

  Main declarations:
    * `ResolveScope.eraseAll_eq_mapM`
    * `Resolution.resolveAll_eq_mapM`
    * `Resolution.resolveBound`
    * `Resolution.resolveBounds_eq_mapM`
    * `Resolution.resolve_wildcard`
-/

------------------------------------------------------------
-- Parameters
------------------------------------------------------------

namespace DeclaredApi

namespace ResolveScope

/- A list of parameters is erased one after the other. -/
theorem eraseAll_eq_mapM
    (s : ResolveScope)
    (siblings ps : List TypeParameter) :
    s.eraseAll siblings ps = ps.mapM (s.erase siblings) := by
  induction ps with
  | nil => rfl
  | cons p ps ih => rw [eraseAll, List.mapM_cons, ih]

end ResolveScope

end DeclaredApi

------------------------------------------------------------
-- Types and Bounds
------------------------------------------------------------

namespace DeclaredApi

namespace Resolution

/- The reference of a bound, which is no wildcard. -/
def resolveBound
    (r : Resolution)
    (t : DeclaredType) : Resolver TypeRef := do
  let reference ← r.resolve t
  if reference.isWildcard then
    throw .wildcardBound
  pure reference

variable (r : Resolution)

theorem resolveAll_eq_mapM
    (ts : List DeclaredType) :
    r.resolveAll ts = ts.mapM r.resolve := by
  induction ts with
  | nil => rfl
  | cons t ts ih => rw [resolveAll, List.mapM_cons, ih]

theorem resolveBounds_eq_mapM
    (ts : List DeclaredType) :
    r.resolveBounds ts = ts.mapM r.resolveBound := by
  induction ts with
  | nil => rfl
  | cons t ts ih =>
      rw [resolveBounds, List.mapM_cons, ih, resolveBound,
        bind_assoc]
      congr
      funext reference
      cases reference.isWildcard <;> rfl

/- A wildcard is resolved by the bounds that are read. -/
theorem resolve_wildcard
    {upper lower : List DeclaredType}
    {relation : BoundRelation}
    {t : DeclaredType}
    {ts : List DeclaredType}
    (hReads :
      DeclaredType.ReadsBounds upper lower relation t ts) :
    r.resolve (.wildcard upper lower) = (do
      let bounds ← (t :: ts).mapM r.resolveBound
      r.keep (.wildcard relation bounds)) := by
  rw [← resolveBounds_eq_mapM]
  cases hReads <;> rw [resolve]

end Resolution

end DeclaredApi
