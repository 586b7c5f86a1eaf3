import DeclaredApi.Proofs.Resolution.Reference
import DeclaredApi.Proofs.Signature.Wildcards

/-
  Unconstrained wildcards of declared types.

  A wildcard that declares no bounds becomes the unbounded
  wildcard of the root object type that is configured, at the
  same position of the reference.

  Main declarations:
    * `DeclaredType.UnconstrainedAt`
    * `Resolution.unboundedAt_reference`
-/

------------------------------------------------------------
-- Positions
------------------------------------------------------------

namespace DeclaredApi

namespace DeclaredType

/-
  A wildcard without bounds stands at a position of a type.
  Upper bounds beside lower ones are not looked at, and array
  layers take no step.
-/
inductive UnconstrainedAt : DeclaredType → List Nat → Prop
| wildcard : UnconstrainedAt (.wildcard [] []) []
| upper
    {upper : List DeclaredType}
    {i : Nat}
    {t : DeclaredType}
    {path : List Nat}
    (hBound : upper[i]? = some t)
    (hInside : UnconstrainedAt t path) :
    UnconstrainedAt (.wildcard upper []) (i :: path)
| lower
    {upper lower : List DeclaredType}
    {i : Nat}
    {t : DeclaredType}
    {path : List Nat}
    (hBound : lower[i]? = some t)
    (hInside : UnconstrainedAt t path) :
    UnconstrainedAt (.wildcard upper lower) (i :: path)
| argument
    {name : String}
    {dimensions : Nat}
    {parameters : List TypeParameter}
    {arguments : List DeclaredType}
    {i : Nat}
    {t : DeclaredType}
    {path : List Nat}
    (hArgument : arguments[i]? = some t)
    (hInside : UnconstrainedAt t path) :
    UnconstrainedAt
      (.applied name dimensions parameters arguments)
      (i :: path)
| component
    {component : DeclaredType}
    {i : Nat}
    {path : List Nat}
    (hInside : UnconstrainedAt component (i :: path)) :
    UnconstrainedAt (.arrayOf component) (i :: path)

/- With bounds that are read, it stands in one of them. -/
theorem ReadsBounds.exists_of_unconstrainedAt
    {upper lower ts : List DeclaredType}
    {relation : BoundRelation}
    {t : DeclaredType}
    {path : List Nat}
    (hReads : ReadsBounds upper lower relation t ts)
    (hPlace : UnconstrainedAt (wildcard upper lower) path) :
    ∃ i rest u,
      path = i :: rest ∧
        (t :: ts)[i]? = some u ∧ UnconstrainedAt u rest := by
  cases hReads with
  | upper =>
      cases hPlace with
      | upper hBound hInside =>
          exact ⟨_, _, _, rfl, hBound, hInside⟩
      | lower hBound _ => cases hBound
  | lower =>
      cases hPlace with
      | lower hBound hInside =>
          exact ⟨_, _, _, rfl, hBound, hInside⟩

end DeclaredType

end DeclaredApi

------------------------------------------------------------
-- References
------------------------------------------------------------

namespace DeclaredApi

namespace Resolution

open DeclaredType

variable {r : Resolution}

/- A named type has the arguments that it is put together of. -/
theorem parts_of_ofBase
    {base : String}
    {arguments : List TypeRef}
    {reference : TypeRef}
    (hOk : ResolveScope.ofBase base arguments = .ok reference) :
    reference.parts = arguments := by
  rw [ResolveScope.eq_simple_of_ofBase hOk]
  rfl

/- Every wildcard without bounds is one of the root. -/
theorem unboundedAt_reference
    {t : DeclaredType}
    {reference : TypeRef}
    (hOk : r.reference t = .ok reference) :
    reference.UnboundedAt r.config.rootObject
      t.UnconstrainedAt := by
  induction t using DeclaredType.inductionOnRead
    generalizing reference with
  | named name dimensions parameters =>
      rintro path ⟨⟩
  | applied name dimensions parameters arguments ih =>
      rcases reference_applied_eq_ok_iff.mp hOk with
        ⟨references, hArguments, hBase⟩
      have hParts :=
        Result.forall₂_of_each (fun u hu _ => ih u hu) hArguments
      rw [← parts_of_ofBase hBase] at hParts
      apply TypeRef.UnboundedAt.ofParts hParts
      rintro path ⟨⟩
      exact ⟨_, _, _, rfl, ‹_›, ‹_›⟩
  | arrayOf component ih =>
      rcases reference_arrayOf_eq_ok_iff.mp hOk with
        ⟨element, hElement, _, rfl⟩
      rintro path ⟨⟩
      rename_i i path hInside
      rw [← ih hElement (i :: path) hInside]
      cases element <;> rfl
  | unbounded =>
      rw [Resolution.reference] at hOk
      cases hOk
      apply TypeRef.unboundedAt_unbounded
      rintro path (_ | hBound | hBound)
      · rfl
      · cases hBound
      · cases hBound
  | @bounded _ _ relation _ _ hReads ih =>
      rcases (reference_wildcard_eq_ok_iff hReads).mp hOk with
        ⟨bounds, hBounds, rfl⟩
      have hParts :=
        Result.forall₂_of_each
          (fun u hu _ hBound =>
            ih u hu (boundReference_eq_ok_iff.mp hBound).1)
          hBounds
      exact TypeRef.UnboundedAt.ofParts
        (r := .wildcard relation bounds) hParts
        (fun _ hPlace => hReads.exists_of_unconstrainedAt hPlace)
  | typeVariable name =>
      rintro path ⟨⟩
  | unsupported =>
      rintro path ⟨⟩

end Resolution

end DeclaredApi
