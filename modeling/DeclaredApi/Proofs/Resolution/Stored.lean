import DeclaredApi.Proofs.ClassSignature.Description
import DeclaredApi.Proofs.Resolution.Reference

/-
  What resolving stores.

  Every reference that is interned on the way is well formed,
  whatever the interner holds.  So resolving and describing
  keep what storing well-formed references keeps.

  Main declarations:
    * `Resolution.returns_resolve`
    * `Description.returns_resolveAt`
    * `Description.returns_describe`
-/

------------------------------------------------------------
-- Names
------------------------------------------------------------

namespace DeclaredApi

namespace Resolution

open Interner

variable {r : Resolution}
variable {inv : Interner → Prop}

theorem returns_keep
    {reference : TypeRef}
    (hStores : Stores r.config inv)
    (hWellFormed : reference.WellFormed) :
    Action.Returns inv TypeRef.WellFormed
      (r.keep reference) := by
  intro interner hInv
  rcases hStores.intern hWellFormed hInv with
    ⟨hStored, hAfter⟩
  refine ⟨hAfter, ?_⟩
  intro s hOk
  exact Except.ok.inj hOk ▸ hStored

theorem returns_keepResult
    {result : Except ResolveError TypeRef}
    (hStores : Stores r.config inv)
    (hWellFormed :
      ∀ reference,
        result = .ok reference → reference.WellFormed) :
    Action.Returns inv TypeRef.WellFormed
      (r.keepResult result) := by
  cases result with
  | ok reference =>
      exact returns_keep hStores (hWellFormed reference rfl)
  | error e => exact Action.returns_throw TypeRef.WellFormed e

end Resolution

end DeclaredApi

------------------------------------------------------------
-- Declared Types
------------------------------------------------------------

namespace DeclaredApi

namespace Resolution

open Interner

variable {r : Resolution}
variable {inv : Interner → Prop}

/- A bound is well formed and no wildcard. -/
theorem returns_resolveBound
    {t : DeclaredType}
    (hType :
      Action.Returns inv TypeRef.WellFormed (r.resolve t)) :
    Action.Returns inv
      (fun b => b.isWildcard = false ∧ b.WellFormed)
      (r.resolveBound t) := by
  rw [resolveBound]
  apply hType.bind
  intro bound hBound
  split
  · exact Action.returns_throw _ ResolveError.wildcardBound
  · next hPlain =>
      exact Action.returns_pure
        ⟨Bool.eq_false_iff.mpr hPlain, hBound⟩

/- What is resolved is well formed, whatever is interned. -/
theorem returns_resolve
    (t : DeclaredType)
    (hStores : Stores r.config inv) :
    Action.Returns inv TypeRef.WellFormed (r.resolve t) := by
  induction t using DeclaredType.inductionOnRead with
  | named name dimensions parameters =>
      rw [resolve]
      exact returns_keepResult hStores
        (fun _ hOk => wellFormed_of_namedRef hOk)
  | applied name dimensions parameters arguments ih =>
      rw [resolve, resolveAll_eq_mapM]
      apply (Action.returns_mapM ih).bind
      rintro references ⟨_, hEach⟩
      apply returns_keepResult hStores
      intro out hOut
      exact (ResolveScope.wellFormed_of_ofBase hEach hOut).1
  | arrayOf component ih =>
      rw [resolve]
      apply ih.bind
      intro element hElement
      split
      · exact Action.returns_throw _
          ResolveError.wildcardComponent
      · exact returns_keep hStores (hElement.addDimensions 1)
  | unbounded =>
      rw [resolve]
      exact returns_keep hStores
        (TypeRef.wellFormed_unbounded
          r.config.rootObject_isDotted)
  | bounded hReads ih =>
      have hEach :=
        fun u hu => returns_resolveBound (ih u hu)
      rw [resolve_wildcard r hReads]
      apply (Action.returns_mapM hEach).bind
      rintro bounds ⟨hLength, hBounds⟩
      apply returns_keep hStores
      rw [TypeRef.WellFormed, TypeRef.allWellFormed_iff]
      refine ⟨?_, fun b hb => (hBounds b hb).1,
        fun b hb => (hBounds b hb).2⟩
      apply List.ne_nil_of_length_pos
      rw [hLength]
      exact Nat.succ_pos _
  | typeVariable name =>
      rw [resolve]
      exact returns_keepResult hStores
        (fun _ hOk => (wellFormed_of_variableRef hOk).1)
  | unsupported =>
      rw [resolve]
      exact Action.returns_throw _ ResolveError.unsupportedType

end Resolution

end DeclaredApi

------------------------------------------------------------
-- Classes
------------------------------------------------------------

namespace DeclaredApi

namespace Description

open Interner

variable {d : Description}
variable {inv : Interner → Prop}

/- The description of a type interns what is resolved. -/
theorem returns_resolveAt
    (member : Option MemberDecl)
    (path : String)
    (t : DeclaredType)
    (hStores : Stores d.config inv) :
    Action.Returns inv (fun _ => True)
      (d.resolveAt member path t) := by
  intro interner hInv
  have hRun :=
    Resolution.returns_resolve (r := d.resolution member) t
      hStores interner hInv
  unfold resolveAt
  revert hRun
  rcases (d.resolution member).resolve t interner with
    ⟨result, interner'⟩
  rintro ⟨hAfter, _⟩
  refine ⟨?_, fun _ _ => trivial⟩
  cases result with
  | ok reference => exact hAfter
  | error e => cases e <;> exact hAfter

theorem returns_describe
    (c : ClassDecl)
    (hStores : Stores d.config inv) :
    Action.Returns inv (fun _ => True) (d.describe c) :=
  holds_describe (Action.compositional_keeps _)
    (fun member t _ path =>
      returns_resolveAt member path t hStores)

end Description

end DeclaredApi
