import DeclaredApi.Proofs.Resolution.Capture
import DeclaredApi.Proofs.Resolution.Parts

/-
  Dimensions of resolved types.

  A bare class counts its dimensions, any other declared type
  is put inside array layers, and a reference counts those of
  its element.  Resolution adds them up: more dimensions of a
  declared type are as many of its reference.

  Main declarations:
    * `DeclaredType.addDimensions_addDimensions`
    * `ResolveScope.ofBase_brackets_iff`
    * `Resolution.reference_layered_iff`
    * `Resolution.reference_addDimensions_iff`
    * `Session.resolve_addDimensions`
-/

------------------------------------------------------------
-- Dimensions of Declared Types
------------------------------------------------------------

namespace DeclaredApi

namespace DeclaredType

/- Array layers are put around array layers. -/
theorem layered_layered
    (first second : Nat)
    (t : DeclaredType) :
    layered second (layered first t) =
      layered (first + second) t := by
  induction first generalizing t with
  | zero => rw [layered, Nat.zero_add]
  | succ first ih => rw [layered, ih, Nat.succ_add, layered]

/- What is inside array layers is no bare class any more. -/
theorem addDimensions_layered_succ
    (first second : Nat)
    (t : DeclaredType) :
    (layered (first + 1) t).addDimensions second =
      layered second (layered (first + 1) t) := by
  induction first generalizing t with
  | zero => rfl
  | succ first ih => exact ih (.arrayOf t)

/- Dimensions that are added one after the other add up. -/
theorem addDimensions_addDimensions
    (first second : Nat)
    (t : DeclaredType) :
    (t.addDimensions first).addDimensions second =
      t.addDimensions (first + second) := by
  rcases t with
    ⟨name, dimensions, parameters⟩ | _ | _ | _ | _ | _
  · simp only [addDimensions, Nat.add_assoc]
  all_goals
    cases first with
    | zero => rw [Nat.zero_add]; rfl
    | succ first =>
        exact (addDimensions_layered_succ first second _).trans
          (layered_layered (first + 1) second _)

end DeclaredType

end DeclaredApi

------------------------------------------------------------
-- Dimensions of References
------------------------------------------------------------

namespace DeclaredApi

variable {element : String}
variable {dimensions : Nat}
variable {arguments : List TypeRef}

namespace ResolveScope

/- Brackets after a base are dimensions of its reference. -/
theorem ofBase_brackets_iff
    {base : String}
    {given : List TypeRef}
    (count : Nat) :
    ofBase (base ++ Name.brackets count) given =
        .ok (.simple element (dimensions + count) arguments) ↔
      ofBase base given =
        .ok (.simple element dimensions arguments) := by
  rw [ofBase_eq_ok, ofBase_eq_ok, TypeRef.ofBase_eq_ok_iff,
    TypeRef.ofBase_eq_ok_iff, Name.splitDimensions_brackets]
  simp only [TypeRef.simple.injEq, Nat.add_right_cancel_iff]

end ResolveScope

namespace Resolution

open DeclaredType (layered)

variable {r : Resolution}

/- A bare class passes its dimensions on, erased or not. -/
theorem namedRef_add_iff
    {name : String}
    {given : Nat}
    {parameters : List TypeParameter}
    (count : Nat) :
    r.namedRef name (given + count) parameters =
        .ok (.simple element (dimensions + count) arguments) ↔
      r.namedRef name given parameters =
        .ok (.simple element dimensions arguments) := by
  unfold namedRef
  rw [Name.brackets_add, ← String.append_assoc]
  split
  · rw [Result.bind_eq_ok_iff, Result.bind_eq_ok_iff]
    simp only [ResolveScope.ofBase_brackets_iff]
  · rw [Result.bind_eq_ok_iff, Result.bind_eq_ok_iff]
    simp only [ResolveScope.ofBase_brackets_iff]

/- An array layer is one more dimension. -/
theorem reference_arrayOf_iff
    {t : DeclaredType} :
    r.reference (.arrayOf t) =
        .ok (.simple element (dimensions + 1) arguments) ↔
      r.reference t =
        .ok (.simple element dimensions arguments) := by
  rw [reference_arrayOf_eq_ok_iff]
  constructor
  · rintro ⟨component, hComponent, _, hLayer⟩
    cases component with
    | simple name layers others =>
        cases hLayer
        exact hComponent
    | wildcard relation bounds => cases hLayer
  · intro hComponent
    exact ⟨_, hComponent, rfl, rfl⟩

theorem reference_layered_iff
    (count : Nat)
    (t : DeclaredType) :
    r.reference (layered count t) =
        .ok (.simple element (dimensions + count) arguments) ↔
      r.reference t =
        .ok (.simple element dimensions arguments) := by
  induction count generalizing t dimensions with
  | zero => exact Iff.rfl
  | succ count ih =>
      rw [layered, Nat.add_comm count 1, ← Nat.add_assoc, ih,
        reference_arrayOf_iff]

/- More dimensions of a type are as many of its reference. -/
theorem reference_addDimensions_iff
    (count : Nat)
    (t : DeclaredType) :
    r.reference (t.addDimensions count) =
        .ok (.simple element (dimensions + count) arguments) ↔
      r.reference t =
        .ok (.simple element dimensions arguments) := by
  rcases t.addDimensions_cases count with
    ⟨name, given, parameters, rfl, hNamed⟩ | hLayered
  · rw [hNamed, reference, reference, namedRef_add_iff]
  · rw [hLayered, reference_layered_iff]

end Resolution

end DeclaredApi

------------------------------------------------------------
-- Dimensions in Sessions
------------------------------------------------------------

namespace DeclaredApi

namespace Session

variable {s later : Session}

/-
  What a declared type resolves to is decided by the root and
  by the classes, and not by what was resolved before.
-/
theorem resolve_congr
    (hReset : s.FollowsReset)
    (hLater : later.FollowsReset)
    (hRoot : later.root = s.root)
    (hRegistry : later.registry = s.registry)
    (scope : ClassScope)
    (member : Option MemberDecl)
    (erases : Bool)
    (t : DeclaredType) :
    (resolve scope member erases t later).1 =
      (resolve scope member erases t s).1 := by
  have hScope :
      Resolution.toScope
          ⟨later.config, s.registry, scope, member, erases⟩ =
        Resolution.toScope
          ⟨s.config, s.registry, scope, member, erases⟩ := by
    rw [Resolution.toScope, Resolution.toScope,
      ResolveScope.mk.injEq]
    exact ⟨hRoot, rfl, rfl, rfl⟩
  rw [resolve_eq_reference hLater, resolve_eq_reference hReset,
    hRegistry]
  apply Resolution.reference_congr hRoot
  · intro name dimensions parameters
    rw [Resolution.namedRef, Resolution.namedRef, hScope]
  · intro name
    rw [Resolution.variableRef, Resolution.variableRef, hScope]

/-
  Adding dimensions commutes with resolution.  A declared type
  resolves to the reference of a class or variable exactly if
  with more dimensions it resolves to the one with as many
  more and the same arguments, in any session with the same
  root and classes.  Dimensions that are added one after the
  other resolve, or fail to, as their sum does.
-/
theorem resolve_addDimensions
    (hReset : s.FollowsReset)
    (hLater : later.FollowsReset)
    (hRoot : later.root = s.root)
    (hRegistry : later.registry = s.registry)
    (scope : ClassScope)
    (member : Option MemberDecl)
    (erases : Bool)
    (t : DeclaredType) :
    (∀ count element dimensions arguments,
      (resolve scope member erases t s).1 =
          .ok (.simple element dimensions arguments) ↔
        (resolve scope member erases
            (t.addDimensions count) later).1 =
          .ok (.simple element (dimensions + count)
            arguments)) ∧
      ∀ first second,
        (resolve scope member erases
            ((t.addDimensions first).addDimensions second)
            s).1 =
          (resolve scope member erases
            (t.addDimensions (first + second)) later).1 := by
  have hSame :
      ∀ u : DeclaredType,
        (resolve scope member erases u later).1 =
          (resolve scope member erases u s).1 :=
    resolve_congr hReset hLater hRoot hRegistry scope
      member erases
  constructor
  · intro count element dimensions arguments
    rw [hSame, resolve_eq_reference hReset,
      resolve_eq_reference hReset,
      Resolution.reference_addDimensions_iff]
  · intro first second
    rw [hSame, DeclaredType.addDimensions_addDimensions]

/- Arrays of a raw class whose first bound is an array too. -/
def rawArray : DeclaredType :=
  .named boundedClass.name 1 boundedClass.typeParameters

/-
  With erasure, the dimensions of arrays of the raw class are
  added up, and its arguments keep their own.
-/
theorem resolve_addDimensions_raw :
    let s : Session := run boundedHistory (reset {}).2
    let holder := ClassScope.ofDecl boundedClass
    let later := (resolve holder none true rawArray s).2
    (resolve holder none true rawArray s).1 =
        .ok (.simple "a.D" 1
          [.simple "a.B" 1 [], .simple "a.B" 0 []]) ∧
      (resolve holder none true (rawArray.addDimensions 2)
          later).1 =
        .ok (.simple "a.D" 3
          [.simple "a.B" 1 [], .simple "a.B" 0 []]) ∧
      (resolve holder none true
          ((rawArray.addDimensions 1).addDimensions 2) s).1 =
        (resolve holder none true (rawArray.addDimensions 3)
          later).1 := by
  intro s holder later
  have hReset : s.FollowsReset :=
    ⟨{}, boundedHistory,
      by simp [boundedHistory, Operation.KeepsRoot], rfl⟩
  have hLater : later.FollowsReset :=
    hReset.step (.resolve holder none true rawArray) trivial
  have hRaw :
      (resolve holder none true rawArray s).1 =
        .ok (.simple "a.D" 1
          [.simple "a.B" 1 [], .simple "a.B" 0 []]) := by
    decide +kernel
  rcases resolve_addDimensions hReset hLater rfl rfl holder none
      true rawArray with
    ⟨hMore, hSum⟩
  exact ⟨hRaw, (hMore 2 _ _ _).mp hRaw, hSum 1 2⟩

end Session

end DeclaredApi
