import DeclaredApi.Proofs.Name.Dimensions
import DeclaredApi.TypeRef.Draft

/-
  Well-formed references pass validation.

  A reference that is taken apart into an unchecked draft is
  built again from the inside out exactly when it is well
  formed, so the predicate and the checks agree.

  Main declarations:
    * `TypeRef.inductionOnParts`
    * `TypeRef.decWellFormed`
    * `TypeRef.draft`
    * `TypeRef.ofBase_eq_ok_iff`
    * `TypeRef.ofBase_of_isDotted`
    * `TypeRef.ofBounds_eq_ok_iff`
    * `TypeRef.build_draft`
-/

------------------------------------------------------------
-- Parts of References
------------------------------------------------------------

namespace DeclaredApi

namespace TypeRef

/- Induction with the hypothesis for each part of a tree. -/
@[elab_as_elim, induction_eliminator]
theorem inductionOnParts
    {motive : TypeRef → Prop}
    (simple :
      ∀ element dimensions arguments,
        (∀ a ∈ arguments, motive a) →
          motive (.simple element dimensions arguments))
    (wildcard :
      ∀ relation bounds,
        (∀ b ∈ bounds, motive b) →
          motive (.wildcard relation bounds))
    (r : TypeRef) :
    motive r :=
  @TypeRef.rec motive (fun rs => ∀ r ∈ rs, motive r)
    simple wildcard
    (fun _ h => absurd h List.not_mem_nil)
    (fun _ _ hHead hTail _ hMem =>
      (List.mem_cons.mp hMem).elim
        (fun hEq => hEq ▸ hHead) (hTail _)) r

theorem allWellFormed_iff
    (rs : List TypeRef) :
    AllWellFormed rs ↔ ∀ r ∈ rs, WellFormed r := by
  induction rs with
  | nil => simp [AllWellFormed]
  | cons r rs ih => simp [AllWellFormed, ih]

/- Nesting is bounded when it is in every tree of a list. -/
theorem nestingAll_le_iff
    (rs : List TypeRef)
    (depth : Nat) :
    nestingAll rs ≤ depth ↔ ∀ r ∈ rs, nesting r ≤ depth := by
  induction rs with
  | nil => simp [nestingAll]
  | cons r rs ih =>
      rw [nestingAll, Nat.max_le, ih, List.forall_mem_cons]

end TypeRef

end DeclaredApi

------------------------------------------------------------
-- Deciding Well-Formedness
------------------------------------------------------------

namespace DeclaredApi

namespace TypeRef

mutual

/- Decide whether a reference is well formed. -/
def decWellFormed :
    (r : TypeRef) → Decidable (WellFormed r)
| .simple element dimensions arguments =>
    have := decAllWellFormed arguments
    decidable_of_iff
      (Name.isDotted element = true ∧
        (Name.isPrimitive element = true → arguments = []) ∧
        AllWellFormed arguments)
      (by rw [WellFormed])
| .wildcard relation bounds =>
    have := decAllWellFormed bounds
    decidable_of_iff
      (bounds ≠ [] ∧
        (∀ b ∈ bounds, b.isWildcard = false) ∧
        AllWellFormed bounds)
      (by rw [WellFormed])

/- Decide whether every reference of a list is. -/
def decAllWellFormed :
    (rs : List TypeRef) → Decidable (AllWellFormed rs)
| [] => isTrue trivial
| r :: rs =>
    have := decWellFormed r
    have := decAllWellFormed rs
    decidable_of_iff (WellFormed r ∧ AllWellFormed rs)
      (by rw [AllWellFormed])

end

instance (r : TypeRef) : Decidable r.WellFormed :=
  decWellFormed r

end TypeRef

end DeclaredApi

------------------------------------------------------------
-- Drafts of References
------------------------------------------------------------

namespace DeclaredApi

namespace TypeRef

mutual

/- The unchecked parts of a reference. -/
def draft : TypeRef → Draft
| .simple element dimensions arguments =>
    .simple (element ++ Name.brackets dimensions)
      (draftAll arguments)
| .wildcard relation bounds =>
    .wildcard relation.word (draftAll bounds)

/- The unchecked parts of a list of references. -/
def draftAll : List TypeRef → List Draft
| [] => []
| r :: rs => draft r :: draftAll rs

end

end TypeRef

end DeclaredApi

------------------------------------------------------------
-- Validation
------------------------------------------------------------

namespace DeclaredApi

namespace TypeRef

/- The word of a direction introduces it. -/
theorem ofWord?_word
    (relation : BoundRelation) :
    BoundRelation.ofWord? relation.word = some relation := by
  cases relation <;> rfl

/- A base is accepted for its name and for what it carries. -/
theorem ofBase_eq_ok_iff
    {base : String}
    {arguments : List TypeRef}
    {r : TypeRef} :
    ofBase base arguments = .ok r ↔
      Name.isDotted (Name.splitDimensions base).1 = true ∧
        (Name.isPrimitive (Name.splitDimensions base).1 = true →
          arguments = []) ∧
        r =
          .simple (Name.splitDimensions base).1
            (Name.splitDimensions base).2 arguments := by
  unfold ofBase
  rcases Name.splitDimensions base with ⟨element, dimensions⟩
  cases hDotted : Name.isDotted element with
  | false => simp [hDotted]
  | true =>
      cases hPrimitive : Name.isPrimitive element with
      | false => simp [hDotted, hPrimitive, eq_comm]
      | true =>
          cases arguments with
          | nil => simp [hDotted, hPrimitive, eq_comm]
          | cons a as => simp [hDotted, hPrimitive]

/- A dotted base with allowed arguments is accepted. -/
theorem ofBase_of_isDotted
    {element : String}
    {arguments : List TypeRef}
    (dimensions : Nat)
    (hDotted : Name.isDotted element = true)
    (hPrimitive :
      Name.isPrimitive element = true → arguments = []) :
    ofBase (element ++ Name.brackets dimensions) arguments =
      .ok (.simple element dimensions arguments) := by
  rw [ofBase_eq_ok_iff,
    Name.splitDimensions_append_brackets hDotted]
  exact ⟨hDotted, hPrimitive, rfl⟩

/- Bounds are accepted if there are any and all are named. -/
theorem ofBounds_eq_ok_iff
    {relation : BoundRelation}
    {bounds : List TypeRef}
    {r : TypeRef} :
    ofBounds relation bounds = .ok r ↔
      bounds ≠ [] ∧
        (∀ b ∈ bounds, b.isWildcard = false) ∧
        r = .wildcard relation bounds := by
  have hNone :
      firstWildcard? bounds = none ↔
        ∀ b ∈ bounds, b.isWildcard = false := by
    simp [firstWildcard?]
  rw [← hNone]
  unfold ofBounds
  cases bounds with
  | nil => simp
  | cons b bs =>
      cases firstWildcard? (b :: bs) with
      | none => simp [eq_comm]
      | some index => simp

/- The root object type is a bound of its own. -/
theorem ofBounds_root
    {root : String}
    (hDotted : Name.isDotted root = true) :
    (do
      let bound ← ofBase root []
      ofBounds .upper [bound]) =
      .ok (.unbounded root) := by
  have hBase := ofBase_of_isDotted 0 hDotted (fun _ => rfl)
  rw [Name.brackets, String.append_empty] at hBase
  rw [hBase]
  rfl

/- A list of references is built when each of them is. -/
theorem buildAll_draftAll
    {rs : List TypeRef}
    (hBuild : ∀ r ∈ rs, (draft r).build = .ok r) :
    Draft.buildAll (draftAll rs) = .ok rs := by
  induction rs with
  | nil => rfl
  | cons r rs ih =>
      have hHead := hBuild r List.mem_cons_self
      have hTail :=
        ih (fun s hs => hBuild s (List.mem_cons_of_mem r hs))
      simp only [draftAll, Draft.buildAll, hHead, hTail, bind,
        Except.bind, pure, Except.pure]

/- A well-formed reference passes validation unchanged. -/
theorem build_draft
    {r : TypeRef}
    (hWellFormed : r.WellFormed) :
    r.draft.build = .ok r := by
  induction r with
  | simple element dimensions arguments ih =>
      rw [WellFormed, allWellFormed_iff] at hWellFormed
      have hArguments :=
        buildAll_draftAll
          (fun a ha => ih a ha (hWellFormed.2.2 a ha))
      have hBase :=
        ofBase_of_isDotted dimensions hWellFormed.1
          hWellFormed.2.1
      simp only [draft, Draft.build, hArguments, hBase, bind,
        Except.bind]
  | wildcard relation bounds ih =>
      rw [WellFormed, allWellFormed_iff] at hWellFormed
      have hBounds :=
        buildAll_draftAll
          (fun b hb => ih b hb (hWellFormed.2.2 b hb))
      have hAccepted :
          ofBounds relation bounds =
            .ok (.wildcard relation bounds) :=
        ofBounds_eq_ok_iff.mpr
          ⟨hWellFormed.1, hWellFormed.2.1, rfl⟩
      simp only [draft, Draft.build, hBounds, ofWord?_word,
        hAccepted, bind, Except.bind]

end TypeRef

end DeclaredApi
