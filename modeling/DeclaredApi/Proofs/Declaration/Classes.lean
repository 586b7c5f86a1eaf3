import DeclaredApi.Proofs.Declaration.Variables

/-
  Classes of declarations.

  A declared type names classes at any depth, also in the
  bounds of the parameters that it carries.  The class that a
  first bound is built on is one of them.

  Main declarations:
    * `DeclaredType.classBases`
    * `TypeParameter.classBases`
    * `TypeParameter.mem_classBases_of_tip`
-/

------------------------------------------------------------
-- Classes of Types
------------------------------------------------------------

namespace DeclaredApi

mutual

/- The bases of the classes that a declared type names. -/
def DeclaredType.classBases : DeclaredType → List String
| .named name dimensions parameters =>
    (name ++ Name.brackets dimensions) ::
      TypeParameter.classBasesAll parameters
| .applied name dimensions parameters arguments =>
    (name ++ Name.brackets dimensions) ::
      (TypeParameter.classBasesAll parameters ++
        DeclaredType.classBasesAll arguments)
| .arrayOf component => DeclaredType.classBases component
| .wildcard upper lower =>
    DeclaredType.classBasesAll upper ++
      DeclaredType.classBasesAll lower
| .typeVariable _ => []
| .unsupported => []

/- The bases of classes that a list of types names. -/
def DeclaredType.classBasesAll :
    List DeclaredType → List String
| [] => []
| t :: ts =>
    DeclaredType.classBases t ++ DeclaredType.classBasesAll ts

/- The bases of classes that the bounds of a parameter name. -/
def TypeParameter.classBases : TypeParameter → List String
| .mk _ bounds => DeclaredType.classBasesAll bounds

/- The bases of classes that bounds of parameters name. -/
def TypeParameter.classBasesAll :
    List TypeParameter → List String
| [] => []
| p :: ps =>
    TypeParameter.classBases p ++ TypeParameter.classBasesAll ps

end

theorem DeclaredType.mem_classBasesAll
    {ts : List DeclaredType}
    {base : String} :
    base ∈ classBasesAll ts ↔ ∃ t ∈ ts, base ∈ t.classBases := by
  induction ts with
  | nil => simp [classBasesAll]
  | cons t ts ih => simp [classBasesAll, ih]

/- A wildcard names the classes of the bounds of it. -/
theorem DeclaredType.ReadsBounds.classBases_subset
    {upper lower ts : List DeclaredType}
    {relation : BoundRelation}
    {t : DeclaredType}
    (hReads : ReadsBounds upper lower relation t ts) :
    classBasesAll (t :: ts) ⊆
      (wildcard upper lower).classBases := by
  rw [classBases]
  cases hReads with
  | upper => exact List.subset_append_left _ _
  | lower => exact List.subset_append_right _ _

theorem TypeParameter.mem_classBasesAll
    {ps : List TypeParameter}
    {base : String} :
    base ∈ classBasesAll ps ↔ ∃ p ∈ ps, base ∈ p.classBases := by
  induction ps with
  | nil => simp [classBasesAll]
  | cons p ps ih => simp [classBasesAll, ih]

end DeclaredApi

------------------------------------------------------------
-- Classes of First Bounds
------------------------------------------------------------

namespace DeclaredApi

namespace DeclaredType

/- The class that a type is built on is one of its own. -/
theorem mem_classBases_of_tip
    {t : DeclaredType}
    {base : String}
    (hTip : t.tip.1 = .className base) :
    base ∈ t.classBases := by
  induction t with
  | named name dimensions parameters =>
      rw [tip] at hTip
      cases hTip
      rw [classBases]
      exact List.mem_cons_self
  | applied name dimensions parameters arguments _ =>
      rw [tip] at hTip
      cases hTip
      rw [classBases]
      exact List.mem_cons_self
  | arrayOf component ih =>
      rw [tip] at hTip
      rw [classBases]
      exact ih hTip
  | wildcard upper lower ihUpper _ =>
      rw [tip] at hTip
      rw [classBases]
      cases upper with
      | nil => cases hTip
      | cons t ts =>
          rw [tipOfFirst] at hTip
          apply List.mem_append_left
          exact mem_classBasesAll.mpr ⟨t, List.mem_cons_self,
            ihUpper t List.mem_cons_self hTip⟩
  | typeVariable name => cases hTip
  | unsupported => cases hTip

end DeclaredType

/- So is the class that a first bound is built on. -/
theorem TypeParameter.mem_classBases_of_tip
    {p : TypeParameter}
    {base : String}
    (hTip :
      (DeclaredType.tipOfFirst p.bounds).1 = .className base) :
    base ∈ p.classBases := by
  rcases p with ⟨name, bounds⟩
  rw [TypeParameter.bounds] at hTip
  rw [classBases]
  cases bounds with
  | nil => cases hTip
  | cons t ts =>
      rw [DeclaredType.tipOfFirst] at hTip
      exact DeclaredType.mem_classBasesAll.mpr
        ⟨t, List.mem_cons_self,
          DeclaredType.mem_classBases_of_tip hTip⟩

end DeclaredApi
