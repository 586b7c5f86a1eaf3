import DeclaredApi.Proofs.Classifier.Decisions
import DeclaredApi.Proofs.TypeRef.Leaves
import DeclaredApi.Structured.Projection

/-
  Projection as a function of the reference.

  With a sound classifier the structured form of a reference
  depends on the probe and on the scope alone.  It is the
  form of the reference with the root object type in the
  place of the leaves that the scope hides.

  Main declarations:
    * `Structured.form`
    * `Structured.hides`
    * `Structured.shown`
    * `Structured.yields_project`
-/

------------------------------------------------------------
-- Structured Forms
------------------------------------------------------------

namespace DeclaredApi

namespace Structured

/- What is written for a named type with arguments. -/
def namedFields
    (base : String)
    (arguments : List Json) : List (String × Json) :=
  [(baseKey, .str base), (parametersKey, .list arguments)]

/- What is written for a wildcard. -/
def wildcardFields
    (relation : BoundRelation)
    (bounds : List Json) : List (String × Json) :=
  [(baseKey, .str "?"), (genericKey, .bool true),
    (relationKey, .str relation.word),
    (boundsKey, .list bounds)]

mutual

/- The structured form of a reference without a scope. -/
def form : TypeRef → Json
| .simple element dimensions [] =>
    .str (element ++ Name.brackets dimensions)
| .simple element dimensions (a :: as) =>
    .object
      (namedFields (element ++ Name.brackets dimensions)
        (formAll (a :: as)))
| .wildcard relation bounds =>
    .object (wildcardFields relation (formAll bounds))

/- The structured forms of a list of references. -/
def formAll : List TypeRef → List Json
| [] => []
| r :: rs => form r :: formAll rs

end

/-
  A scope hides a name that is taken for a type variable and
  that it does not declare.
-/
def hides
    (probe : Probe)
    (declared : Declared)
    (element : String) : Bool :=
  match declared with
  | none => false
  | some declares =>
      !probe.regards element && !declares element

/- The name that is written for a leaf. -/
def shown
    (root : String)
    (probe : Probe)
    (declared : Declared)
    (element : String) : String :=
  if hides probe declared element then root else element

/- A name stands unless it is hidden and not the root. -/
theorem shown_eq_self_iff
    {root element : String}
    {probe : Probe}
    {declared : Declared} :
    shown root probe declared element = element ↔
      (hides probe declared element = true → element = root) := by
  unfold shown
  split
  · next hHidden => simp [hHidden, eq_comm]
  · next hStands => simp [hStands]

/- What is written for a dotted name is a dotted name. -/
theorem isDotted_shown
    {root element : String}
    (probe : Probe)
    (declared : Declared)
    (hRoot : Name.isDotted root = true)
    (hElement : Name.isDotted element = true) :
    Name.isDotted (shown root probe declared element) =
      true := by
  unfold shown
  split
  · exact hRoot
  · exact hElement

end Structured

end DeclaredApi

------------------------------------------------------------
-- Projection
------------------------------------------------------------

namespace DeclaredApi

namespace Structured

open DeclaredApi.Action

variable {root : String}
variable {probe : Probe}
variable {declared : Declared}

theorem yields_leaf
    (element : String) :
    Yields (Classifier.Sound probe)
      (shown root probe declared element)
      (leaf root declared element) := by
  unfold leaf
  cases declared with
  | none => exact yields_pure element
  | some declares =>
      apply (Classifier.yields_isVariable element).bind
      rw [shown, hides]
      split
      · exact yields_pure root
      · exact yields_pure element

theorem yields_projectAll
    {rs : List TypeRef}
    (hEach :
      ∀ r ∈ rs,
        Yields (Classifier.Sound probe)
          (form (r.renameLeaves (shown root probe declared)))
          (project root declared r)) :
    Yields (Classifier.Sound probe)
      (formAll
        (TypeRef.renameAllLeaves (shown root probe declared)
          rs))
      (projectAll root declared rs) := by
  induction rs with
  | nil => exact yields_pure []
  | cons r rs ih =>
      rw [projectAll, TypeRef.renameAllLeaves, formAll]
      apply (hEach r List.mem_cons_self).bind
      apply (ih fun s hs =>
        hEach s (List.mem_cons_of_mem r hs)).bind
      exact yields_pure _

/- Projecting writes the form of what the scope shows. -/
theorem yields_project
    (r : TypeRef) :
    Yields (Classifier.Sound probe)
      (form (r.renameLeaves (shown root probe declared)))
      (project root declared r) := by
  induction r with
  | simple element dimensions arguments ih =>
      cases arguments with
      | nil =>
          rw [project, TypeRef.renameLeaves, form]
          exact (yields_leaf element).bind (yields_pure _)
      | cons a as =>
          rw [project, TypeRef.renameLeaves]
          exact (yields_projectAll ih).bind (yields_pure _)
  | wildcard relation bounds ih =>
      rw [project, TypeRef.renameLeaves]
      exact (yields_projectAll ih).bind (yields_pure _)

end Structured

end DeclaredApi
