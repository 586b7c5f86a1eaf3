import DeclaredApi.Proofs.TypeRef.Validation

/-
  Leaves of type references.

  The leaves of a reference are the named types without
  arguments in it.  Other names can be put in their place,
  where each leaf keeps its dimensions.

  Main declarations:
    * `TypeRef.leaves`
    * `TypeRef.renameLeaves`
    * `TypeRef.renameLeaves_eq_self_iff`
    * `TypeRef.WellFormed.renameLeaves`
-/

------------------------------------------------------------
-- Leaves
------------------------------------------------------------

namespace DeclaredApi

namespace TypeRef

mutual

/- The element names of the types without arguments. -/
def leaves : TypeRef → List String
| .simple element _ [] => [element]
| .simple _ _ (a :: as) => leavesAll (a :: as)
| .wildcard _ bounds => leavesAll bounds

/- The leaves of a list of references. -/
def leavesAll : List TypeRef → List String
| [] => []
| r :: rs => leaves r ++ leavesAll rs

end

mutual

/- Put other element names in the place of the leaves. -/
def renameLeaves (f : String → String) : TypeRef → TypeRef
| .simple element dimensions [] =>
    .simple (f element) dimensions []
| .simple element dimensions (a :: as) =>
    .simple element dimensions (renameAllLeaves f (a :: as))
| .wildcard relation bounds =>
    .wildcard relation (renameAllLeaves f bounds)

/- Put other names in the place of the leaves of a list. -/
def renameAllLeaves
    (f : String → String) : List TypeRef → List TypeRef
| [] => []
| r :: rs => renameLeaves f r :: renameAllLeaves f rs

end

theorem mem_leavesAll
    {rs : List TypeRef}
    {element : String} :
    element ∈ leavesAll rs ↔ ∃ r ∈ rs, element ∈ r.leaves := by
  induction rs with
  | nil => simp [leavesAll]
  | cons r rs ih => simp [leavesAll, ih]

theorem renameAllLeaves_eq_map
    (f : String → String)
    (rs : List TypeRef) :
    renameAllLeaves f rs = rs.map (renameLeaves f) := by
  induction rs with
  | nil => rfl
  | cons r rs ih => rw [renameAllLeaves, ih, List.map_cons]

/- A list is mapped to itself where each element is. -/
theorem map_renameLeaves_eq_self_iff
    {f : String → String}
    {rs : List TypeRef}
    (hEach :
      ∀ r ∈ rs,
        renameLeaves f r = r ↔ ∀ e ∈ r.leaves, f e = e) :
    rs.map (renameLeaves f) = rs ↔
      ∀ e ∈ leavesAll rs, f e = e := by
  induction rs with
  | nil => simp [leavesAll]
  | cons r rs ih =>
      have hHead := hEach r List.mem_cons_self
      have hTail :=
        ih fun s hs => hEach s (List.mem_cons_of_mem r hs)
      rw [List.map_cons, List.cons.injEq, hHead, hTail,
        leavesAll, List.forall_mem_append]

/- Nothing changes where each leaf keeps its name. -/
theorem renameLeaves_eq_self_iff
    (f : String → String)
    (r : TypeRef) :
    r.renameLeaves f = r ↔ ∀ e ∈ r.leaves, f e = e := by
  induction r with
  | simple element dimensions arguments ih =>
      cases arguments with
      | nil => simp [renameLeaves, leaves]
      | cons a as =>
          rw [renameLeaves, renameAllLeaves_eq_map, leaves,
            ← map_renameLeaves_eq_self_iff ih]
          simp
  | wildcard relation bounds ih =>
      rw [renameLeaves, renameAllLeaves_eq_map, leaves,
        ← map_renameLeaves_eq_self_iff ih]
      simp

end TypeRef

end DeclaredApi

------------------------------------------------------------
-- Well-Formed Renamings
------------------------------------------------------------

namespace DeclaredApi

namespace TypeRef

variable {f : String → String}

theorem isWildcard_renameLeaves
    (r : TypeRef) :
    (r.renameLeaves f).isWildcard = r.isWildcard := by
  rcases r with ⟨element, dimensions, arguments⟩ | _
  · cases arguments with
    | nil => rfl
    | cons a as => rfl
  · rfl

/- The leaves of a well-formed reference are dotted names. -/
theorem WellFormed.isDotted_of_mem_leaves
    {r : TypeRef}
    {e : String}
    (hWellFormed : r.WellFormed)
    (hLeaf : e ∈ r.leaves) :
    Name.isDotted e = true := by
  induction r with
  | simple element dimensions arguments ih =>
      rw [WellFormed, allWellFormed_iff] at hWellFormed
      cases arguments with
      | nil =>
          rw [leaves, List.mem_singleton] at hLeaf
          exact hLeaf ▸ hWellFormed.1
      | cons a as =>
          rw [leaves] at hLeaf
          rcases mem_leavesAll.mp hLeaf with ⟨b, hb, hLeaf⟩
          exact ih b hb (hWellFormed.2.2 b hb) hLeaf
  | wildcard relation bounds ih =>
      rw [WellFormed, allWellFormed_iff] at hWellFormed
      rw [leaves] at hLeaf
      rcases mem_leavesAll.mp hLeaf with ⟨b, hb, hLeaf⟩
      exact ih b hb (hWellFormed.2.2 b hb) hLeaf

/- Leaves with dotted names may be put in. -/
theorem WellFormed.renameLeaves
    {r : TypeRef}
    (hDotted :
      ∀ e, Name.isDotted e = true → Name.isDotted (f e) = true)
    (hWellFormed : r.WellFormed) :
    (r.renameLeaves f).WellFormed := by
  induction r with
  | simple element dimensions arguments ih =>
      rw [WellFormed, allWellFormed_iff] at hWellFormed
      rcases hWellFormed with ⟨hElement, hPrimitive, hArguments⟩
      cases arguments with
      | nil =>
          rw [TypeRef.renameLeaves, WellFormed]
          exact ⟨hDotted element hElement, fun _ => rfl, trivial⟩
      | cons a as =>
          rw [TypeRef.renameLeaves, WellFormed,
            allWellFormed_iff, renameAllLeaves_eq_map]
          refine ⟨hElement, ?_, ?_⟩
          · intro hName
            cases hPrimitive hName
          · intro b hb
            rcases List.mem_map.mp hb with ⟨c, hc, rfl⟩
            exact ih c hc (hArguments c hc)
  | wildcard relation bounds ih =>
      rw [WellFormed, allWellFormed_iff] at hWellFormed
      rcases hWellFormed with ⟨hSome, hPlain, hBounds⟩
      rw [TypeRef.renameLeaves, WellFormed, allWellFormed_iff,
        renameAllLeaves_eq_map]
      refine ⟨?_, ?_, ?_⟩
      · simpa using hSome
      · intro b hb
        rcases List.mem_map.mp hb with ⟨c, hc, rfl⟩
        rw [isWildcard_renameLeaves]
        exact hPlain c hc
      · intro b hb
        rcases List.mem_map.mp hb with ⟨c, hc, rfl⟩
        exact ih c hc (hBounds c hc)

end TypeRef

end DeclaredApi
