import DeclaredApi.Proofs.Sorting
import DeclaredApi.SymbolTable

/-
  Symbol tables as sets of declarations.

  The candidates of a short name are the qualified names that
  were declared under it, each once and in order.  So a table
  answers alike in whatever order, and however often, the
  same types were declared.

  Main declarations:
    * `SymbolTable.mem_candidates_ofList_iff`
    * `SymbolTable.candidates_ofList_eq`
    * `SymbolTable.resolve_congr`
-/

------------------------------------------------------------
-- Declared Names
------------------------------------------------------------

namespace DeclaredApi

namespace SymbolTable

/- The names declared under a short name, as they were added. -/
def names
    (table : SymbolTable)
    (short : String) : List String :=
  (table.types.lookup short).getD []

/- A name is put behind others unless it is among them. -/
def addOnce
    (qualified : String)
    (names : List String) : List String :=
  if names.contains qualified then
    names
  else
    names ++ [qualified]

theorem mem_addOnce_iff
    {qualified name : String}
    {names : List String} :
    name ∈ addOnce qualified names ↔
      name ∈ names ∨ name = qualified := by
  unfold addOnce
  split
  · next hContains =>
      have hMem : qualified ∈ names := by simpa using hContains
      constructor
      · exact Or.inl
      · rintro (hName | rfl)
        · exact hName
        · exact hMem
  · rw [List.mem_append, List.mem_singleton]

theorem nodup_addOnce
    {qualified : String}
    {names : List String}
    (hNodup : names.Nodup) :
    (addOnce qualified names).Nodup := by
  unfold addOnce
  split
  · exact hNodup
  · next hContains =>
      have hNew : qualified ∉ names := by simpa using hContains
      apply List.nodup_append.mpr
      refine ⟨hNodup, List.nodup_singleton qualified, ?_⟩
      intro a ha b hb hEq
      rw [List.mem_singleton.mp hb] at hEq
      exact hNew (hEq ▸ ha)

theorem lookup_addName
    (short qualified : String)
    (types : List (String × List String))
    (other : String) :
    (addName short qualified types).lookup other =
      if other = short then
        some (addOnce qualified ((types.lookup short).getD []))
      else
        types.lookup other := by
  induction types with
  | nil =>
      rw [addName, List.lookup_cons]
      by_cases hOther : other = short
      · rw [if_pos hOther, beq_iff_eq.mpr hOther]
        rfl
      · rw [if_neg hOther, beq_eq_false_iff_ne.mpr hOther]
  | cons entry types ih =>
      rcases entry with ⟨key, names⟩
      by_cases hKey : key = short
      · have hAdd :
            addName short qualified ((key, names) :: types) =
              (key, addOnce qualified names) :: types := by
          rw [addName, if_pos hKey, addOnce]
          split <;> rfl
        rw [hAdd, List.lookup_cons, List.lookup_cons,
          List.lookup_cons, hKey, beq_self_eq_true]
        by_cases hOther : other = short
        · rw [if_pos hOther, beq_iff_eq.mpr hOther]
          rfl
        · rw [if_neg hOther, beq_eq_false_iff_ne.mpr hOther]
      · have hShort : (short == key) = false :=
          beq_eq_false_iff_ne.mpr (Ne.symm hKey)
        rw [addName, if_neg hKey, List.lookup_cons,
          List.lookup_cons, List.lookup_cons, hShort, ih]
        by_cases hOther : other = short
        · rw [if_pos hOther, hOther, hShort, if_pos rfl]
        · rw [if_neg hOther, if_neg hOther]

/- A declaration adds its name to one short name, once. -/
theorem names_add
    (short qualified : String)
    (table : SymbolTable)
    (other : String) :
    (table.add short qualified).names other =
      if other = short then
        addOnce qualified (table.names short)
      else
        table.names other := by
  rw [names, add, lookup_addName]
  split
  · rfl
  · rfl

/- What was declared in a table, and what is declared next. -/
theorem mem_names_foldl_iff
    (types : List (String × String))
    (table : SymbolTable)
    (short name : String) :
    name ∈
        (types.foldl (fun table t => table.add t.1 t.2)
          table).names short ↔
      name ∈ table.names short ∨ (short, name) ∈ types := by
  induction types generalizing table with
  | nil => simp
  | cons t types ih =>
      rw [List.foldl_cons, ih, names_add, List.mem_cons,
        Prod.ext_iff, ← or_assoc]
      split
      · next hShort =>
          subst hShort
          simp [mem_addOnce_iff]
      · next hShort => simp [hShort]

theorem nodup_names_foldl
    (types : List (String × String))
    (table : SymbolTable)
    (short : String)
    (hNodup : ∀ other, (table.names other).Nodup) :
    ((types.foldl (fun table t => table.add t.1 t.2)
      table).names short).Nodup := by
  induction types generalizing table with
  | nil => exact hNodup short
  | cons t types ih =>
      rw [List.foldl_cons]
      apply ih
      intro other
      rw [names_add]
      split
      · exact nodup_addOnce (hNodup t.1)
      · exact hNodup other

theorem mem_names_ofList_iff
    {types : List (String × String)}
    {short name : String} :
    name ∈ (ofList types).names short ↔
      (short, name) ∈ types := by
  rw [ofList, mem_names_foldl_iff]
  exact or_iff_right List.not_mem_nil

theorem nodup_names_ofList
    (types : List (String × String))
    (short : String) :
    ((ofList types).names short).Nodup :=
  nodup_names_foldl types {} short fun _ => List.nodup_nil

end SymbolTable

end DeclaredApi

------------------------------------------------------------
-- Candidates
------------------------------------------------------------

namespace DeclaredApi

namespace SymbolTable

/- The candidates of a short name are its declarations. -/
theorem mem_candidates_ofList_iff
    {types : List (String × String)}
    {short name : String} :
    name ∈ (ofList types).candidates short ↔
      (short, name) ∈ types := by
  rw [candidates, (Sorting.perm_sort _ _).mem_iff]
  exact mem_names_ofList_iff

/- Order and repetition of declarations do not matter. -/
theorem candidates_ofList_eq
    {types others : List (String × String)}
    (hSame : ∀ t, t ∈ others ↔ t ∈ types)
    (short : String) :
    (ofList others).candidates short =
      (ofList types).candidates short := by
  apply Sorting.sort_textLess_eq_of_perm
  apply (List.perm_ext_iff_of_nodup
    (nodup_names_ofList others short)
    (nodup_names_ofList types short)).mpr
  intro name
  exact mem_names_ofList_iff.trans
    ((hSame _).trans mem_names_ofList_iff.symm)

/- A table answers by the candidates of short names. -/
theorem resolve_congr
    {table other : SymbolTable}
    {short : String}
    (hCandidates :
      other.candidates short = table.candidates short)
    (file : FileContext) :
    other.resolve short file = table.resolve short file := by
  unfold resolve
  rw [hCandidates]

end SymbolTable

end DeclaredApi
