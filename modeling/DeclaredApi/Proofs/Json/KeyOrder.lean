import Mathlib.Data.List.Perm.Subperm
import DeclaredApi.Json.Printer
import DeclaredApi.Proofs.Json.Value
import DeclaredApi.Proofs.Sorting

/-
  Values up to the order of keys.

  Two values are the same if their lists agree item by item
  and their objects have the same keys with the same values,
  in whatever order.  Values of JSON are the same exactly if
  they are equal once their keys are in order, so that the
  text of a document depends on its value only.

  Main declarations:
    * `Json.Plain`
    * `Json.integers`
    * `Json.same`
    * `Json.same_iff_sorted_eq`
    * `Json.sorted_sorted`
    * `Json.serialize_eq_of_same`
    * `Json.firstError?_eq_none_iff`
-/

------------------------------------------------------------
-- Values of JSON
------------------------------------------------------------

namespace DeclaredApi

namespace Json

/-
  Values that are built from null, booleans, integers, texts,
  lists and objects with different keys.
-/
inductive Plain : Json → Prop
| null : Plain .null
| bool (value : Bool) : Plain (.bool value)
| int (value : Int) : Plain (.int value)
| str (value : String) : Plain (.str value)
| list
    (items : List Json)
    (hItems : ∀ item ∈ items, Plain item) :
    Plain (.list items)
| object
    (fields : List (String × Json))
    (hKeys : (fields.map Prod.fst).Nodup)
    (hFields : ∀ field ∈ fields, Plain field.2) :
    Plain (.object fields)

mutual

/- The integers anywhere in a value. -/
def integers : Json → List Int
| .int value => [value]
| .list items => integersIn items
| .object fields => integersOf fields
| _ => []

/- The integers anywhere in the items of a list. -/
def integersIn : List Json → List Int
| [] => []
| v :: vs => integers v ++ integersIn vs

/- The integers anywhere in the values of some fields. -/
def integersOf : List (String × Json) → List Int
| [] => []
| (_, v) :: rest => integers v ++ integersOf rest

end

mutual

/-
  Values are equal whatever the order of their keys.  A
  boolean is no integer here.
-/
def same : Json → Json → Bool
| .null, .null => true
| .bool a, .bool b => a == b
| .int a, .int b => a == b
| .float a, .float b => a == b
| .str a, .str b => a == b
| .list as, .list bs => sameItems as bs
| .object as, .object bs =>
    as.length == bs.length && sameFields as bs
| _, _ => false

/- The items of two lists are the same, one by one. -/
def sameItems : List Json → List Json → Bool
| [], [] => true
| a :: as, b :: bs => same a b && sameItems as bs
| _, _ => false

/- Each field has the same value under its key elsewhere. -/
def sameFields :
    List (String × Json) → List (String × Json) → Bool
| [], _ => true
| (key, a) :: rest, others =>
    (match others.lookup key with
      | some b => same a b
      | none => false) && sameFields rest others

end

end Json

end DeclaredApi

------------------------------------------------------------
-- Sorted Parts
------------------------------------------------------------

namespace DeclaredApi

namespace Json

variable {fields others : List (String × Json)}

/- A field whose value has its keys in order. -/
def sortedField (field : String × Json) : String × Json :=
  (field.1, field.2.sorted)

theorem sortedAll_eq_map (items : List Json) :
    sortedAll items = items.map sorted := by
  induction items with
  | nil => rfl
  | cons v vs ih => rw [sortedAll, ih, List.map_cons]

theorem sortedFields_eq_sort
    (fields : List (String × Json)) :
    sortedFields fields =
      Sorting.sort (Sorting.keyLess Prod.fst)
        (fields.map sortedField) := by
  induction fields with
  | nil => rfl
  | cons field fields ih =>
      rw [sortedFields, ih]
      rfl

theorem perm_sortedFields
    (fields : List (String × Json)) :
    (sortedFields fields).Perm (fields.map sortedField) := by
  rw [sortedFields_eq_sort]
  exact Sorting.perm_sort _ _

/- Sorting values leaves the keys of fields as they are. -/
theorem map_fst_sortedField
    (fields : List (String × Json)) :
    (fields.map sortedField).map Prod.fst =
      fields.map Prod.fst := by
  rw [List.map_map]
  rfl

theorem perm_keys_sortedFields
    (fields : List (String × Json)) :
    ((sortedFields fields).map Prod.fst).Perm
      (fields.map Prod.fst) := by
  rw [← map_fst_sortedField fields]
  exact (perm_sortedFields fields).map Prod.fst

/- Fields with different keys are told apart by these. -/
theorem eq_of_key_eq
    (hKeys : (fields.map Prod.fst).Nodup) :
    ∀ a ∈ fields, ∀ b ∈ fields, a.1 = b.1 → a = b :=
  fun _ hA _ hB hSame =>
    List.inj_on_of_nodup_map hKeys hA hB hSame

/- Fields in order are given by the fields, not their order. -/
theorem sortedFields_eq_iff
    (hKeys : (fields.map Prod.fst).Nodup) :
    sortedFields fields = sortedFields others ↔
      (fields.map sortedField).Perm
        (others.map sortedField) := by
  constructor
  · intro hSame
    exact (perm_sortedFields fields).symm.trans
      (hSame ▸ perm_sortedFields others)
  · intro hPerm
    rw [sortedFields_eq_sort, sortedFields_eq_sort]
    rw [← map_fst_sortedField] at hKeys
    exact Sorting.sort_keyLess_eq_of_perm hPerm
      (eq_of_key_eq hKeys)

theorem plain_sorted
    {value : Json}
    (hPlain : value.Plain) :
    value.sorted.Plain := by
  induction hPlain with
  | null => exact .null
  | bool value => exact .bool value
  | int value => exact .int value
  | str value => exact .str value
  | list items hItems ih =>
      rw [sorted, sortedAll_eq_map]
      refine .list _ ?_
      simpa only [List.forall_mem_map] using ih
  | object fields hKeys hFields ih =>
      rw [sorted]
      refine .object _
        ((perm_keys_sortedFields fields).nodup_iff.mpr hKeys) ?_
      intro field hMem
      rcases List.mem_map.mp
        ((perm_sortedFields fields).mem_iff.mp hMem) with
        ⟨source, hSource, rfl⟩
      exact ih source hSource

/- Keys that are in order stay as they are. -/
theorem sorted_sorted
    {value : Json}
    (hPlain : value.Plain) :
    value.sorted.sorted = value.sorted := by
  induction hPlain with
  | null => rfl
  | bool value => rfl
  | int value => rfl
  | str value => rfl
  | list items hItems ih =>
      simp only [sorted, sortedAll_eq_map, List.map_map]
      exact congrArg Json.list (List.map_congr_left ih)
  | object fields hKeys hFields ih =>
      have hSortedKeys :
          ((sortedFields fields).map Prod.fst).Nodup :=
        (perm_keys_sortedFields fields).nodup_iff.mpr hKeys
      have hAgain :
          ((fields.map sortedField).map sortedField) =
            fields.map sortedField := by
        rw [List.map_map]
        exact List.map_congr_left
          (fun field hMem => congrArg (field.1, ·) (ih field hMem))
      have hPerm :=
        (perm_sortedFields fields).map sortedField
      rw [hAgain] at hPerm
      rw [sorted, sorted, (sortedFields_eq_iff hSortedKeys).mpr hPerm]

end Json

end DeclaredApi

------------------------------------------------------------
-- The Same Values
------------------------------------------------------------

namespace DeclaredApi

namespace Json

variable {as bs : List (String × Json)}

/- A value is found under its key. -/
theorem lookup_eq_some_iff_mem
    {fields : List (String × Json)}
    {key : String}
    {value : Json}
    (hKeys : (fields.map Prod.fst).Nodup) :
    fields.lookup key = some value ↔ (key, value) ∈ fields := by
  rw [List.lookup_eq_some_iff]
  constructor
  · rintro ⟨before, after, rfl, _⟩
    exact List.mem_append_right _ List.mem_cons_self
  · intro hMem
    rcases List.append_of_mem hMem with ⟨before, after, rfl⟩
    refine ⟨before, after, rfl, fun field hField => ?_⟩
    rw [List.map_append, List.nodup_append] at hKeys
    exact bne_iff_ne.mpr
      (hKeys.2.2 _ (List.mem_map_of_mem hField) _
        List.mem_cons_self).symm

/- Each field is looked up by its key. -/
theorem sameFields_iff :
    sameFields as bs = true ↔
      ∀ a ∈ as, ∃ b,
        bs.lookup a.1 = some b ∧ a.2.same b = true := by
  induction as with
  | nil => simp [sameFields]
  | cons a as ih =>
      rw [sameFields, Bool.and_eq_true, ih, List.forall_mem_cons]
      refine and_congr_left (fun _ => ?_)
      cases bs.lookup a.1 <;> simp

/- Items are the same if they are equal in order. -/
theorem sameItems_iff_map_eq
    {as bs : List Json}
    (hItems :
      ∀ a ∈ as, ∀ b ∈ bs,
        a.same b = true ↔ a.sorted = b.sorted) :
    sameItems as bs = true ↔ as.map sorted = bs.map sorted := by
  induction as generalizing bs with
  | nil => cases bs <;> simp [sameItems]
  | cons a as ih =>
      cases bs with
      | nil => simp [sameItems]
      | cons b bs =>
          rw [sameItems, Bool.and_eq_true, List.map_cons,
            List.map_cons, List.cons.injEq,
            hItems a List.mem_cons_self b List.mem_cons_self,
            ih (fun a hA b hB =>
              hItems a (List.mem_cons_of_mem _ hA) b
                (List.mem_cons_of_mem _ hB))]

/- Fields are the same if in order they are the same fields. -/
theorem sameFields_iff_perm
    (hAs : (as.map Prod.fst).Nodup)
    (hBs : (bs.map Prod.fst).Nodup)
    (hFields :
      ∀ a ∈ as, ∀ b ∈ bs,
        a.2.same b.2 = true ↔ a.2.sorted = b.2.sorted) :
    as.length = bs.length ∧ sameFields as bs = true ↔
      (as.map sortedField).Perm (bs.map sortedField) := by
  rw [sameFields_iff]
  constructor
  · rintro ⟨hLength, hFound⟩
    have hNodup : (as.map sortedField).Nodup := by
      rw [← map_fst_sortedField] at hAs
      exact hAs.of_map
    have hSubset :
        as.map sortedField ⊆ bs.map sortedField := by
      intro field hMem
      rcases List.mem_map.mp hMem with ⟨a, hA, rfl⟩
      rcases hFound a hA with ⟨b, hLookup, hSame⟩
      have hB := (lookup_eq_some_iff_mem hBs).mp hLookup
      refine List.mem_map.mpr ⟨(a.1, b), hB, ?_⟩
      exact congrArg (a.1, ·) ((hFields a hA _ hB).mp hSame).symm
    refine (List.subperm_of_subset hNodup hSubset).perm_of_length_le ?_
    rw [List.length_map, List.length_map, hLength]
  · intro hPerm
    have hLength := hPerm.length_eq
    rw [List.length_map, List.length_map] at hLength
    refine ⟨hLength, fun a hA => ?_⟩
    rcases List.mem_map.mp
      (hPerm.mem_iff.mp (List.mem_map_of_mem hA)) with
      ⟨b, hB, hSorted⟩
    rcases Prod.ext_iff.mp hSorted with ⟨hKey, hValue⟩
    refine ⟨b.2, ?_, (hFields a hA b hB).mpr hValue.symm⟩
    rw [← show b.1 = a.1 from hKey]
    exact (lookup_eq_some_iff_mem hBs).mpr hB

/-
  Values are the same exactly if they are equal once their
  keys are in order.
-/
theorem same_iff_sorted_eq
    {a b : Json}
    (hA : a.Plain)
    (hB : b.Plain) :
    a.same b = true ↔ a.sorted = b.sorted := by
  induction hA generalizing b with
  | null => cases hB <;> simp [same, sorted]
  | bool value => cases hB <;> simp [same, sorted]
  | int value => cases hB <;> simp [same, sorted]
  | str value => cases hB <;> simp [same, sorted]
  | list items hItems ih =>
      cases hB with
      | list others hOthers =>
          rw [same, sorted, sorted, Json.list.injEq,
            sortedAll_eq_map, sortedAll_eq_map]
          exact sameItems_iff_map_eq
            (fun a hA b hB => ih a hA (hOthers b hB))
      | _ => simp [same, sorted]
  | object fields hKeys hFields ih =>
      cases hB with
      | object others hOtherKeys hOthers =>
          rw [same, sorted, sorted, Json.object.injEq,
            sortedFields_eq_iff hKeys, Bool.and_eq_true,
            beq_iff_eq]
          exact sameFields_iff_perm hKeys hOtherKeys
            (fun a hA b hB => ih a hA (hOthers b hB))
      | _ => simp [same, sorted]

/- The order of keys makes no difference to a value. -/
theorem same_sorted
    {value : Json}
    (hPlain : value.Plain) :
    value.sorted.same value = true :=
  (same_iff_sorted_eq (plain_sorted hPlain) hPlain).mpr
    (sorted_sorted hPlain)

end Json

end DeclaredApi

------------------------------------------------------------
-- Refused Documents
------------------------------------------------------------

namespace DeclaredApi

namespace Json

theorem integersIn_eq_flatMap (items : List Json) :
    integersIn items = items.flatMap integers := by
  induction items with
  | nil => rfl
  | cons v vs ih => rw [integersIn, ih, List.flatMap_cons]

theorem integersOf_eq_flatMap
    (fields : List (String × Json)) :
    integersOf fields =
      fields.flatMap (fun field => field.2.integers) := by
  induction fields with
  | nil => rfl
  | cons field fields ih =>
      rw [integersOf, ih, List.flatMap_cons]

/- The order of keys adds no integer and removes none. -/
theorem mem_integers_sorted
    {value : Json}
    {n : Int} :
    n ∈ value.sorted.integers ↔ n ∈ value.integers := by
  induction value with
  | null | bool | int | float | str | foreign => rfl
  | list items ih =>
      rw [sorted, integers, integers, sortedAll_eq_map,
        integersIn_eq_flatMap, integersIn_eq_flatMap,
        List.flatMap_map, List.mem_flatMap, List.mem_flatMap]
      exact exists_congr
        (fun item => and_congr_right (fun hMem => ih item hMem))
  | object fields ih =>
      rw [sorted, integers, integers, integersOf_eq_flatMap,
        integersOf_eq_flatMap,
        ((perm_sortedFields fields).flatMap_right _).mem_iff,
        List.flatMap_map, List.mem_flatMap, List.mem_flatMap]
      exact exists_congr
        (fun field => and_congr_right (fun hMem => ih field hMem))

theorem firstErrorIn?_eq_findSome? (items : List Json) :
    firstErrorIn? items = items.findSome? firstError? := by
  induction items with
  | nil => rfl
  | cons v vs ih =>
      rw [firstErrorIn?, ih, List.findSome?_cons]
      cases v.firstError? <;> rfl

theorem firstErrorField?_eq_findSome?
    (fields : List (String × Json)) :
    firstErrorField? fields =
      fields.findSome? (fun field => field.2.firstError?) := by
  induction fields with
  | nil => rfl
  | cons field fields ih =>
      rw [firstErrorField?, ih, List.findSome?_cons]
      cases field.2.firstError? <;> rfl

/- A value of JSON has a text if its integers are short. -/
theorem firstError?_eq_none_iff
    {value : Json}
    (hPlain : value.Plain) :
    value.firstError? = none ↔
      ∀ n ∈ value.integers, n.natAbs < 10 ^ digitLimit := by
  induction hPlain with
  | null => simp [firstError?, integers]
  | bool value => simp [firstError?, integers]
  | int value => simp [firstError?, integers]
  | str value => simp [firstError?, integers]
  | list items hItems ih =>
      rw [firstError?, integers, firstErrorIn?_eq_findSome?,
        integersIn_eq_flatMap, List.findSome?_eq_none_iff,
        List.forall_mem_flatMap]
      exact forall₂_congr ih
  | object fields hKeys hFields ih =>
      rw [firstError?, integers, firstErrorField?_eq_findSome?,
        integersOf_eq_flatMap, List.findSome?_eq_none_iff,
        List.forall_mem_flatMap]
      exact forall₂_congr ih

/- Nothing but a long integer stops a value of JSON. -/
theorem eq_longInteger_of_firstError?
    {value : Json}
    {e : SerializeError}
    (hPlain : value.Plain)
    (hError : value.firstError? = some e) :
    e = .longInteger := by
  induction hPlain with
  | null | bool | str => cases hError
  | int value =>
      rw [firstError?] at hError
      split at hError
      · exact (Option.some.inj hError).symm
      · cases hError
  | list items hItems ih =>
      rw [firstError?, firstErrorIn?_eq_findSome?] at hError
      rcases List.exists_of_findSome?_eq_some hError with
        ⟨item, hMem, hItem⟩
      exact ih item hMem hItem
  | object fields hKeys hFields ih =>
      rw [firstError?, firstErrorField?_eq_findSome?] at hError
      rcases List.exists_of_findSome?_eq_some hError with
        ⟨field, hMem, hField⟩
      exact ih field hMem hField

/-
  A document of JSON is written as its value with the keys in
  order, unless an integer is too long.
-/
theorem serialize_cases
    {value : Json}
    (hPlain : value.Plain) :
    (serialize value = .ok value.sorted.pretty ∧
      ∀ n ∈ value.integers, n.natAbs < 10 ^ digitLimit) ∨
      (serialize value = .error .longInteger ∧
        ∃ n ∈ value.integers, 10 ^ digitLimit ≤ n.natAbs) := by
  have hSorted := plain_sorted hPlain
  rw [serialize]
  cases hError : value.sorted.firstError? with
  | none =>
      refine Or.inl ⟨rfl, ?_⟩
      simpa only [mem_integers_sorted] using
        (firstError?_eq_none_iff hSorted).mp hError
  | some e =>
      refine Or.inr ⟨?_, ?_⟩
      · exact congrArg Except.error
          (eq_longInteger_of_firstError? hSorted hError)
      · by_contra hShort
        push Not at hShort
        have hNone := (firstError?_eq_none_iff hSorted).mpr
          (by simpa only [mem_integers_sorted] using hShort)
        rw [hNone] at hError
        cases hError

/- The text of a document depends on its value only. -/
theorem serialize_eq_of_same
    {value other : Json}
    (hPlain : value.Plain)
    (hOther : other.Plain)
    (hSame : other.same value = true) :
    serialize other = serialize value := by
  rw [serialize, serialize,
    (same_iff_sorted_eq hOther hPlain).mp hSame]

end Json

end DeclaredApi
