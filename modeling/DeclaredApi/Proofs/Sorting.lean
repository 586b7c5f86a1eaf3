import Mathlib.Data.List.Sort
import Mathlib.Data.String.Basic
import DeclaredApi.Sorting

/-
  Sorting by keys.

  Sorted elements have their keys in order, and those of one
  key stay in the order in which they were given.  So that
  order matters between elements of one key only, and not at
  all if no two of them have the same key.

  Main declarations:
    * `Sorting.sort_eq_insertionSort`
    * `Sorting.perm_sort`
    * `Sorting.OrdersBy`
    * `Sorting.pairwise_sort`
    * `Sorting.filter_key_sort`
    * `Sorting.map_sort_eq_iff`
    * `Sorting.sort_keyLess_eq_of_perm`
    * `Sorting.sort_textLess_eq_of_perm`
-/

------------------------------------------------------------
-- Sorted Lists
------------------------------------------------------------

namespace DeclaredApi

namespace Sorting

variable {α : Type}

theorem insert_eq_orderedInsert
    (less : α → α → Bool)
    (a : α)
    (as : List α) :
    insert less a as =
      as.orderedInsert (fun a b => less b a = false) a := by
  induction as with
  | nil => rfl
  | cons b bs ih =>
      rw [insert, List.orderedInsert_cons, ih]
      by_cases hLess : less b a = true
      · rw [if_pos hLess, if_neg (by simp [hLess])]
      · rw [if_neg hLess, if_pos (by simpa using hLess)]

/- Elements are inserted one after the other. -/
theorem sort_eq_insertionSort
    (less : α → α → Bool)
    (as : List α) :
    sort less as =
      as.insertionSort (fun a b => less b a = false) := by
  induction as with
  | nil => rfl
  | cons a as ih =>
      rw [sort, ih, insert_eq_orderedInsert]
      rfl

theorem perm_sort
    (less : α → α → Bool)
    (as : List α) :
    (sort less as).Perm as := by
  rw [sort_eq_insertionSort]
  exact List.perm_insertionSort _ as

end Sorting

end DeclaredApi

------------------------------------------------------------
-- Orders by Keys
------------------------------------------------------------

namespace DeclaredApi

namespace Sorting

variable {α κ : Type}
variable [LinearOrder κ]
variable {less : α → α → Bool}
variable {key : α → κ}

/- Elements are compared by their keys. -/
def OrdersBy
    (less : α → α → Bool)
    (key : α → κ) : Prop :=
  ∀ a b, less a b = true ↔ key a < key b

theorem OrdersBy.eq_false_iff
    {a b : α}
    (hOrders : OrdersBy less key) :
    less b a = false ↔ key a ≤ key b := by
  rw [← Bool.not_eq_true, hOrders b a, not_lt]

/- Texts of elements are keys. -/
theorem ordersBy_keyLess
    (key : α → String) :
    OrdersBy (keyLess key) key :=
  fun _ _ => decide_eq_true_iff

/- Lists of texts are compared item by item. -/
theorem listLess_eq_true_iff
    {as bs : List String} :
    listLess as bs = true ↔ as < bs := by
  induction as generalizing bs with
  | nil =>
      cases bs with
      | nil => simp [listLess]
      | cons b bs => simp [listLess]
  | cons a as ih =>
      cases bs with
      | nil => simp [listLess]
      | cons b bs =>
          rw [listLess, List.cons_lt_cons_iff]
          by_cases hSame : a = b
          · simp [hSame, ih]
          · simp [hSame, textLess]

/- Lists of texts of elements are keys as well. -/
theorem ordersBy_listLess
    (key : α → List String) :
    OrdersBy (fun a b => listLess (key a) (key b)) key :=
  fun _ _ => listLess_eq_true_iff

/- Sorted elements have their keys in order. -/
theorem pairwise_sort
    (hOrders : OrdersBy less key)
    (as : List α) :
    (sort less as).Pairwise (fun a b => key a ≤ key b) := by
  have hTotal : Std.Total (fun a b => less b a = false) :=
    ⟨fun a b => by
      simpa only [hOrders.eq_false_iff] using
        le_total (key a) (key b)⟩
  have hTrans : IsTrans α (fun a b => less b a = false) :=
    ⟨fun a b c => by
      simpa only [hOrders.eq_false_iff] using le_trans⟩
  have hSorted :=
    List.pairwise_insertionSort
      (fun a b => less b a = false) as
  rw [sort_eq_insertionSort]
  exact hSorted.imp hOrders.eq_false_iff.mp

/-
  The order in which elements were given does not matter if
  no two of them have the same key.
-/
theorem sort_eq_of_perm
    {as bs : List α}
    (hOrders : OrdersBy less key)
    (hPerm : as.Perm bs)
    (hApart : ∀ a ∈ as, ∀ b ∈ as, key a = key b → a = b) :
    sort less as = sort less bs := by
  have hSorted : (sort less as).Perm (sort less bs) :=
    (perm_sort _ as).trans (hPerm.trans (perm_sort _ bs).symm)
  refine List.Perm.eq_of_pairwise ?_
    (pairwise_sort hOrders as)
    (pairwise_sort hOrders bs) hSorted
  intro a b ha hb hLe hGe
  have hA : a ∈ as := (perm_sort _ as).mem_iff.mp ha
  have hB : b ∈ as :=
    hPerm.mem_iff.mpr ((perm_sort _ bs).mem_iff.mp hb)
  exact hApart a hA b hB (le_antisymm hLe hGe)

theorem sort_keyLess_eq_of_perm
    {key : α → String}
    {as bs : List α}
    (hPerm : as.Perm bs)
    (hApart : ∀ a ∈ as, ∀ b ∈ as, key a = key b → a = b) :
    sort (keyLess key) as = sort (keyLess key) bs :=
  sort_eq_of_perm (ordersBy_keyLess key) hPerm hApart

/- Texts themselves have one order. -/
theorem sort_textLess_eq_of_perm
    {as bs : List String}
    (hPerm : as.Perm bs) :
    sort textLess as = sort textLess bs :=
  @sort_keyLess_eq_of_perm _ id _ _ hPerm
    (fun _ _ _ _ hEq => hEq)

end Sorting

end DeclaredApi

------------------------------------------------------------
-- Elements of One Key
------------------------------------------------------------

namespace DeclaredApi

namespace Sorting

variable {α β κ : Type}
variable [LinearOrder κ] [DecidableEq κ]
variable {less : α → α → Bool}
variable {key : α → κ}

/- An element comes before those of its own key. -/
theorem filter_key_insert
    (hOrders : OrdersBy less key)
    (k : κ)
    (a : α)
    (as : List α) :
    (insert less a as).filter (fun b => key b = k) =
      (a :: as).filter (fun b => key b = k) := by
  induction as with
  | nil => rfl
  | cons b as ih =>
      rw [insert]
      split
      · next hLess =>
          have hApart : key b ≠ key a :=
            ne_of_lt ((hOrders b a).mp hLess)
          rw [List.filter_cons, ih]
          by_cases hKey : key a = k
          · have hOther : key b ≠ k := hKey ▸ hApart
            simp [hKey, hOther]
          · simp [List.filter_cons, hKey]
      · rfl

/- Elements of one key stay in the order they were given. -/
theorem filter_key_sort
    (hOrders : OrdersBy less key)
    (k : κ)
    (as : List α) :
    (sort less as).filter (fun a => key a = k) =
      as.filter (fun a => key a = k) := by
  induction as with
  | nil => rfl
  | cons a as ih =>
      rw [sort, filter_key_insert hOrders, List.filter_cons,
        List.filter_cons, ih]

/- Elements that agree on each key are the same elements. -/
omit [LinearOrder κ] in
theorem mem_iff_of_filter_key
    {as bs : List α}
    (hKeys :
      ∀ k,
        as.filter (fun a => key a = k) =
          bs.filter (fun b => key b = k))
    (c : α) :
    c ∈ as ↔ c ∈ bs := by
  have hSame := congrArg (c ∈ ·) (hKeys (key c))
  simpa using hSame

/- Lists in order are put together from their keys. -/
theorem eq_of_filter_key
    {as bs : List α}
    (hFirst : as.Pairwise (fun a b => key a ≤ key b))
    (hSecond : bs.Pairwise (fun a b => key a ≤ key b))
    (hKeys :
      ∀ k,
        as.filter (fun a => key a = k) =
          bs.filter (fun b => key b = k)) :
    as = bs := by
  induction as generalizing bs with
  | nil =>
      cases bs with
      | nil => rfl
      | cons b bs =>
          have hMem := mem_iff_of_filter_key hKeys b
          exact absurd (hMem.mpr List.mem_cons_self)
            List.not_mem_nil
  | cons a as ih =>
      have hMem := mem_iff_of_filter_key hKeys
      cases bs with
      | nil =>
          exact absurd ((hMem a).mp List.mem_cons_self)
            List.not_mem_nil
      | cons b bs =>
          rw [List.pairwise_cons] at hFirst hSecond
          -- both heads have the least key
          have hLe : key a ≤ key b := by
            rcases List.mem_cons.mp
                ((hMem b).mpr List.mem_cons_self) with
              rfl | hTail
            · exact le_refl _
            · exact hFirst.1 b hTail
          have hGe : key b ≤ key a := by
            rcases List.mem_cons.mp
                ((hMem a).mp List.mem_cons_self) with
              rfl | hTail
            · exact le_refl _
            · exact hSecond.1 a hTail
          have hKey : key b = key a := le_antisymm hGe hLe
          have hHead : a = b := by
            have hSame := hKeys (key a)
            simp only [List.filter_cons, hKey] at hSame
            exact (List.cons.inj (by simpa using hSame)).1
          subst hHead
          have hRest :
              ∀ k,
                as.filter (fun c => key c = k) =
                  bs.filter (fun c => key c = k) := by
            intro k
            have hSame := hKeys k
            rw [List.filter_cons, List.filter_cons] at hSame
            split at hSame
            · exact (List.cons.inj hSame).2
            · exact hSame
          rw [ih hFirst.2 hSecond.2 hRest]

/- Every arrangement of the same elements has the same keys. -/
omit [DecidableEq κ] in
theorem map_key_sort_eq
    {as bs : List α}
    (hOrders : OrdersBy less key)
    (hPerm : as.Perm bs) :
    (sort less as).map key = (sort less bs).map key := by
  have hSorted : (sort less as).Perm (sort less bs) :=
    (perm_sort _ as).trans (hPerm.trans (perm_sort _ bs).symm)
  refine List.Perm.eq_of_pairwise
    (fun _ _ _ _ => le_antisymm) ?_ ?_ (hSorted.map key)
  · rw [List.pairwise_map]
    exact pairwise_sort hOrders as
  · rw [List.pairwise_map]
    exact pairwise_sort hOrders bs

/- The forms of one key, beside it. -/
omit [LinearOrder κ] in
theorem filter_map_key
    (form : α → β)
    (k : κ)
    (as : List α) :
    (as.map (fun a => (key a, form a))).filter
        (fun p => p.1 = k) =
      ((as.filter (fun a => key a = k)).map form).map
        (fun x => (k, x)) := by
  rw [List.filter_map, List.map_map]
  apply List.map_congr_left
  intro a ha
  have hKey : key a = k := by
    simpa using (List.mem_filter.mp ha).2
  simp [hKey]

/-
  Two arrangements of the same elements are sorted to the
  same forms exactly if they have the elements of each key in
  the same order, as far as their forms show it.
-/
theorem map_sort_eq_iff
    {as bs : List α}
    (hOrders : OrdersBy less key)
    (hPerm : as.Perm bs)
    (form : α → β) :
    (sort less as).map form = (sort less bs).map form ↔
      ∀ k,
        (as.filter (fun a => key a = k)).map form =
          (bs.filter (fun b => key b = k)).map form := by
  constructor
  · intro hSorted k
    have hPairs :
        (sort less as).map (fun c => (key c, form c)) =
          (sort less bs).map (fun c => (key c, form c)) := by
      rw [← List.zip_map', ← List.zip_map', hSorted,
        map_key_sort_eq hOrders hPerm]
    have hFiltered :=
      congrArg (List.filter (fun p => p.1 = k)) hPairs
    rw [filter_map_key, filter_map_key,
      filter_key_sort hOrders, filter_key_sort hOrders]
      at hFiltered
    exact (List.map_injective_iff.mpr
      (Prod.mk_right_injective k)) hFiltered
  · intro hKeys
    have hOrdered :
        ∀ cs : List α,
          ((sort less cs).map
              (fun c => (key c, form c))).Pairwise
            (fun p q => p.1 ≤ q.1) := by
      intro cs
      rw [List.pairwise_map]
      exact pairwise_sort hOrders cs
    have hPairs :
        (sort less as).map (fun c => (key c, form c)) =
          (sort less bs).map (fun c => (key c, form c)) := by
      refine eq_of_filter_key (hOrdered as) (hOrdered bs) ?_
      intro k
      rw [filter_map_key, filter_map_key,
        filter_key_sort hOrders, filter_key_sort hOrders,
        hKeys]
    have hSeconds := congrArg (List.map Prod.snd) hPairs
    rw [List.map_map, List.map_map] at hSeconds
    exact hSeconds

end Sorting

end DeclaredApi
