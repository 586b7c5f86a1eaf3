import Mathlib.Data.List.Forall2

/-
  Results of computations that may fail.

  A computation in steps succeeds exactly when each step
  does, and one over a list when it does for each element.
  It fails with the error of the first step that does.
  Results can be compared.

  Main declarations:
    * `Result.bind_eq_ok_iff`
    * `Result.mapM_congr`
    * `Result.exists_mem_of_mapM`
    * `Result.exists_of_mem_mapM`
    * `Result.mapM_eq_ok_map`
    * `Result.forall₂_of_mapM`
    * `Result.exists_forall₂_of_mapM`
    * `Result.exists_mapM_of_perm`
    * `Result.mapM_perm_cases`
    * `Result.failure?_bind`
    * `Result.failure?_mapM`
    * `Result.failure?_mapM_flatMap`
    * `Result.decEq`
-/

------------------------------------------------------------
-- Steps
------------------------------------------------------------

namespace DeclaredApi

namespace Result

variable {ε α β : Type}

/- Two steps succeed when the first and then the second do. -/
theorem bind_eq_ok_iff
    {x : Except ε α}
    {f : α → Except ε β}
    {b : β} :
    (x >>= f) = .ok b ↔ ∃ a, x = .ok a ∧ f a = .ok b := by
  cases x with
  | error e => simp [bind, Except.bind]
  | ok a => simp [bind, Except.bind]

/- A result that is no error is the value that it holds. -/
theorem eq_ok_of_isOk
    {x : Except ε α}
    (a : α)
    (hOk : x.isOk = true) :
    x = .ok (x.toOption.getD a) := by
  cases x with
  | ok b => rfl
  | error e => cases hOk

/- A result that is an error is no value. -/
theorem not_exists_of_isOk
    {x : Except ε α}
    (hError : x.isOk = false) :
    ¬ ∃ a, x = .ok a := by
  rintro ⟨a, rfl⟩
  cases hError

/- A result with a value is that value. -/
theorem eq_ok_of_toOption
    {x : Except ε α}
    {a : α}
    (hValue : x.toOption = some a) :
    x = .ok a := by
  cases x with
  | ok b => exact congrArg Except.ok (Option.some.inj hValue)
  | error e => cases hValue

end Result

end DeclaredApi

------------------------------------------------------------
-- Lists
------------------------------------------------------------

namespace DeclaredApi

namespace Result

variable {ε α β γ : Type}

/- A list is computed from its first element and the rest. -/
theorem mapM_cons_eq_ok_iff
    {f : α → Except ε β}
    {x : α}
    {xs : List α}
    {ys : List β} :
    (x :: xs).mapM f = .ok ys ↔
      ∃ z zs,
        f x = .ok z ∧ xs.mapM f = .ok zs ∧ ys = z :: zs := by
  rw [List.mapM_cons, bind_eq_ok_iff]
  constructor
  · rintro ⟨z, hZ, hRest⟩
    rcases bind_eq_ok_iff.mp hRest with ⟨zs, hZs, hPure⟩
    injection hPure with hEq
    exact ⟨z, zs, hZ, hZs, hEq.symm⟩
  · rintro ⟨z, zs, hZ, hZs, rfl⟩
    exact ⟨z, hZ, bind_eq_ok_iff.mpr ⟨zs, hZs, rfl⟩⟩

/- Along a list only the results of its elements count. -/
theorem mapM_congr
    {f g : α → Except ε β}
    {xs : List α}
    (hEach : ∀ x ∈ xs, f x = g x) :
    xs.mapM f = xs.mapM g := by
  induction xs with
  | nil => rfl
  | cons x xs ih =>
      rw [List.mapM_cons, List.mapM_cons,
        hEach x List.mem_cons_self,
        ih fun y hy => hEach y (List.mem_cons_of_mem x hy)]

/- A list succeeds when each of its elements does. -/
theorem exists_mapM
    {f : α → Except ε β}
    {xs : List α}
    (hEach : ∀ x ∈ xs, ∃ y, f x = .ok y) :
    ∃ ys, xs.mapM f = .ok ys := by
  induction xs with
  | nil => exact ⟨[], rfl⟩
  | cons x xs ih =>
      rw [List.forall_mem_cons] at hEach
      rcases hEach.1 with ⟨y, hY⟩
      rcases ih hEach.2 with ⟨ys, hYs⟩
      exact ⟨y :: ys,
        mapM_cons_eq_ok_iff.mpr ⟨y, ys, hY, hYs, rfl⟩⟩

/- Each element of a list has a result among the results. -/
theorem exists_mem_of_mapM
    {f : α → Except ε β}
    {xs : List α}
    {ys : List β}
    {x : α}
    (hMap : xs.mapM f = .ok ys)
    (hMem : x ∈ xs) :
    ∃ y ∈ ys, f x = .ok y := by
  induction xs generalizing ys with
  | nil => exact absurd hMem List.not_mem_nil
  | cons z xs ih =>
      rcases mapM_cons_eq_ok_iff.mp hMap with
        ⟨y, rest, hY, hRest, rfl⟩
      rcases List.mem_cons.mp hMem with rfl | hLater
      · exact ⟨y, List.mem_cons_self, hY⟩
      · rcases ih hRest hLater with ⟨found, hFound, hStep⟩
        exact ⟨found, List.mem_cons_of_mem y hFound, hStep⟩

/- Each result of a list comes from one of its elements. -/
theorem exists_of_mem_mapM
    {f : α → Except ε β}
    {xs : List α}
    {ys : List β}
    {y : β}
    (hMap : xs.mapM f = .ok ys)
    (hMem : y ∈ ys) :
    ∃ x ∈ xs, f x = .ok y := by
  induction xs generalizing ys with
  | nil =>
      cases hMap
      exact absurd hMem List.not_mem_nil
  | cons x xs ih =>
      rcases mapM_cons_eq_ok_iff.mp hMap with
        ⟨z, zs, hZ, hZs, rfl⟩
      rcases List.mem_cons.mp hMem with rfl | hRest
      · exact ⟨x, List.mem_cons_self, hZ⟩
      · rcases ih hZs hRest with ⟨w, hw, hEq⟩
        exact ⟨w, List.mem_cons_of_mem x hw, hEq⟩

/-
  A computation whose results are determined by those of
  another one succeeds along a list where the other does.
-/
theorem mapM_eq_ok_map
    {f : α → Except ε β}
    {g : α → Except ε γ}
    {h : γ → β}
    {xs : List α}
    {zs : List γ}
    (hStep : ∀ x ∈ xs, ∀ z, g x = .ok z → f x = .ok (h z))
    (hMap : xs.mapM g = .ok zs) :
    xs.mapM f = .ok (zs.map h) := by
  induction xs generalizing zs with
  | nil =>
      cases hMap
      rfl
  | cons x xs ih =>
      rcases mapM_cons_eq_ok_iff.mp hMap with
        ⟨z, rest, hZ, hRest, rfl⟩
      refine mapM_cons_eq_ok_iff.mpr ⟨h z, rest.map h, ?_, ?_, rfl⟩
      · exact hStep x List.mem_cons_self z hZ
      · apply ih _ hRest
        intro w hw
        exact hStep w (List.mem_cons_of_mem x hw)

/- The results of a list have what those of each have. -/
theorem forall₂_of_each
    {f : α → Except ε β}
    {related : α → β → Prop}
    {xs : List α}
    {ys : List β}
    (hEach : ∀ x ∈ xs, ∀ y, f x = .ok y → related x y)
    (hMap : xs.mapM f = .ok ys) :
    List.Forall₂ related xs ys := by
  induction xs generalizing ys with
  | nil =>
      cases hMap
      exact .nil
  | cons x xs ih =>
      rcases mapM_cons_eq_ok_iff.mp hMap with
        ⟨y, rest, hY, hRest, rfl⟩
      rw [List.forall_mem_cons] at hEach
      exact .cons (hEach.1 y hY) (ih hEach.2 hRest)

/- The results of a list are those of its elements, in order. -/
theorem forall₂_of_mapM
    {f : α → Except ε β}
    {xs : List α}
    {ys : List β}
    (hMap : xs.mapM f = .ok ys) :
    List.Forall₂ (fun x y => f x = .ok y) xs ys :=
  forall₂_of_each (fun _ _ _ hOk => hOk) hMap

/-
  A list succeeds where it does with a computation whose
  results are related to those of each element.
-/
theorem exists_forall₂_of_mapM
    {f : α → Except ε β}
    {g : α → Except ε γ}
    {related : β → γ → Prop}
    {xs : List α}
    {ys : List β}
    (hStep :
      ∀ x ∈ xs, ∀ y,
        f x = .ok y → ∃ z, g x = .ok z ∧ related y z)
    (hMap : xs.mapM f = .ok ys) :
    ∃ zs, xs.mapM g = .ok zs ∧ List.Forall₂ related ys zs := by
  induction xs generalizing ys with
  | nil =>
      cases hMap
      exact ⟨[], rfl, .nil⟩
  | cons x xs ih =>
      rcases mapM_cons_eq_ok_iff.mp hMap with
        ⟨y, others, hY, hOthers, rfl⟩
      rw [List.forall_mem_cons] at hStep
      rcases hStep.1 y hY with ⟨z, hZ, hRelated⟩
      rcases ih hStep.2 hOthers with ⟨zs, hZs, hRest⟩
      exact ⟨z :: zs,
        mapM_cons_eq_ok_iff.mpr ⟨z, zs, hZ, hZs, rfl⟩,
        .cons hRelated hRest⟩

/- A list that succeeds does so in every order. -/
theorem exists_mapM_of_perm
    {f : α → Except ε β}
    {xs ys : List α}
    {as : List β}
    (hPerm : xs.Perm ys)
    (hMap : xs.mapM f = .ok as) :
    ∃ bs, ys.mapM f = .ok bs ∧ as.Perm bs := by
  induction hPerm generalizing as with
  | nil => exact ⟨as, hMap, List.Perm.refl as⟩
  | cons x _ ih =>
      rcases mapM_cons_eq_ok_iff.mp hMap with
        ⟨a, rest, hA, hRest, rfl⟩
      rcases ih hRest with ⟨bs, hBs, hSame⟩
      exact ⟨a :: bs,
        mapM_cons_eq_ok_iff.mpr ⟨a, bs, hA, hBs, rfl⟩,
        hSame.cons a⟩
  | swap x y xs =>
      rcases mapM_cons_eq_ok_iff.mp hMap with
        ⟨b, others, hB, hOthers, rfl⟩
      rcases mapM_cons_eq_ok_iff.mp hOthers with
        ⟨a, rest, hA, hRest, rfl⟩
      refine ⟨a :: b :: rest, ?_, List.Perm.swap a b rest⟩
      exact mapM_cons_eq_ok_iff.mpr ⟨a, b :: rest, hA,
        mapM_cons_eq_ok_iff.mpr ⟨b, rest, hB, hRest, rfl⟩, rfl⟩
  | trans _ _ ihFirst ihSecond =>
      rcases ihFirst hMap with ⟨bs, hBs, hSame⟩
      rcases ihSecond hBs with ⟨cs, hCs, hNext⟩
      exact ⟨cs, hCs, hSame.trans hNext⟩

/- In two orders a list succeeds alike, or it fails in both. -/
theorem mapM_perm_cases
    {xs ys : List α}
    (f : α → Except ε β)
    (hPerm : xs.Perm ys) :
    (∃ as bs,
      xs.mapM f = .ok as ∧ ys.mapM f = .ok bs ∧ as.Perm bs) ∨
      ∃ e e', xs.mapM f = .error e ∧ ys.mapM f = .error e' := by
  cases hFirst : xs.mapM f with
  | ok as =>
      rcases exists_mapM_of_perm hPerm hFirst with
        ⟨bs, hSecond, hSame⟩
      exact Or.inl ⟨as, bs, rfl, hSecond, hSame⟩
  | error e =>
      cases hSecond : ys.mapM f with
      | ok bs =>
          -- the first order would have succeeded as well
          rcases exists_mapM_of_perm hPerm.symm hSecond with
            ⟨as, hOk, _⟩
          rw [hFirst] at hOk
          cases hOk
      | error e' => exact Or.inr ⟨e, e', rfl, rfl⟩

end Result

end DeclaredApi

------------------------------------------------------------
-- Failures
------------------------------------------------------------

namespace DeclaredApi

namespace Result

variable {ε α β γ : Type}

/- The error of a result that is one. -/
def failure? : Except ε α → Option ε
| .ok _ => none
| .error e => some e

theorem failure?_eq_none_iff
    {x : Except ε α} :
    failure? x = none ↔ ∃ a, x = .ok a := by
  cases x <;> simp [failure?]

/-
  Two steps fail with the error of the first one, or else
  with that of the second, here the same after any value.
-/
theorem failure?_bind
    {x : Except ε α}
    {f : α → Except ε β}
    {next : Option ε}
    (hNext : ∀ a, failure? (f a) = next) :
    failure? (x >>= f) = (failure? x).or next := by
  cases x with
  | ok a => exact hNext a
  | error e => rfl

/- A value that is put together last adds no failure. -/
theorem failure?_bind_pure
    {x : Except ε α}
    {f : α → β} :
    failure? (x >>= fun a => pure (f a)) = failure? x := by
  have hNext : ∀ a, failure? (pure (f a) : Except ε β) = none :=
    fun _ => rfl
  rw [failure?_bind hNext, Option.or_none]

/- Along a list, the first error is that of the result. -/
theorem failure?_mapM
    {f : α → Except ε β}
    {xs : List α} :
    failure? (xs.mapM f) =
      xs.findSome? (fun x => failure? (f x)) := by
  induction xs with
  | nil => rfl
  | cons x xs ih =>
      rw [List.mapM_cons, List.findSome?_cons,
        failure?_bind (fun _ => failure?_bind_pure), ih]
      cases failure? (f x) <;> rfl

/- So if each element fails with the first fault of a list. -/
theorem failure?_mapM_flatMap
    {f : α → Except ε β}
    {parts : α → List γ}
    {fault? : γ → Option ε}
    {xs : List α}
    (hEach :
      ∀ x, failure? (f x) = (parts x).findSome? fault?) :
    failure? (xs.mapM f) =
      (xs.flatMap parts).findSome? fault? := by
  rw [failure?_mapM]
  induction xs with
  | nil => rfl
  | cons x xs ih =>
      rw [List.findSome?_cons, List.flatMap_cons,
        List.findSome?_append, hEach, ih]
      cases (parts x).findSome? fault? <;> rfl

end Result

end DeclaredApi

------------------------------------------------------------
-- Comparing Results
------------------------------------------------------------

namespace DeclaredApi

namespace Result

/- Decide whether two results are the same. -/
def decEq
    {ε α : Type}
    [DecidableEq ε]
    [DecidableEq α] :
    (a b : Except ε α) → Decidable (a = b)
| .ok x, .ok y =>
    decidable_of_iff (x = y)
      ⟨fun h => by rw [h], fun h => by injection h⟩
| .error e, .error f =>
    decidable_of_iff (e = f)
      ⟨fun h => by rw [h], fun h => by injection h⟩
| .ok _, .error _ => isFalse (fun h => by injection h)
| .error _, .ok _ => isFalse (fun h => by injection h)

instance decidableEqExcept
    {ε α : Type}
    [DecidableEq ε]
    [DecidableEq α] :
    DecidableEq (Except ε α) :=
  decEq

end Result

end DeclaredApi
