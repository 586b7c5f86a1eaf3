/-
  Computations with a state that may fail.

  A failure keeps the state that it left behind, and the
  steps after it are not run.  What holds of the runs of the
  steps is put together to what holds of a whole run: errors
  that are avoided, an invariant of the states, a property of
  the values, and the result if it is always the same.

  Main declarations:
    * `Action.run_bind`
    * `Action.run_bind_ok_cases`
    * `Action.run_bind_error_cases`
    * `Result.Avoids`
    * `Action.Avoids`
    * `Action.Returns`
    * `Action.Gives`
    * `Action.Compositional`
    * `Action.Yields`
    * `Action.Settles`
-/

------------------------------------------------------------
-- Runs
------------------------------------------------------------

namespace DeclaredApi

namespace Action

variable {σ ε α β : Type}

/- A run of two steps stops at the first failure. -/
theorem run_bind
    (x : ExceptT ε (StateM σ) α)
    (f : α → ExceptT ε (StateM σ) β)
    (s : σ) :
    (x >>= f) s =
      match x s with
      | (.ok a, s) => f a s
      | (.error e, s) => (.error e, s) := by
  change ExceptT.bindCont f (x s).1 (x s).2 = _
  rcases x s with ⟨result, s'⟩
  cases result with
  | ok a => rfl
  | error e => rfl

/- A run of two steps succeeds in both of them. -/
theorem run_bind_ok_cases
    {x : ExceptT ε (StateM σ) α}
    {f : α → ExceptT ε (StateM σ) β}
    {s : σ}
    {b : β}
    (hOk : ((x >>= f) s).1 = .ok b) :
    ∃ a, (x s).1 = .ok a ∧ (f a (x s).2).1 = .ok b := by
  rw [run_bind] at hOk
  revert hOk
  rcases x s with ⟨result, s'⟩
  intro hOk
  cases result with
  | ok a => exact ⟨a, rfl, hOk⟩
  | error d => cases hOk

/- A run of two steps fails in the first or in the second. -/
theorem run_bind_error_cases
    {x : ExceptT ε (StateM σ) α}
    {f : α → ExceptT ε (StateM σ) β}
    {s : σ}
    {e : ε}
    (hError : ((x >>= f) s).1 = .error e) :
    (x s).1 = .error e ∨
      ∃ a, (x s).1 = .ok a ∧ (f a (x s).2).1 = .error e := by
  rw [run_bind] at hError
  revert hError
  rcases x s with ⟨result, s'⟩
  intro hError
  cases result with
  | ok a => exact Or.inr ⟨a, rfl, hError⟩
  | error d =>
      cases hError
      exact Or.inl rfl

end Action

end DeclaredApi

------------------------------------------------------------
-- Avoided Errors
------------------------------------------------------------

namespace DeclaredApi

variable {σ ε α β : Type}

/- A result is no error of a kind. -/
def Result.Avoids
    (bad : ε → Prop)
    (x : Except ε α) : Prop :=
  ∀ e, x = .error e → ¬ bad e

/- No run of a computation fails with an error of a kind. -/
def Action.Avoids
    (bad : ε → Prop)
    (x : ExceptT ε (StateM σ) α) : Prop :=
  ∀ s, Result.Avoids bad (x s).1

namespace Result

theorem avoids_ok
    (bad : ε → Prop)
    (a : α) :
    Avoids bad (.ok a) := by
  intro e hError
  cases hError

theorem avoids_error
    {bad : ε → Prop}
    {e : ε}
    (hGood : ¬ bad e) :
    Avoids bad (.error e : Except ε α) := by
  intro d hError
  cases hError
  exact hGood

theorem Avoids.bind
    {bad : ε → Prop}
    {x : Except ε α}
    {f : α → Except ε β}
    (hFirst : Avoids bad x)
    (hNext : ∀ a, x = .ok a → Avoids bad (f a)) :
    Avoids bad (x >>= f) := by
  cases x with
  | ok a => exact hNext a rfl
  | error e => exact avoids_error (hFirst e rfl)

end Result

namespace Action

theorem avoids_pure
    (bad : ε → Prop)
    (a : α) :
    Avoids bad (pure a : ExceptT ε (StateM σ) α) :=
  fun _ => Result.avoids_ok bad a

theorem avoids_throw
    {bad : ε → Prop}
    {e : ε}
    (hGood : ¬ bad e) :
    Avoids bad (throw e : ExceptT ε (StateM σ) α) :=
  fun _ => Result.avoids_error hGood

theorem Avoids.bind
    {bad : ε → Prop}
    {x : ExceptT ε (StateM σ) α}
    {f : α → ExceptT ε (StateM σ) β}
    (hFirst : Avoids bad x)
    (hNext : ∀ a, Avoids bad (f a)) :
    Avoids bad (x >>= f) := by
  intro s
  have hRun := hFirst s
  rw [run_bind]
  revert hRun
  rcases x s with ⟨result, s'⟩
  intro hRun
  cases result with
  | ok a => exact hNext a s'
  | error e => exact Result.avoids_error (hRun e rfl)

end Action

end DeclaredApi

------------------------------------------------------------
-- Invariants
------------------------------------------------------------

namespace DeclaredApi

namespace Action

variable {σ ε α β : Type} {inv : σ → Prop}

/-
  From a state with an invariant, a computation leaves such a
  state, and returns values with a property if it succeeds.
-/
def Returns
    (inv : σ → Prop)
    (post : α → Prop)
    (x : ExceptT ε (StateM σ) α) : Prop :=
  ∀ s,
    inv s →
      inv (x s).2 ∧ ∀ a, (x s).1 = .ok a → post a

theorem returns_pure
    {post : α → Prop}
    {a : α}
    (hPost : post a) :
    Returns inv post (pure a : ExceptT ε (StateM σ) α) := by
  intro s hInv
  refine ⟨hInv, ?_⟩
  intro b hOk
  injection hOk with hEq
  exact hEq ▸ hPost

theorem returns_throw
    (post : α → Prop)
    (e : ε) :
    Returns inv post (throw e : ExceptT ε (StateM σ) α) := by
  intro s hInv
  refine ⟨hInv, ?_⟩
  intro b hOk
  cases hOk

/- A computation that cannot fail may be one of the steps. -/
theorem returns_lift
    {x : StateM σ α}
    (hKeeps : ∀ s, inv s → inv (x s).2) :
    Returns inv (fun _ => True)
      (monadLift x : ExceptT ε (StateM σ) α) :=
  fun s hInv => ⟨hKeeps s hInv, fun _ _ => trivial⟩

theorem Returns.bind
    {first : α → Prop}
    {post : β → Prop}
    {x : ExceptT ε (StateM σ) α}
    {f : α → ExceptT ε (StateM σ) β}
    (hFirst : Returns inv first x)
    (hNext : ∀ a, first a → Returns inv post (f a)) :
    Returns inv post (x >>= f) := by
  intro s hInv
  have hRun := hFirst s hInv
  rw [run_bind]
  revert hRun
  rcases x s with ⟨result, s'⟩
  intro hRun
  cases result with
  | ok a => exact hNext a (hRun.2 a rfl) s' hRun.1
  | error e =>
      refine ⟨hRun.1, ?_⟩
      intro b hOk
      cases hOk

/- A property of values may be weakened. -/
theorem Returns.mono
    {first post : α → Prop}
    {x : ExceptT ε (StateM σ) α}
    (hReturns : Returns inv first x)
    (hPost : ∀ a, first a → post a) :
    Returns inv post x := by
  intro s hInv
  refine ⟨(hReturns s hInv).1, ?_⟩
  intro a hOk
  exact hPost a ((hReturns s hInv).2 a hOk)

/- Two properties of values may be put together. -/
theorem Returns.and
    {first second : α → Prop}
    {x : ExceptT ε (StateM σ) α}
    (hFirst : Returns inv first x)
    (hSecond : Returns inv second x) :
    Returns inv (fun a => first a ∧ second a) x := by
  intro s hInv
  refine ⟨(hFirst s hInv).1, ?_⟩
  intro a hOk
  exact ⟨(hFirst s hInv).2 a hOk, (hSecond s hInv).2 a hOk⟩

/- Along a list there are as many values with the property. -/
theorem returns_mapM
    {post : β → Prop}
    {f : α → ExceptT ε (StateM σ) β}
    {xs : List α}
    (hEach : ∀ x ∈ xs, Returns inv post (f x)) :
    Returns inv
      (fun ys => ys.length = xs.length ∧ ∀ y ∈ ys, post y)
      (xs.mapM f) := by
  induction xs with
  | nil => exact returns_pure ⟨rfl, by simp⟩
  | cons x xs ih =>
      rw [List.forall_mem_cons] at hEach
      rw [List.mapM_cons]
      apply hEach.1.bind
      intro y hY
      apply (ih hEach.2).bind
      rintro ys ⟨hLength, hYs⟩
      apply returns_pure
      exact ⟨congrArg Nat.succ hLength,
        List.forall_mem_cons.mpr ⟨hY, hYs⟩⟩

/-
  From a state with an invariant, a computation always has
  the same result, and leaves such a state.
-/
def Gives
    (inv : σ → Prop)
    (result : Except ε α)
    (x : ExceptT ε (StateM σ) α) : Prop :=
  ∀ s, inv s → (x s).1 = result ∧ inv (x s).2

theorem gives_pure
    (a : α) :
    Gives inv (.ok a) (pure a : ExceptT ε (StateM σ) α) :=
  fun _ hInv => ⟨rfl, hInv⟩

theorem gives_throw
    (e : ε) :
    Gives inv (.error e)
      (throw e : ExceptT ε (StateM σ) α) :=
  fun _ hInv => ⟨rfl, hInv⟩

theorem Gives.bind
    {first : Except ε α}
    {next : α → Except ε β}
    {x : ExceptT ε (StateM σ) α}
    {f : α → ExceptT ε (StateM σ) β}
    (hFirst : Gives inv first x)
    (hNext : ∀ a, first = .ok a → Gives inv (next a) (f a)) :
    Gives inv (first >>= next) (x >>= f) := by
  intro s hInv
  have hRun := hFirst s hInv
  rw [run_bind]
  revert hRun
  rcases x s with ⟨result, s'⟩
  rintro ⟨hResult, hInv'⟩
  cases hResult
  cases result with
  | ok a => exact hNext a rfl s' hInv'
  | error e => exact ⟨rfl, hInv'⟩

/- A first step that succeeds gives its value to the next. -/
theorem Gives.bind_ok
    {a : α}
    {result : Except ε β}
    {x : ExceptT ε (StateM σ) α}
    {f : α → ExceptT ε (StateM σ) β}
    (hFirst : Gives inv (.ok a) x)
    (hNext : Gives inv result (f a)) :
    Gives inv result (x >>= f) := by
  have hAny :
      ∀ b, (.ok a : Except ε α) = .ok b →
        Gives inv result (f b) := by
    intro b hEq
    cases hEq
    exact hNext
  exact Gives.bind hFirst hAny

/- Along a list the results are those of each element. -/
theorem gives_mapM
    {f : α → ExceptT ε (StateM σ) β}
    {g : α → Except ε β}
    {xs : List α}
    (hEach : ∀ x ∈ xs, Gives inv (g x) (f x)) :
    Gives inv (xs.mapM g) (xs.mapM f) := by
  induction xs with
  | nil => exact gives_pure []
  | cons x xs ih =>
      rw [List.mapM_cons, List.mapM_cons]
      apply (hEach x List.mem_cons_self).bind
      intro y _
      apply (ih fun z hz =>
        hEach z (List.mem_cons_of_mem x hz)).bind
      intro ys _
      exact gives_pure (y :: ys)

/- A computation with one result returns its value. -/
theorem Gives.returns
    {result : Except ε α}
    {post : α → Prop}
    {x : ExceptT ε (StateM σ) α}
    (hGives : Gives inv result x)
    (hPost : ∀ a, result = .ok a → post a) :
    Returns inv post x := by
  intro s hInv
  rcases hGives s hInv with ⟨hResult, hInv'⟩
  refine ⟨hInv', ?_⟩
  intro a hOk
  exact hPost a (hResult ▸ hOk)

end Action

end DeclaredApi

------------------------------------------------------------
-- Compositional Properties
------------------------------------------------------------

namespace DeclaredApi

namespace Action

variable {σ ε α β : Type}

/-
  A property that holds of whatever is put together from
  computations that have it.
-/
structure Compositional
    (P : (α : Type) → ExceptT ε (StateM σ) α → Prop) :
    Prop where
  ofPure : ∀ {α : Type} (a : α), P α (pure a)
  ofBind :
    ∀ {α β : Type}
      {x : ExceptT ε (StateM σ) α}
      {f : α → ExceptT ε (StateM σ) β},
      P α x → (∀ a, P β (f a)) → P β (x >>= f)

/- So it holds of a list of computations that have it. -/
theorem Compositional.ofMapM
    {P : (α : Type) → ExceptT ε (StateM σ) α → Prop}
    {f : α → ExceptT ε (StateM σ) β}
    {xs : List α}
    (hP : Compositional P)
    (hEach : ∀ x ∈ xs, P β (f x)) :
    P (List β) (xs.mapM f) := by
  induction xs with
  | nil => exact hP.ofPure []
  | cons x xs ih =>
      rw [List.mapM_cons]
      apply hP.ofBind (hEach x List.mem_cons_self)
      intro y
      apply hP.ofBind
        (ih fun z hz => hEach z (List.mem_cons_of_mem x hz))
      intro ys
      exact hP.ofPure (y :: ys)

/- Avoiding a kind of error is such a property. -/
theorem compositional_avoids
    (bad : ε → Prop) :
    Compositional
      (fun α (x : ExceptT ε (StateM σ) α) => Avoids bad x) where
  ofPure := avoids_pure bad
  ofBind := Avoids.bind

/- And so is keeping an invariant. -/
theorem compositional_keeps
    (inv : σ → Prop) :
    Compositional
      (fun α (x : ExceptT ε (StateM σ) α) =>
        Returns inv (fun _ => True) x) where
  ofPure := fun _ => returns_pure trivial
  ofBind := fun hFirst hNext =>
    hFirst.bind (fun a _ => hNext a)

end Action

end DeclaredApi

------------------------------------------------------------
-- Computations That Cannot Fail
------------------------------------------------------------

namespace DeclaredApi

namespace Action

variable {σ α β : Type} {inv : σ → Prop}

/-
  From a state with an invariant, a computation that cannot
  fail has a value and leaves such a state.
-/
def Yields
    (inv : σ → Prop)
    (a : α)
    (x : StateM σ α) : Prop :=
  ∀ s, inv s → (x s).1 = a ∧ inv (x s).2

theorem yields_pure
    (a : α) :
    Yields inv a (pure a : StateM σ α) :=
  fun _ hInv => ⟨rfl, hInv⟩

theorem Yields.bind
    {a : α}
    {b : β}
    {x : StateM σ α}
    {f : α → StateM σ β}
    (hFirst : Yields inv a x)
    (hNext : Yields inv b (f a)) :
    Yields inv b (x >>= f) := by
  intro s hInv
  rcases hFirst s hInv with ⟨hValue, hInv'⟩
  have hRun := hNext (x s).2 hInv'
  rw [← hValue] at hRun
  exact hRun

theorem yields_mapM
    {f : α → StateM σ β}
    {g : α → β}
    {xs : List α}
    (hEach : ∀ x ∈ xs, Yields inv (g x) (f x)) :
    Yields inv (xs.map g) (xs.mapM f) := by
  induction xs with
  | nil =>
      rw [List.mapM_nil]
      exact yields_pure []
  | cons x xs ih =>
      rw [List.mapM_cons]
      apply (hEach x List.mem_cons_self).bind
      apply (ih fun y hy =>
        hEach y (List.mem_cons_of_mem x hy)).bind
      exact yields_pure (g x :: xs.map g)

/-
  A computation does so with some value, which is the same
  from every state with the invariant.
-/
def Settles
    (inv : σ → Prop)
    (x : StateM σ α) : Prop :=
  ∃ a, Yields inv a x

theorem Yields.settles
    {a : α}
    {x : StateM σ α}
    (hYields : Yields inv a x) :
    Settles inv x :=
  ⟨a, hYields⟩

theorem settles_pure
    (a : α) :
    Settles inv (pure a : StateM σ α) :=
  (yields_pure a).settles

theorem Settles.bind
    {x : StateM σ α}
    {f : α → StateM σ β}
    (hFirst : Settles inv x)
    (hNext : ∀ a, Settles inv (f a)) :
    Settles inv (x >>= f) := by
  rcases hFirst with ⟨a, hFirst⟩
  rcases hNext a with ⟨b, hNext⟩
  exact (hFirst.bind hNext).settles

theorem settles_mapM
    {f : α → StateM σ β}
    {xs : List α}
    (hEach : ∀ x ∈ xs, Settles inv (f x)) :
    Settles inv (xs.mapM f) := by
  induction xs with
  | nil =>
      rw [List.mapM_nil]
      exact settles_pure []
  | cons x xs ih =>
      rw [List.mapM_cons]
      apply (hEach x List.mem_cons_self).bind
      intro y
      apply (ih fun z hz =>
        hEach z (List.mem_cons_of_mem x hz)).bind
      intro ys
      exact settles_pure (y :: ys)

/- Its value is the one from any such state. -/
theorem Settles.yields
    {x : StateM σ α}
    {s : σ}
    (hSettles : Settles inv x)
    (hInv : inv s) :
    Yields inv (x s).1 x := by
  rcases hSettles with ⟨a, hYields⟩
  rw [(hYields s hInv).1]
  exact hYields

/- The invariant holds of the state that is left. -/
theorem Settles.keeps
    {x : StateM σ α}
    {s : σ}
    (hSettles : Settles inv x)
    (hInv : inv s) :
    inv (x s).2 := by
  rcases hSettles with ⟨a, hYields⟩
  exact (hYields s hInv).2

end Action

end DeclaredApi
