import DeclaredApi.Proofs.Memo
import DeclaredApi.Signature.Interner

/-
  Memos that are used by their own computations.

  A computation may call the memo that it is computed for, on
  any key, before it returns or fails.  Such computations are
  programs of finitely many calls, each of which may depend
  on the outcomes of the ones before.  The moments of a run
  are listed with the memo at each of them; what holds of the
  list is proved from what a single call adds to it.

  Main declarations:
    * `Memo.Program`
    * `Memo.Program.run`
    * `Memo.Program.moments`
    * `Memo.Kept`
    * `Memo.Kept.moments`
    * `Memo.Kept.serveAll`
    * `Memo.first_writer_wins`
    * `Interner.parse_eq_run`
-/

------------------------------------------------------------
-- Programs of Calls
------------------------------------------------------------

namespace DeclaredApi

namespace Memo

/-
  A finite program of calls on a memo.  The computation of a
  value is such a program itself, and what comes next may
  depend on the outcome of a call, also on its failure.
-/
inductive Program (κ α ε : Type) where
| finish (result : Except ε α)
| compute
    (key : κ)
    (factory : Program κ α ε)
    (next : Except ε α → Program κ α ε)
| put
    (key : κ)
    (value : α)
    (next : α → Program κ α ε)

variable {κ α ε : Type}
variable [BEq κ]

/- What a program comes to, and the memo that it leaves. -/
def Program.run : Program κ α ε → Action κ α ε α
| .finish result => fun memo => (result, memo)
| .compute key factory next =>
    fun memo =>
      let outcome := getOrCompute key (run factory) memo
      run (next outcome.1) outcome.2
| .put key value next =>
    fun memo =>
      let outcome := putIfAbsent key value memo
      run (next outcome.1) outcome.2

/- A call for the value under a key, on a memo. -/
structure Call (κ α ε : Type) where
  key : κ
  factory : Program κ α ε
  before : Memo κ α

namespace Call

def outcome
    (call : Call κ α ε) : Except ε α × Memo κ α :=
  getOrCompute call.key call.factory.run call.before

/- What the call returns or raises. -/
def result (call : Call κ α ε) : Except ε α :=
  call.outcome.1

/- The memo after the call. -/
def after (call : Call κ α ε) : Memo κ α :=
  call.outcome.2

/- What the computation comes to, if it runs. -/
def computed
    (call : Call κ α ε) : Except ε α × Memo κ α :=
  call.factory.run call.before.countMiss

end Call

end Memo

end DeclaredApi

------------------------------------------------------------
-- Moments of Runs
------------------------------------------------------------

namespace DeclaredApi

namespace Memo

/- What happens to a memo in a run. -/
inductive Moment (κ α ε : Type) where
| called (call : Call κ α ε)
| started (call : Call κ α ε)
| finished (call : Call κ α ε)
| returned (call : Call κ α ε)
| stored (key : κ) (value : α) (before : Memo κ α)
| looked (key : κ) (memo : Memo κ α)

variable {κ α ε : Type}

namespace Moment

/- A call for a value is made. -/
def isCalled : Moment κ α ε → Bool
| .called _ => true
| _ => false

/- The computation of a value starts to run. -/
def isStarted : Moment κ α ε → Bool
| .started _ => true
| _ => false

variable [BEq κ]

/- The memo at a moment. -/
def memo : Moment κ α ε → Memo κ α
| .called call => call.before
| .started call => call.before.countMiss
| .finished call => call.computed.2
| .returned call => call.after
| .stored key value before => (putIfAbsent key value before).2
| .looked _ memo => memo

/- A call ends, for which a key holds a value. -/
def Gives
    (key : κ)
    (value : α) : Moment κ α ε → Prop
| .returned call => call.key = key ∧ call.result = .ok value
| .stored other given before =>
    other = key ∧ (putIfAbsent other given before).1 = value
| _ => False

end Moment

variable [BEq κ]

/-
  What happens in a run of a program, in order.  Everything
  that a computation does comes between its start and the
  end of the call that it is made for.
-/
def Program.moments :
    Program κ α ε → Memo κ α → List (Moment κ α ε)
| .finish _, _ => []
| .compute key factory next, memo =>
    let call : Call κ α ε := ⟨key, factory, memo⟩
    let rest := moments (next call.result) call.after
    match memo.find? key with
    | some _ => .called call :: .returned call :: rest
    | none =>
        .called call :: .started call ::
          (moments factory memo.countMiss ++
            .finished call :: .returned call :: rest)
| .put key value next, memo =>
    let outcome := putIfAbsent key value memo
    .stored key value memo ::
      moments (next outcome.1) outcome.2

end Memo

end DeclaredApi

------------------------------------------------------------
-- Single Calls
------------------------------------------------------------

namespace DeclaredApi

namespace Memo

variable {κ α ε : Type}
variable [BEq κ]

namespace Call

variable {call : Call κ α ε}

/- A call on a key with a value returns it. -/
theorem outcome_of_some
    {value : α}
    (hFind : call.before.find? call.key = some value) :
    call.outcome = (.ok value, call.before.countHit) := by
  rw [outcome, getOrCompute, hFind]

/- A value that is computed is stored, if none came first. -/
theorem outcome_of_ok
    {value : α}
    {left : Memo κ α}
    (hFind : call.before.find? call.key = none)
    (hComputed : call.computed = (.ok value, left)) :
    call.outcome =
      (.ok (putIfAbsent call.key value left).1,
        (putIfAbsent call.key value left).2) := by
  rw [computed] at hComputed
  rw [outcome, getOrCompute, hFind]
  simp only [hComputed]

/- A failure stores nothing more than the computation did. -/
theorem outcome_of_error
    {e : ε}
    {left : Memo κ α}
    (hFind : call.before.find? call.key = none)
    (hComputed : call.computed = (.error e, left)) :
    call.outcome = (.error e, left) := by
  rw [computed] at hComputed
  rw [outcome, getOrCompute, hFind]
  simp only [hComputed]

/- A call fails only because its computation does. -/
theorem failed
    {e : ε}
    (hResult : call.result = .error e) :
    call.before.find? call.key = none ∧
      call.computed = (.error e, call.after) := by
  rw [result] at hResult
  rw [after]
  cases hFind : call.before.find? call.key with
  | some stored =>
      rw [outcome_of_some hFind] at hResult
      cases hResult
  | none =>
      rcases hComputed : call.computed with ⟨computed, left⟩
      cases computed with
      | error raised =>
          rw [outcome_of_error hFind hComputed] at hResult ⊢
          cases hResult
          exact ⟨rfl, rfl⟩
      | ok given =>
          rw [outcome_of_ok hFind hComputed] at hResult
          cases hResult

/- What a call returns is what the key holds afterwards. -/
theorem find?_after
    [LawfulBEq κ]
    {value : α}
    (hResult : call.result = .ok value) :
    call.after.find? call.key = some value := by
  rw [result] at hResult
  rw [after]
  cases hFind : call.before.find? call.key with
  | some stored =>
      rw [outcome_of_some hFind] at hResult ⊢
      exact hFind.trans (congrArg some (Except.ok.inj hResult))
  | none =>
      rcases hComputed : call.computed with ⟨computed, left⟩
      cases computed with
      | error e =>
          rw [outcome_of_error hFind hComputed] at hResult
          cases hResult
      | ok given =>
          rw [outcome_of_ok hFind hComputed] at hResult ⊢
          rw [find?_putIfAbsent_self]
          exact congrArg some (Except.ok.inj hResult)

end Call

end Memo

end DeclaredApi

------------------------------------------------------------
-- Properties of Runs
------------------------------------------------------------

namespace DeclaredApi

namespace Memo

variable {κ α ε : Type}
variable [BEq κ]

/-
  A property of a memo, of what happens then, and of the memo
  that this leaves.  It goes through one call after another,
  and from inside a computation to the call it is made for.
-/
structure Kept
    (holds :
      Memo κ α → List (Moment κ α ε) → Memo κ α → Prop) :
    Prop where
  nil :
    ∀ memo, holds memo [] memo
  append :
    ∀ {memo between after earlier later},
      holds memo earlier between →
        holds between later after →
          holds memo (earlier ++ later) after
  found :
    ∀ {c : Call κ α ε} {value},
      c.before.find? c.key = some value →
        holds c.before [.called c, .returned c] c.after
  missed :
    ∀ {c : Call κ α ε},
      c.before.find? c.key = none →
        holds c.before.countMiss
            (c.factory.moments c.before.countMiss)
            c.computed.2 →
          holds c.before
            (.called c :: .started c ::
              (c.factory.moments c.before.countMiss ++
                [.finished c, .returned c]))
            c.after
  stored :
    ∀ key value before,
      holds before [.stored key value before]
        (putIfAbsent key value before).2
  looked :
    ∀ key memo, holds memo [.looked key memo] memo

variable {holds :
  Memo κ α → List (Moment κ α ε) → Memo κ α → Prop}

/- Such a property holds of every run of a program. -/
theorem Kept.moments
    (hKept : Kept holds)
    (p : Program κ α ε)
    (memo : Memo κ α) :
    holds memo (p.moments memo) (p.run memo).2 := by
  induction p generalizing memo with
  | finish result => exact hKept.nil memo
  | compute key factory next ihFactory ihNext =>
      let call : Call κ α ε := ⟨key, factory, memo⟩
      have hRest := ihNext call.result call.after
      rw [Program.moments]
      cases hFind : memo.find? key with
      | some value =>
          exact hKept.append (hKept.found (c := call) hFind) hRest
      | none =>
          have hRun :=
            hKept.append
              (hKept.missed (c := call) hFind
                (ihFactory memo.countMiss))
              hRest
          simp only [List.cons_append, List.append_assoc,
            List.nil_append] at hRun
          exact hRun
  | put key value next ih =>
      exact hKept.append (hKept.stored key value memo)
        (ih _ _)

end Memo

end DeclaredApi

------------------------------------------------------------
-- Histories
------------------------------------------------------------

namespace DeclaredApi

namespace Memo

/- What is asked of a memo from outside. -/
inductive Request (κ α ε : Type) where
| compute (key : κ) (factory : Program κ α ε)
| put (key : κ) (value : α)
| get (key : κ)
| contains (key : κ)
| clear

/- A memo, and what happened to it since it was cleared. -/
structure History (κ α ε : Type) where
  log : List (Moment κ α ε) := []
  memo : Memo κ α := {}

variable {κ α ε : Type}
variable [BEq κ]

/- What happens in a run comes after what has happened. -/
def History.perform
    (p : Program κ α ε)
    (h : History κ α ε) : History κ α ε where
  log := h.log ++ p.moments h.memo
  memo := (p.run h.memo).2

/- Looking changes nothing; clearing forgets everything. -/
def Request.serve :
    Request κ α ε → History κ α ε → History κ α ε
| .compute key factory, h =>
    h.perform (.compute key factory .finish)
| .put key value, h =>
    h.perform (.put key value (fun stored => .finish (.ok stored)))
| .get key, h => ⟨h.log ++ [.looked key h.memo], h.memo⟩
| .contains key, h => ⟨h.log ++ [.looked key h.memo], h.memo⟩
| .clear, _ => {}

/- Requests are served one after the other. -/
def serveAll :
    List (Request κ α ε) → History κ α ε → History κ α ε
| [], h => h
| request :: requests, h => serveAll requests (request.serve h)

variable {holds :
  Memo κ α → List (Moment κ α ε) → Memo κ α → Prop}

theorem Kept.perform
    {h : History κ α ε}
    (hKept : Kept holds)
    (p : Program κ α ε)
    (hHolds : holds {} h.log h.memo) :
    holds {} (h.perform p).log (h.perform p).memo :=
  hKept.append hHolds (hKept.moments p h.memo)

/- A request keeps what single calls keep. -/
theorem Kept.serve
    {h : History κ α ε}
    (hKept : Kept holds)
    (request : Request κ α ε)
    (hHolds : holds {} h.log h.memo) :
    holds {} (request.serve h).log (request.serve h).memo := by
  cases request with
  | compute key factory => exact hKept.perform _ hHolds
  | put key value => exact hKept.perform _ hHolds
  | get key => exact hKept.append hHolds (hKept.looked key h.memo)
  | contains key =>
      exact hKept.append hHolds (hKept.looked key h.memo)
  | clear => exact hKept.nil {}

/- So does any sequence of requests. -/
theorem Kept.serveAll
    {h : History κ α ε}
    (hKept : Kept holds)
    (requests : List (Request κ α ε))
    (hHolds : holds {} h.log h.memo) :
    holds {} (Memo.serveAll requests h).log
      (Memo.serveAll requests h).memo := by
  induction requests generalizing h with
  | nil => exact hHolds
  | cons request requests ih =>
      exact ih (hKept.serve request hHolds)

end Memo

end DeclaredApi

------------------------------------------------------------
-- Values That Stay
------------------------------------------------------------

namespace DeclaredApi

namespace Memo

variable {κ α ε : Type}
variable [BEq κ]

/-
  When the computation of a value has run, the memo that it
  left is there after the call, with the value at most.
-/
theorem Call.after_cases
    {call : Call κ α ε}
    (hFind : call.before.find? call.key = none) :
    call.after = call.computed.2 ∨
      ∃ value,
        call.result =
            .ok (putIfAbsent call.key value
              call.computed.2).1 ∧
          call.after =
            (putIfAbsent call.key value call.computed.2).2 := by
  rw [result, after]
  rcases hComputed : call.computed with ⟨computed, left⟩
  cases computed with
  | error e =>
      rw [outcome_of_error hFind hComputed]
      exact Or.inl rfl
  | ok value =>
      rw [outcome_of_ok hFind hComputed]
      exact Or.inr ⟨value, rfl, rfl⟩

/- What a key holds stays there in the course of a run. -/
structure Grows
    (memo : Memo κ α)
    (log : List (Moment κ α ε))
    (after : Memo κ α) : Prop where
  extends_after : memo.Extends after
  from_before : ∀ m ∈ log, memo.Extends m.memo
  to_after : ∀ m ∈ log, m.memo.Extends after
  pairwise :
    log.Pairwise (fun m m' => m.memo.Extends m'.memo)

theorem Grows.append
    {memo between after : Memo κ α}
    {earlier later : List (Moment κ α ε)}
    (hEarlier : Grows memo earlier between)
    (hLater : Grows between later after) :
    Grows memo (earlier ++ later) after where
  extends_after :=
    hEarlier.extends_after.trans hLater.extends_after
  from_before :=
    List.forall_mem_append.mpr
      ⟨hEarlier.from_before,
        fun m hm =>
          hEarlier.extends_after.trans
            (hLater.from_before m hm)⟩
  to_after :=
    List.forall_mem_append.mpr
      ⟨fun m hm =>
          (hEarlier.to_after m hm).trans hLater.extends_after,
        hLater.to_after⟩
  pairwise :=
    List.pairwise_append.mpr
      ⟨hEarlier.pairwise, hLater.pairwise,
        fun m hm m' hm' =>
          (hEarlier.to_after m hm).trans
            (hLater.from_before m' hm')⟩

theorem grows_singleton
    {memo after : Memo κ α}
    (m : Moment κ α ε)
    (hBefore : memo.Extends m.memo)
    (hAfter : m.memo.Extends after) :
    Grows memo [m] after where
  extends_after := hBefore.trans hAfter
  from_before := List.forall_mem_singleton.mpr hBefore
  to_after := List.forall_mem_singleton.mpr hAfter
  pairwise := List.pairwise_singleton _ m

theorem kept_grows
    [LawfulBEq κ] :
    Kept (Grows (κ := κ) (α := α) (ε := ε)) where
  nil := fun memo =>
    { extends_after := Extends.refl memo
      from_before := fun _ hm => absurd hm List.not_mem_nil
      to_after := fun _ hm => absurd hm List.not_mem_nil
      pairwise := List.Pairwise.nil }
  append := Grows.append
  found := by
    intro c value hFind
    have hAfter : c.before.Extends c.after := by
      rw [Call.after, Call.outcome_of_some hFind]
      exact Extends.refl c.before
    exact (grows_singleton (.called c) (Extends.refl _)
      hAfter).append
        (grows_singleton (.returned c) (Extends.refl _)
          (Extends.refl _))
  missed := by
    intro c hFind hInside
    have hReturned : c.computed.2.Extends c.after := by
      rcases Call.after_cases hFind with
        hAfter | ⟨value, _, hAfter⟩
      · rw [hAfter]
        exact Extends.refl _
      · rw [hAfter]
        exact extends_putIfAbsent c.key value
    have hStart :
        Grows c.before [.called c, .started c]
          c.before.countMiss :=
      (grows_singleton (.called c) (Extends.refl _)
        (Extends.refl _)).append
          (grows_singleton (.started c) (Extends.refl _)
            (Extends.refl _))
    have hEnd :
        Grows c.computed.2 [.finished c, .returned c] c.after :=
      (grows_singleton (.finished c) (Extends.refl _)
        hReturned).append
          (grows_singleton (.returned c) (Extends.refl _)
            (Extends.refl _))
    exact hStart.append (hInside.append hEnd)
  stored := fun key value before =>
    grows_singleton (.stored key value before)
      (extends_putIfAbsent key value) (Extends.refl _)
  looked := fun key memo =>
    grows_singleton (.looked key memo) (Extends.refl memo)
      (Extends.refl memo)

end Memo

end DeclaredApi

------------------------------------------------------------
-- Counters
------------------------------------------------------------

namespace DeclaredApi

namespace Memo

variable {κ α ε : Type}
variable [BEq κ]

/- All calls are counted, and the computations that start. -/
structure Counted
    (memo : Memo κ α)
    (log : List (Moment κ α ε))
    (after : Memo κ α) : Prop where
  calls :
    after.hits + after.misses =
      memo.hits + memo.misses + log.countP Moment.isCalled
  starts :
    after.misses = memo.misses + log.countP Moment.isStarted

omit [BEq κ] in
theorem Counted.append
    {memo between after : Memo κ α}
    {earlier later : List (Moment κ α ε)}
    (hEarlier : Counted memo earlier between)
    (hLater : Counted between later after) :
    Counted memo (earlier ++ later) after where
  calls := by
    rw [List.countP_append, hLater.calls, hEarlier.calls]
    omega
  starts := by
    rw [List.countP_append, hLater.starts, hEarlier.starts]
    omega

/- Storing a value counts nothing. -/
theorem counted_putIfAbsent
    {log : List (Moment κ α ε)}
    (key : κ)
    (value : α)
    (memo : Memo κ α)
    (hCalls : log.countP Moment.isCalled = 0)
    (hStarts : log.countP Moment.isStarted = 0) :
    Counted memo log (putIfAbsent key value memo).2 := by
  unfold putIfAbsent
  cases memo.find? key with
  | none => exact ⟨by rw [hCalls]; rfl, by rw [hStarts]; rfl⟩
  | some stored =>
      exact ⟨by rw [hCalls]; rfl, by rw [hStarts]; rfl⟩

theorem kept_counted :
    Kept (Counted (κ := κ) (α := α) (ε := ε)) where
  nil := fun memo => ⟨rfl, rfl⟩
  append := Counted.append
  found := by
    intro c value hFind
    rw [Call.after, Call.outcome_of_some hFind]
    exact ⟨Nat.add_right_comm _ 1 _, rfl⟩
  missed := by
    intro c hFind hInside
    have hStart :
        Counted c.before [.called c, .started c]
          c.before.countMiss :=
      ⟨rfl, rfl⟩
    have hEnd :
        Counted c.computed.2 [.finished c, .returned c]
          c.after := by
      rcases Call.after_cases hFind with
        hAfter | ⟨value, _, hAfter⟩
      · rw [hAfter]
        exact ⟨rfl, rfl⟩
      · rw [hAfter]
        exact counted_putIfAbsent c.key value c.computed.2 rfl rfl
    exact hStart.append (hInside.append hEnd)
  stored := fun key value before =>
    counted_putIfAbsent key value before rfl rfl
  looked := fun key memo => ⟨rfl, rfl⟩

end Memo

end DeclaredApi

------------------------------------------------------------
-- Computations inside Calls
------------------------------------------------------------

namespace DeclaredApi

namespace Memo

variable {κ α ε : Type}
variable [BEq κ]

/-
  Every call returns.  Its computation starts exactly if the
  key holds nothing, and all that it does has happened then.
-/
structure Nested (log : List (Moment κ α ε)) : Prop where
  returned_iff :
    ∀ call, .returned call ∈ log ↔ .called call ∈ log
  started_iff :
    ∀ call,
      .started call ∈ log ↔
        .called call ∈ log ∧ call.before.find? call.key = none
  inside :
    ∀ call,
      .started call ∈ log →
        call.factory.moments call.before.countMiss <:+: log

theorem Nested.append
    {earlier later : List (Moment κ α ε)}
    (hEarlier : Nested earlier)
    (hLater : Nested later) :
    Nested (earlier ++ later) where
  returned_iff := by
    intro call
    rw [List.mem_append, List.mem_append,
      hEarlier.returned_iff, hLater.returned_iff]
  started_iff := by
    intro call
    rw [List.mem_append, List.mem_append,
      hEarlier.started_iff, hLater.started_iff, or_and_right]
  inside := by
    intro call hStarted
    rcases List.mem_append.mp hStarted with hOld | hNew
    · exact (hEarlier.inside call hOld).trans
        (List.prefix_append earlier later).isInfix
    · exact (hLater.inside call hNew).trans
        (List.suffix_append earlier later).isInfix

/- Nothing is nested in a moment that is not part of a call. -/
theorem nested_of_none
    {log : List (Moment κ α ε)}
    (hCalled : ∀ call, .called call ∉ log)
    (hStarted : ∀ call, .started call ∉ log)
    (hReturned : ∀ call, .returned call ∉ log) :
    Nested log where
  returned_iff := fun call =>
    iff_of_false (hReturned call) (hCalled call)
  started_iff := fun call =>
    iff_of_false (hStarted call) (fun h => hCalled call h.1)
  inside := fun call h => absurd h (hStarted call)

/- A call and its computation are nested as they happen. -/
theorem Nested.call
    {c : Call κ α ε}
    {inner : List (Moment κ α ε)}
    (hFind : c.before.find? c.key = none)
    (hInner : c.factory.moments c.before.countMiss = inner)
    (hNested : Nested inner) :
    Nested
      (.called c :: .started c ::
        (inner ++ [.finished c, .returned c])) where
  returned_iff := by
    intro call
    simp [hNested.returned_iff, or_comm]
  started_iff := by
    intro call
    have hOwn :
        call = c ↔
          call = c ∧ call.before.find? call.key = none :=
      (and_iff_left_of_imp (fun hSame => hSame ▸ hFind)).symm
    simp only [List.mem_cons, List.mem_append, reduceCtorEq,
      Moment.started.injEq, Moment.called.injEq,
      List.not_mem_nil, or_false, false_or,
      hNested.started_iff, or_and_right]
    rw [← hOwn]
  inside := by
    intro call hStarted
    have hPart :
        inner <:+:
          .called c :: .started c ::
            (inner ++ [.finished c, .returned c]) :=
      ⟨[.called c, .started c], [.finished c, .returned c], rfl⟩
    simp only [List.mem_cons, List.mem_append, reduceCtorEq,
      Moment.started.injEq, List.not_mem_nil, or_false,
      false_or] at hStarted
    rcases hStarted with rfl | hDeeper
    · exact hInner ▸ hPart
    · exact (hNested.inside call hDeeper).trans hPart

theorem kept_nested :
    Kept (fun (_ : Memo κ α) (log : List (Moment κ α ε)) _ =>
      Nested log) where
  nil := fun _ => nested_of_none (by simp) (by simp) (by simp)
  append := Nested.append
  found := by
    intro c value hFind
    refine ⟨by simp, ?_, by simp⟩
    intro call
    have hHolds :
        ¬ (call = c ∧ call.before.find? call.key = none) := by
      rintro ⟨rfl, hNone⟩
      rw [hFind] at hNone
      cases hNone
    simpa using hHolds
  missed := fun hFind hInside => Nested.call hFind rfl hInside
  stored := fun _ _ _ =>
    nested_of_none (by simp) (by simp) (by simp)
  looked := fun _ _ =>
    nested_of_none (by simp) (by simp) (by simp)

end Memo

end DeclaredApi

------------------------------------------------------------
-- Where Values Come From
------------------------------------------------------------

namespace DeclaredApi

namespace Memo

variable {κ α ε : Type}
variable [BEq κ] [LawfulBEq κ]

/- What a key holds it held before, or a call has given it. -/
def Sourced
    (memo : Memo κ α)
    (log : List (Moment κ α ε))
    (after : Memo κ α) : Prop :=
  ∀ key value,
    after.find? key = some value →
      memo.find? key = some value ∨
        ∃ m ∈ log, m.Gives key value

omit [LawfulBEq κ] in
theorem Sourced.append
    {memo between after : Memo κ α}
    {earlier later : List (Moment κ α ε)}
    (hEarlier : Sourced memo earlier between)
    (hLater : Sourced between later after) :
    Sourced memo (earlier ++ later) after := by
  intro key value hFind
  rcases hLater key value hFind with hOld | ⟨m, hm, hGives⟩
  · rcases hEarlier key value hOld with
      hOlder | ⟨m, hm, hGives⟩
    · exact Or.inl hOlder
    · exact Or.inr
        ⟨m, List.mem_append_left later hm, hGives⟩
  · exact Or.inr ⟨m, List.mem_append_right earlier hm, hGives⟩

/- Storing gives its key what the key holds afterwards. -/
theorem held_or_given
    {memo : Memo κ α}
    {key other : κ}
    {value held : α}
    (hFind :
      (putIfAbsent key value memo).2.find? other = some held) :
    memo.find? other = some held ∨
      key = other ∧ (putIfAbsent key value memo).1 = held := by
  rcases find?_of_find?_putIfAbsent hFind with
    hOld | ⟨rfl, _⟩
  · exact Or.inl hOld
  · rw [find?_putIfAbsent_self] at hFind
    exact Or.inr ⟨rfl, Option.some.inj hFind⟩

theorem kept_sourced :
    Kept (Sourced (κ := κ) (α := α) (ε := ε)) where
  nil := fun memo key value hFind => Or.inl hFind
  append := Sourced.append
  found := by
    intro c value hFind key held hHeld
    rw [Call.after, Call.outcome_of_some hFind] at hHeld
    exact Or.inl hHeld
  missed := by
    intro c hFind hInside
    have hLeft :
        Sourced c.before [.called c, .started c]
          c.before.countMiss :=
      fun key held hHeld => Or.inl hHeld
    have hReturned :
        Sourced c.computed.2 [.finished c, .returned c]
          c.after := by
      intro key held hHeld
      rcases Call.after_cases hFind with
        hAfter | ⟨value, hResult, hAfter⟩
      · rw [hAfter] at hHeld
        exact Or.inl hHeld
      · rw [hAfter] at hHeld
        rcases held_or_given hHeld with hOld | ⟨hKey, hGiven⟩
        · exact Or.inl hOld
        · rw [hGiven] at hResult
          exact Or.inr
            ⟨.returned c,
              List.mem_cons_of_mem _ List.mem_cons_self,
              hKey, hResult⟩
    exact hLeft.append (hInside.append hReturned)
  stored := by
    intro key value before other held hHeld
    rcases held_or_given hHeld with hOld | hGiven
    · exact Or.inl hOld
    · exact Or.inr ⟨_, List.mem_singleton_self _, hGiven⟩
  looked := fun key memo other held hHeld => Or.inl hHeld

end Memo

end DeclaredApi

------------------------------------------------------------
-- First Writers
------------------------------------------------------------

namespace DeclaredApi

namespace Memo

variable {κ α ε : Type}
variable [BEq κ] [LawfulBEq κ]

/-
  The first writer of a key wins, also when computations use
  the memo that they are made for.  Of all that has happened
  since the memo was cleared, inside of computations too:
  what a key holds at one moment it holds at all later ones.
  A call returns what the key holds afterwards, and so does
  storing.  Every call comes to an end; its computation runs
  exactly if the key holds nothing when the call is made.  If
  a call fails, the memo is the one that its computation has
  left, where every key holds what it held before or what a
  nested call has given it.  All calls are counted, and those
  that run a computation as misses.
-/
theorem first_writer_wins
    (requests : List (Request κ α ε)) :
    let h := serveAll requests {}
    (h.log.map Moment.memo ++ [h.memo]).Pairwise Extends ∧
      (∀ call value,
        .returned call ∈ h.log →
          call.result = .ok value →
            call.after.find? call.key = some value) ∧
      (∀ key value before,
        .stored key value before ∈ h.log →
          (putIfAbsent key value before).2.find? key =
            some (putIfAbsent key value before).1) ∧
      Nested h.log ∧
      (∀ call e,
        .returned call ∈ h.log →
          call.result = .error e →
            call.before.find? call.key = none ∧
              call.computed = (.error e, call.after) ∧
              ∀ key value,
                call.after.find? key = some value →
                  call.before.find? key = some value ∨
                    ∃ m ∈ call.factory.moments
                        call.before.countMiss,
                      m.Gives key value) ∧
      h.memo.hits + h.memo.misses =
        h.log.countP Moment.isCalled ∧
      h.memo.misses = h.log.countP Moment.isStarted := by
  intro h
  have hGrows : Grows {} h.log h.memo :=
    kept_grows.serveAll requests (kept_grows.nil {})
  have hCounted : Counted {} h.log h.memo :=
    kept_counted.serveAll requests (kept_counted.nil {})
  refine ⟨?_, ?_, ?_, ?_, ?_, ?_, ?_⟩
  · refine List.pairwise_append.mpr
      ⟨List.pairwise_map.mpr hGrows.pairwise,
        List.pairwise_singleton _ _, ?_⟩
    simpa using hGrows.to_after
  · exact fun call value _ hResult => Call.find?_after hResult
  · exact fun key value before _ => find?_putIfAbsent_self key value
  · exact kept_nested.serveAll requests (kept_nested.nil {})
  · intro call e _ hResult
    rcases Call.failed hResult with ⟨hFind, hComputed⟩
    refine ⟨hFind, hComputed, ?_⟩
    intro key value hHeld
    have hAfter : call.computed.2 = call.after := by
      rw [hComputed]
    rw [← hAfter] at hHeld
    exact kept_sourced.moments call.factory
      call.before.countMiss key value hHeld
  · simpa using hCounted.calls
  · simpa using hCounted.starts

/-
  A computation that stores a value under its own key, and
  goes on when a nested one fails.
-/
def reentrantProgram : Program String Nat String :=
  .put "a" 1 fun _ =>
    .compute "b" (.put "c" 7 fun _ => .finish (.error "none"))
      fun _ => .finish (.ok 2)

/- The memo is used again after this. -/
def reentrantRequests : List (Request String Nat String) :=
  [.put "d" 5, .clear, .compute "a" reentrantProgram,
    .compute "a" (.finish (.ok 3)), .get "c"]

/-
  The value that was stored on the way comes first, and the
  failed computation has left what it stored.  There are three
  calls, two of which ran a computation.
-/
theorem first_writer_wins_reentrant :
    let h := serveAll reentrantRequests {}
    h.memo.entries = [("a", 1), ("c", 7)] ∧
      h.memo.hits + h.memo.misses = 3 ∧ h.memo.misses = 2 := by
  intro h
  rcases first_writer_wins reentrantRequests with
    ⟨_, _, _, _, _, hCalls, hStarts⟩
  refine ⟨by decide, ?_, ?_⟩
  · exact hCalls.trans (by decide)
  · exact hStarts.trans (by decide)

end Memo

end DeclaredApi

------------------------------------------------------------
-- Parsing with an Interner
------------------------------------------------------------

namespace DeclaredApi

namespace Interner

/-
  What is read from a text is stored under its canonical text
  before the text itself gets it.
-/
def readProgram
    (config : Config)
    (text : String) : Memo.Program String TypeRef ParseError :=
  match readText config text with
  | .error e => .finish (.error e)
  | .ok reference =>
      .put (reference.compact config.rootObject) reference
        fun stored => .finish (.ok stored)

/- Parsing that interns is a call with a computation like it. -/
theorem parse_eq_run
    {config : Config}
    (text : String)
    (hInterns : config.interns = true) :
    parse config text =
      (Memo.Program.compute text (readProgram config text)
        .finish).run := by
  have hRead :
      readInterned config text = (readProgram config text).run := by
    funext interner
    rw [readInterned, readProgram]
    cases readText config text with
    | error e => rfl
    | ok reference =>
        simp only [intern, hInterns, if_true]
        rfl
  rw [parse, if_pos hInterns, hRead]
  rfl

end Interner

end DeclaredApi
