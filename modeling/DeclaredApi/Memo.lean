/-
  Memoizing maps.

  A memo keeps the first value stored under a key until it
  is cleared, and counts how often a computation was asked
  for and found or not found.  A computation may use the memo
  itself; what it stores under its own key comes first.

  Key definitions include:
    * `Memo`
    * `Memo.find?`
    * `Memo.putIfAbsent`
    * `Memo.Action`
    * `Memo.getOrCompute`
-/

------------------------------------------------------------
-- Memos
------------------------------------------------------------

namespace DeclaredApi

/- Entries in the order of insertion, and statistics. -/
structure Memo (κ α : Type) where
  entries : List (κ × α) := []
  hits : Nat := 0
  misses : Nat := 0
deriving Repr

namespace Memo

variable {κ α ε : Type}
variable [BEq κ]

/- The value stored under a key. -/
def find?
    (memo : Memo κ α)
    (key : κ) : Option α :=
  memo.entries.lookup key

/- A value is stored under a key. -/
def contains
    (memo : Memo κ α)
    (key : κ) : Bool :=
  (memo.find? key).isSome

/- The number of stored values. -/
def size (memo : Memo κ α) : Nat :=
  memo.entries.length

/- One more computation that was found. -/
def countHit (memo : Memo κ α) : Memo κ α :=
  { memo with hits := memo.hits + 1 }

/- One more computation that was not found. -/
def countMiss (memo : Memo κ α) : Memo κ α :=
  { memo with misses := memo.misses + 1 }

/-
  Store a value unless the key has one; the result is the
  value that the key has afterwards.
-/
def putIfAbsent
    (key : κ)
    (value : α)
    (memo : Memo κ α) : α × Memo κ α :=
  match memo.find? key with
  | some stored => (stored, memo)
  | none =>
      (value,
        { memo with entries := memo.entries ++ [(key, value)] })

end Memo

end DeclaredApi

------------------------------------------------------------
-- Computations
------------------------------------------------------------

namespace DeclaredApi

namespace Memo

variable {κ α ε : Type}
variable [BEq κ]

/- A computation that may use the memo, and may fail. -/
abbrev Action (κ α ε : Type) :=
  ExceptT ε (StateM (Memo κ α))

/-
  The value under a key, computed and stored on first use.
  A computation that fails stores nothing under its key.
-/
def getOrCompute
    (key : κ)
    (compute : Action κ α ε α) : Action κ α ε α :=
  fun memo =>
    match memo.find? key with
    | some stored => (.ok stored, memo.countHit)
    | none =>
        match compute memo.countMiss with
        | (.ok value, memo) =>
            let (stored, memo) := memo.putIfAbsent key value
            (.ok stored, memo)
        | (.error e, memo) => (.error e, memo)

end Memo

end DeclaredApi
