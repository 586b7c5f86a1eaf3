import DeclaredApi.Memo

/-
  Storing in memos.

  The first value under a key stays there: storing another
  one changes nothing, and storing under one key does not
  change what any other key holds.

  Main declarations:
    * `Memo.find?_putIfAbsent`
    * `Memo.Extends`
    * `Memo.extends_putIfAbsent`
-/

------------------------------------------------------------
-- Storing
------------------------------------------------------------

namespace DeclaredApi

namespace Memo

variable {κ α : Type}
variable [BEq κ] [LawfulBEq κ]
variable {memo : Memo κ α}

/- Storing gives a value to its key, if it had none. -/
theorem find?_putIfAbsent
    (key other : κ)
    (value : α) :
    (putIfAbsent key value memo).2.find? other =
      (memo.find? other).or
        (if other == key then some value else none) := by
  unfold putIfAbsent
  split
  · next stored hFind =>
      cases hKey : other == key with
      | true => simp [beq_iff_eq.mp hKey, hFind]
      | false => simp
  · rw [find?, List.lookup_append, List.lookup_cons,
      List.lookup_nil]
    cases other == key with
    | true => rfl
    | false => rfl

omit [LawfulBEq κ] in
/- Storing returns what the key holds, if it holds anything. -/
theorem fst_putIfAbsent
    (key : κ)
    (value : α) :
    (putIfAbsent key value memo).1 =
      (memo.find? key).getD value := by
  unfold putIfAbsent
  split
  · next stored hFind => rw [hFind, Option.getD_some]
  · next hNone => rw [hNone, Option.getD_none]

/- A key holds the value that storing under it returns. -/
theorem find?_putIfAbsent_self
    (key : κ)
    (value : α) :
    (putIfAbsent key value memo).2.find? key =
      some (putIfAbsent key value memo).1 := by
  rw [find?_putIfAbsent, beq_self_eq_true, if_pos rfl]
  unfold putIfAbsent
  cases hFind : memo.find? key with
  | none => rfl
  | some stored => rfl

/- What a key holds was held before or is what was stored. -/
theorem find?_of_find?_putIfAbsent
    {key other : κ}
    {value stored : α}
    (hFind :
      (putIfAbsent key value memo).2.find? other =
        some stored) :
    memo.find? other = some stored ∨
      other = key ∧ stored = value := by
  rw [find?_putIfAbsent, Option.or_eq_some_iff] at hFind
  rcases hFind with hOld | ⟨_, hNew⟩
  · exact Or.inl hOld
  · split at hNew
    · next hKey =>
        exact Or.inr
          ⟨beq_iff_eq.mp hKey, (Option.some.inj hNew).symm⟩
    · cases hNew

end Memo

end DeclaredApi

------------------------------------------------------------
-- Extensions
------------------------------------------------------------

namespace DeclaredApi

namespace Memo

variable {κ α : Type}
variable [BEq κ]

/- Every key holds what it held in another memo. -/
def Extends
    (older newer : Memo κ α) : Prop :=
  ∀ key value,
    older.find? key = some value →
      newer.find? key = some value

theorem Extends.refl
    (memo : Memo κ α) :
    memo.Extends memo :=
  fun _ _ hFind => hFind

theorem Extends.trans
    {first second third : Memo κ α}
    (hFirst : first.Extends second)
    (hSecond : second.Extends third) :
    first.Extends third :=
  fun key value hFind =>
    hSecond key value (hFirst key value hFind)

/- Storing keeps what every key holds. -/
theorem extends_putIfAbsent
    [LawfulBEq κ]
    {memo : Memo κ α}
    (key : κ)
    (value : α) :
    memo.Extends (putIfAbsent key value memo).2 := by
  intro other stored hFind
  rw [find?_putIfAbsent, hFind, Option.some_or]

end Memo

end DeclaredApi
