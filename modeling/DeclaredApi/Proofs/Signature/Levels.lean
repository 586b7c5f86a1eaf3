import DeclaredApi.Proofs.Signature.Phrase

/-
  Levels of argument lists.

  Each opening mark of an argument list opens one more level.
  The lexemes of a phrase open no more levels than it nests
  deep, and leave none of them open.  So the first mark that
  opens too deep a level is found behind the lexemes of
  phrases that do not nest as deep.

  Main declarations:
    * `Token.firstTooDeep`
    * `Lexeme.levelWithin`
    * `Token.firstTooDeep_append`
    * `Phrase.levelWithin_lexemes`
-/

------------------------------------------------------------
-- Levels
------------------------------------------------------------

namespace DeclaredApi

/-
  The offset of the first mark that opens a level beyond the
  limit, where some levels are open before.
-/
def Token.firstTooDeep
    (limit : Nat) :
    (level : Nat) → List Token → Option Nat
| _, [] => none
| level, ⟨.symbol .less, position⟩ :: rest =>
    if level < limit then
      firstTooDeep limit (level + 1) rest
    else
      some position
| level, ⟨.symbol .greater, _⟩ :: rest =>
    firstTooDeep limit (level - 1) rest
| level, _ :: rest => firstTooDeep limit level rest

/-
  The levels that are open after some lexemes, if none of
  them opens one beyond the limit.
-/
def Lexeme.levelWithin
    (limit : Nat) :
    (level : Nat) → List Lexeme → Option Nat
| level, [] => some level
| level, .symbol .less :: rest =>
    if level < limit then
      levelWithin limit (level + 1) rest
    else
      none
| level, .symbol .greater :: rest =>
    levelWithin limit (level - 1) rest
| level, _ :: rest => levelWithin limit level rest

namespace Lexeme

variable {limit level : Nat}

/- Levels are counted along the lexemes. -/
theorem levelWithin_append
    {after : Nat}
    {first : List Lexeme}
    (second : List Lexeme)
    (hFirst : levelWithin limit level first = some after) :
    levelWithin limit level (first ++ second) =
      levelWithin limit after second := by
  fun_induction levelWithin limit level first with
  | case1 level =>
      cases hFirst
      rfl
  | case2 level rest hLess ih =>
      rw [List.cons_append, levelWithin, if_pos hLess,
        ih hFirst]
  | case3 level rest hLess => cases hFirst
  | case4 level rest ih =>
      rw [List.cons_append, levelWithin, ih hFirst]
  | case5 level lexeme rest hLess hGreater ih =>
      rw [List.cons_append, levelWithin, ih hFirst]
      · exact hLess
      · exact hGreater

/- Lexemes that are no marks of argument lists open nothing. -/
theorem levelWithin_of_ne
    {lexemes : List Lexeme}
    (limit level : Nat)
    (hOther :
      ∀ lexeme ∈ lexemes,
        lexeme ≠ .symbol .less ∧ lexeme ≠ .symbol .greater) :
    levelWithin limit level lexemes = some level := by
  induction lexemes with
  | nil => rfl
  | cons lexeme lexemes ih =>
      rw [List.forall_mem_cons] at hOther
      rw [levelWithin, ih hOther.2]
      · exact hOther.1.1
      · exact hOther.1.2

end Lexeme

/- Behind lexemes within the limit the search goes on. -/
theorem Token.firstTooDeep_append
    {limit level after : Nat}
    {used : List Token}
    (rest : List Token)
    (hUsed :
      Lexeme.levelWithin limit level
        (used.map Token.lexeme) =
          some after) :
    firstTooDeep limit level (used ++ rest) =
      firstTooDeep limit after rest := by
  fun_induction firstTooDeep limit level used with
  | case1 level =>
      cases hUsed
      rfl
  | case2 level position used hLess ih =>
      rw [List.map_cons, Lexeme.levelWithin, if_pos hLess]
        at hUsed
      rw [List.cons_append, firstTooDeep, if_pos hLess, ih hUsed]
  | case3 level position used hLess =>
      rw [List.map_cons, Lexeme.levelWithin, if_neg hLess]
        at hUsed
      cases hUsed
  | case4 level position used ih =>
      rw [List.map_cons, Lexeme.levelWithin] at hUsed
      rw [List.cons_append, firstTooDeep, ih hUsed]
  | case5 level t used hLess hGreater ih =>
      rcases t with ⟨lexeme, position⟩
      rw [List.map_cons, Lexeme.levelWithin] at hUsed
      · rw [List.cons_append, firstTooDeep, ih hUsed]
        · exact hLess
        · exact hGreater
      · exact fun hEq => hLess position (by rw [← hEq])
      · exact fun hEq => hGreater position (by rw [← hEq])

end DeclaredApi

------------------------------------------------------------
-- Levels of Phrases
------------------------------------------------------------

namespace DeclaredApi

namespace Phrase

open Lexeme

variable {limit level : Nat}

theorem levelWithin_dottedLexemes
    (limit level : Nat)
    (words : List String) :
    levelWithin limit level (dottedLexemes words) =
      some level := by
  apply levelWithin_of_ne
  induction words with
  | nil => simp [dottedLexemes]
  | cons w words ih => simpa [dottedLexemes] using ih

theorem levelWithin_bracketLexemes
    (limit level dimensions : Nat) :
    levelWithin limit level (bracketLexemes dimensions) =
      some level := by
  apply levelWithin_of_ne
  induction dimensions with
  | zero => simp [bracketLexemes]
  | succ dimensions ih => simpa [bracketLexemes] using ih

/- Phrases after marks keep the level that each of them keeps. -/
theorem levelWithin_lexemesAfter
    {mark : Symbol}
    {ps : List Phrase}
    (hMark : mark ≠ .less ∧ mark ≠ .greater)
    (hEach :
      ∀ p ∈ ps,
        levelWithin limit level p.lexemes = some level) :
    levelWithin limit level (lexemesAfter mark ps) =
      some level := by
  induction ps with
  | nil => rfl
  | cons p ps ih =>
      rw [List.forall_mem_cons] at hEach
      rw [lexemesAfter, levelWithin,
        levelWithin_append _ hEach.1, ih hEach.2]
      · exact fun hEq => hMark.1 (by injection hEq)
      · exact fun hEq => hMark.2 (by injection hEq)

/- An argument list opens one level and closes it. -/
theorem levelWithin_argumentLexemes
    {a : Phrase}
    {as : List Phrase}
    (hLevel : level < limit)
    (hEach :
      ∀ p ∈ a :: as,
        levelWithin limit (level + 1) p.lexemes =
          some (level + 1)) :
    levelWithin limit level (argumentLexemes (a :: as)) =
      some level := by
  rw [List.forall_mem_cons] at hEach
  have hOthers :
      levelWithin limit (level + 1) (lexemesAfter .comma as) =
        some (level + 1) :=
    levelWithin_lexemesAfter (by decide) hEach.2
  rw [argumentLexemes, levelWithin, if_pos hLevel,
    levelWithin_append _ hEach.1, levelWithin_append _ hOthers,
    levelWithin, levelWithin]
  rfl

/- A phrase keeps the level if it nests within the limit. -/
theorem levelWithin_lexemes
    {p : Phrase}
    (hNesting : level + p.nesting ≤ limit) :
    levelWithin limit level p.lexemes = some level := by
  induction p generalizing level with
  | bare => simp [lexemes, levelWithin]
  | bounded relation bound bounds ihBound ihBounds =>
      rw [nesting] at hNesting
      have hEach :
          ∀ b ∈ bounds,
            levelWithin limit level b.lexemes = some level := by
        intro b hb
        have hLe :=
          (nestingAll_le_iff bounds _).mp (Nat.le_refl _) b hb
        exact ihBounds b hb (by omega)
      rw [lexemes, levelWithin, levelWithin,
        levelWithin_append _ (ihBound (by omega)),
        levelWithin_lexemesAfter (by decide) hEach] <;> simp
  | named word words arguments dimensions ih =>
      have hArguments :
          levelWithin limit level (argumentLexemes arguments) =
            some level := by
        cases arguments with
        | nil => rfl
        | cons a as =>
            rw [nesting] at hNesting
            apply levelWithin_argumentLexemes (by omega)
            intro q hq
            have hLe :=
              (nestingAll_le_iff (a :: as) _).mp (Nat.le_refl _)
                q hq
            exact ih q hq (by omega)
      rw [lexemes, levelWithin,
        levelWithin_append _
          (levelWithin_dottedLexemes limit level words),
        levelWithin_append _ hArguments,
        levelWithin_bracketLexemes] <;> simp

end Phrase

end DeclaredApi
