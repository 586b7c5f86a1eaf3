import DeclaredApi.Proofs.Name.Words

/-
  Dimensions of a base.

  A dotted name contains no brackets, so taking the bracket
  pairs off a base gives back the name and the number of
  pairs that were written after it.

  Main declarations:
    * `Name.bracket_not_mem_of_isDotted`
    * `Name.splitDimensions_append_brackets`
    * `Name.not_mem_base`
    * `Name.append_brackets_splitDimensions`
-/

------------------------------------------------------------
-- Characters of Dotted Names
------------------------------------------------------------

namespace DeclaredApi

namespace Name

/- Each character is a dot or stands in a piece. -/
theorem eq_dot_or_mem_splitAtDots
    {cs : List Char}
    {c : Char}
    (hMem : c ∈ cs) :
    c = '.' ∨ ∃ piece ∈ splitAtDots cs, c ∈ piece := by
  induction cs with
  | nil => simp at hMem
  | cons d cs ih =>
      cases hPieces : splitAtDots cs with
      | nil => exact absurd hPieces (splitAtDots_ne_nil cs)
      | cons piece pieces =>
          rw [hPieces] at ih
          by_cases hDot : d = '.'
          · rcases List.mem_cons.mp hMem with rfl | hTail
            · exact Or.inl hDot
            · simpa [splitAtDots, hDot, hPieces] using ih hTail
          · rcases List.mem_cons.mp hMem with rfl | hTail
            · simp [splitAtDots, hDot, hPieces]
            · rcases ih hTail with hEq | ⟨q, hq, hc⟩
              · exact Or.inl hEq
              · right
                rcases List.mem_cons.mp hq with rfl | hRest
                · exact ⟨d :: q, by
                    simp [splitAtDots, hDot, hPieces],
                    List.mem_cons_of_mem d hc⟩
                · exact ⟨q, by
                    simp [splitAtDots, hDot, hPieces, hRest],
                    hc⟩

/- The characters of a dotted name are dots or in words. -/
theorem eq_dot_or_isWordPart
    {name : String}
    {c : Char}
    (hDotted : isDotted name = true)
    (hMem : c ∈ name.toList) :
    c = '.' ∨ isWordPart c = true := by
  rcases eq_dot_or_mem_splitAtDots hMem with hDot | hPiece
  · exact Or.inl hDot
  · rcases hPiece with ⟨piece, hPiece, hMem⟩
    have hWord := List.all_eq_true.mp hDotted piece hPiece
    exact Or.inr (isWordPart_of_mem hWord hMem)

/- A dotted name contains no closing bracket. -/
theorem bracket_not_mem_of_isDotted
    {name : String}
    (hDotted : isDotted name = true) :
    ']' ∉ name.toList := by
  intro hMem
  rcases eq_dot_or_isWordPart hDotted hMem with hDot | hPart
  · exact absurd hDot (by decide)
  · exact absurd hPart (by decide)

end Name

end DeclaredApi

------------------------------------------------------------
-- Bracket Pairs
------------------------------------------------------------

namespace DeclaredApi

namespace Name

/- All the bracket pairs in front of a text are taken. -/
theorem takeBrackets_brackets
    (dimensions : Nat)
    (rest : List Char) :
    takeBrackets
        ((brackets dimensions).toList.reverse ++ rest) =
      ((takeBrackets rest).1,
        (takeBrackets rest).2 + dimensions) := by
  induction dimensions generalizing rest with
  | zero => rfl
  | succ dimensions ih =>
      rw [brackets, String.toList_append, List.reverse_append,
        List.append_assoc]
      have hPair :
          "[]".toList.reverse ++ rest = ']' :: '[' :: rest :=
        rfl
      rw [hPair, ih, takeBrackets]
      simp only [Prod.mk.injEq, true_and]
      omega

/- Nothing is taken off a text without brackets. -/
theorem takeBrackets_of_not_mem
    {cs : List Char}
    (hBracket : ']' ∉ cs) :
    takeBrackets cs = (cs, 0) := by
  unfold takeBrackets
  split
  · simp at hBracket
  · rfl

/- Brackets after a text are more dimensions of its element. -/
theorem splitDimensions_brackets
    (base : String)
    (dimensions : Nat) :
    splitDimensions (base ++ brackets dimensions) =
      ((splitDimensions base).1,
        (splitDimensions base).2 + dimensions) := by
  rw [splitDimensions, String.toList_append,
    List.reverse_append, takeBrackets_brackets]
  rfl

/- A dotted name with brackets splits into the two. -/
theorem splitDimensions_append_brackets
    {name : String}
    (hDotted : isDotted name = true)
    (dimensions : Nat) :
    splitDimensions (name ++ brackets dimensions) =
      (name, dimensions) := by
  have hNone :
      takeBrackets name.toList.reverse =
        (name.toList.reverse, 0) :=
    takeBrackets_of_not_mem
      (by simpa using bracket_not_mem_of_isDotted hDotted)
  rw [splitDimensions_brackets, splitDimensions, hNone]
  simp

/- Brackets are all that is written for dimensions. -/
theorem mem_brackets
    {dimensions : Nat}
    {c : Char}
    (hMem : c ∈ (brackets dimensions).toList) :
    c = '[' ∨ c = ']' := by
  induction dimensions with
  | zero => simp [brackets] at hMem
  | succ dimensions ih =>
      rw [brackets, String.toList_append] at hMem
      rcases List.mem_append.mp hMem with hPair | hRest
      · simpa using hPair
      · exact ih hRest

/- A base has no characters but those of names and brackets. -/
theorem not_mem_base
    {name : String}
    {c : Char}
    (dimensions : Nat)
    (hDotted : isDotted name = true)
    (hOther : isWordPart c = false)
    (hMarks : c ∉ ['.', '[', ']']) :
    c ∉ (name ++ brackets dimensions).toList := by
  intro hMem
  rw [String.toList_append] at hMem
  rcases List.mem_append.mp hMem with hName | hBrackets
  · rcases eq_dot_or_isWordPart hDotted hName with rfl | hPart
    · exact hMarks (by decide)
    · rw [hOther] at hPart
      cases hPart
  · rcases mem_brackets hBrackets with rfl | rfl
    · exact hMarks (by decide)
    · exact hMarks (by decide)

/- Bracket pairs are written one after the other. -/
theorem brackets_add
    (first second : Nat) :
    brackets (first + second) =
      brackets first ++ brackets second := by
  induction first with
  | zero => simp [brackets]
  | succ first ih =>
      rw [Nat.succ_add, brackets, ih, brackets,
        String.append_assoc]

/- Taken bracket pairs are put back in front of the rest. -/
theorem reverse_brackets_append_takeBrackets
    (cs : List Char) :
    (brackets (takeBrackets cs).2).toList.reverse ++
        (takeBrackets cs).1 =
      cs := by
  induction cs using takeBrackets.induct with
  | case1 rest element dimensions hTake ih =>
      rw [hTake] at ih
      rw [takeBrackets, hTake]
      have hPairs :
          (brackets (dimensions + 1)).toList.reverse =
            ']' :: '[' :: (brackets dimensions).toList.reverse := by
        rw [brackets_add, String.toList_append,
          List.reverse_append]
        rfl
      simp only [hPairs, List.cons_append, ih]
  | case2 rest hOther =>
      rw [takeBrackets.eq_2 rest hOther]
      rfl

/- A base is its element name with its brackets. -/
theorem append_brackets_splitDimensions
    (base : String) :
    (splitDimensions base).1 ++
        brackets (splitDimensions base).2 =
      base := by
  apply String.toList_injective
  have hTaken :=
    congrArg List.reverse
      (reverse_brackets_append_takeBrackets
        base.toList.reverse)
  simpa [splitDimensions] using hTaken

end Name

end DeclaredApi
