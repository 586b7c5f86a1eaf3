import DeclaredApi.Proofs.Signature.Strays

/-
  Whole words of texts.

  A whole word is a word that no longer one contains.  Whole
  words never overlap, so they are those that are found from
  left to right.  A character is out of place if it is in no
  whole word and neither a blank nor a symbol; the characters
  out of place are the stray ones.

  Main declarations:
    * `Token.WholeWord`
    * `Token.InWholeWord`
    * `Token.OutOfPlace`
    * `Token.wholeWord_iff`
    * `Token.inWholeWord_iff`
    * `Token.outOfPlace_iff_strayAt`
-/

------------------------------------------------------------
-- Characters of Symbols
------------------------------------------------------------

namespace DeclaredApi

/- A character writes no symbol if it is none of eight. -/
theorem Symbol.ofChar?_eq_none_iff
    {c : Char} :
    ofChar? c = none ↔ c ∉ "?.<>,&[]".toList := by
  have hMarks :
      "?.<>,&[]".toList =
        ['?', '.', '<', '>', ',', '&', '[', ']'] := by
    decide
  rw [hMarks, ofChar?, List.find?_eq_none]
  simp [char, eq_comm]

end DeclaredApi

------------------------------------------------------------
-- Whole Words
------------------------------------------------------------

namespace DeclaredApi

namespace Token

variable {front word rest : List Char}
variable {before after : List Char}
variable {c : Char}

/- A word between two texts that no longer word contains. -/
structure WholeWord
    (front word rest : List Char) : Prop where
  isWord : Name.isWord word = true
  isLongest :
    ∀ left right,
      left <:+ front →
        right <+: rest →
          Name.isWord (left ++ word ++ right) = true →
            left = [] ∧ right = []

/- The character at an offset belongs to a whole word. -/
def InWholeWord
    (cs : List Char)
    (offset : Nat) : Prop :=
  ∃ front word rest,
    cs = front ++ word ++ rest ∧
      WholeWord front word rest ∧
      front.length ≤ offset ∧
      offset < front.length + word.length

/- A word is whole if it goes on to neither side. -/
theorem wholeWord_iff :
    WholeWord front word rest ↔
      Name.isWord word = true ∧
        ¬ EndsInWord front ∧ EndsWord rest := by
  constructor
  · intro hWhole
    refine ⟨hWhole.isWord, ?_, ?_⟩
    · rintro ⟨left, hLeft, hWord⟩
      have hNonempty := Name.ne_nil_of_isWord hWord
      have hLonger :
          Name.isWord (left ++ word ++ []) = true := by
        rw [List.append_nil, Name.isWord_append_iff hNonempty]
        exact ⟨hWord,
          fun _ hMem =>
            Name.isWordPart_of_mem hWhole.isWord hMem⟩
      exact hNonempty
        (hWhole.isLongest left [] hLeft List.nil_prefix hLonger).1
    · intro d hd
      rw [← Bool.not_eq_true]
      intro hPart
      have hPrefix : [d] <+: rest := by
        rcases List.head?_eq_some_iff.mp hd with ⟨others, rfl⟩
        exact ⟨others, rfl⟩
      have hLonger : Name.isWord ([] ++ word ++ [d]) = true := by
        rw [List.nil_append, Name.isWord_append_iff
          (Name.ne_nil_of_isWord hWhole.isWord)]
        exact ⟨hWhole.isWord, by simpa using hPart⟩
      have hNil :=
        (hWhole.isLongest [] [d] List.nil_suffix hPrefix
          hLonger).2
      cases hNil
  · rintro ⟨hWord, hFront, hRest⟩
    refine ⟨hWord, fun left right hLeft hRight hLonger => ?_⟩
    constructor
    · by_contra hNonempty
      rw [List.append_assoc, Name.isWord_append_iff hNonempty]
        at hLonger
      exact hFront ⟨left, hLeft, hLonger.1⟩
    · cases right with
      | nil => rfl
      | cons d right =>
          rcases hRight with ⟨others, rfl⟩
          have hPart :=
            Name.isWordPart_of_mem (c := d) hLonger (by simp)
          rw [hRest d rfl] at hPart
          cases hPart

end Token

end DeclaredApi

------------------------------------------------------------
-- Characters of Whole Words
------------------------------------------------------------

namespace DeclaredApi

namespace Token

variable {before after : List Char}
variable {c : Char}

/-
  What ends in a word ends in one that does not go on to the
  left.  A word in front of another makes one with it, so the
  induction is on what is in front.
-/
theorem exists_first_start
    {word : List Char}
    (front : List Char)
    (hWord : Name.isWord word = true) :
    ∃ front' word',
      front ++ word = front' ++ word' ∧
        Name.isWord word' = true ∧ ¬ EndsInWord front' := by
  induction hLength : front.length using Nat.strong_induction_on
    generalizing front word with
  | _ length ih =>
      by_cases hEnds : EndsInWord front
      · rcases hEnds with ⟨left, ⟨front, rfl⟩, hLeft⟩
        have hNonempty := Name.ne_nil_of_isWord hLeft
        have hLonger : Name.isWord (left ++ word) = true :=
          (Name.isWord_append_iff hNonempty).mpr
            ⟨hLeft,
              fun _ hMem => Name.isWordPart_of_mem hWord hMem⟩
        have hShorter : front.length < length := by
          have hPositive := List.length_pos_of_ne_nil hNonempty
          rw [← hLength, List.length_append]
          omega
        rcases ih _ hShorter front hLonger rfl with
          ⟨front', word', hEq, hFound⟩
        exact ⟨front', word', by rw [List.append_assoc, hEq],
          hFound⟩
      · exact ⟨front, word, rfl, hWord, hEnds⟩

/-
  A character is in a whole word if what it closes ends in a
  word.
-/
theorem inWholeWord_iff :
    InWholeWord (before ++ c :: after) before.length ↔
      EndsInWord (before ++ [c]) := by
  constructor
  · rintro ⟨front, word, rest, hEq, hWhole, hStart, hStop⟩
    have hClosed : before ++ [c] <+: front ++ word ++ rest :=
      ⟨after, by rw [← hEq, List.append_assoc]; rfl⟩
    have hPrefix : before ++ [c] <+: front ++ word := by
      apply List.prefix_of_prefix_length_le hClosed
        (List.prefix_append (front ++ word) rest)
      rw [List.length_append, List.length_append,
        List.length_singleton]
      exact hStop
    have hFront : front <+: before := by
      apply List.prefix_of_prefix_length_le _
        (List.prefix_append before (c :: after)) hStart
      rw [hEq, List.append_assoc]
      exact List.prefix_append front (word ++ rest)
    rcases hFront with ⟨part, rfl⟩
    rw [List.append_assoc, List.prefix_append_right_inj]
      at hPrefix
    rcases hPrefix with ⟨more, rfl⟩
    refine ⟨part ++ [c], ⟨front, by simp⟩, ?_⟩
    exact ((Name.isWord_append_iff (by simp)).mp
      hWhole.isWord).1
  · rintro ⟨part, ⟨front, hPart⟩, hWord⟩
    rcases exists_first_start front hWord with
      ⟨front', word, hEq, hStart, hFront⟩
    rw [hPart] at hEq
    refine ⟨front', word ++ after.takeWhile Name.isWordPart,
      after.dropWhile Name.isWordPart, ?_,
      wholeWord_iff.mpr ⟨?_, hFront, ?_⟩, ?_, ?_⟩
    · rw [List.append_assoc, List.append_assoc,
        List.takeWhile_append_dropWhile, ← List.append_assoc,
        ← hEq]
      simp
    · rw [Name.isWord_append_iff (Name.ne_nil_of_isWord hStart)]
      exact ⟨hStart, fun _ hMem => List.mem_takeWhile_imp hMem⟩
    · exact endsWord_dropWhile after
    · have hLength := congrArg List.length hEq
      have hPositive :=
        List.length_pos_of_ne_nil (Name.ne_nil_of_isWord hStart)
      simp only [List.length_append, List.length_singleton]
        at hLength
      omega
    · have hLength := congrArg List.length hEq
      simp only [List.length_append, List.length_singleton]
        at hLength ⊢
      omega

end Token

end DeclaredApi

------------------------------------------------------------
-- Characters out of Place
------------------------------------------------------------

namespace DeclaredApi

namespace Token

variable {before cs : List Char}
variable {c : Char}
variable {offset : Nat}

/-
  The character at an offset is in no whole word, no blank
  and no symbol.
-/
def OutOfPlace
    (cs : List Char)
    (offset : Nat) : Prop :=
  ¬ InWholeWord cs offset ∧
    ∃ c,
      cs[offset]? = some c ∧
        Text.isBlank c = false ∧ c ∉ "?.<>,&[]".toList

theorem isStray_iff :
    IsStray before c ↔
      ¬ EndsInWord (before ++ [c]) ∧
        Text.isBlank c = false ∧ c ∉ "?.<>,&[]".toList := by
  rw [endsInWord_append_iff, not_or, Bool.not_eq_true,
    ← Symbol.ofChar?_eq_none_iff]
  constructor
  · rintro ⟨hStart, hSymbol, hBlank, hGoesOn⟩
    exact ⟨⟨hStart, hGoesOn⟩, hBlank, hSymbol⟩
  · rintro ⟨⟨hStart, hGoesOn⟩, hBlank, hSymbol⟩
    exact ⟨hStart, hSymbol, hBlank, hGoesOn⟩

/- The characters out of place are the stray ones. -/
theorem outOfPlace_iff_strayAt :
    OutOfPlace cs offset ↔ StrayAt cs offset := by
  constructor
  · rintro ⟨hOutside, c, hChar, hOther⟩
    rcases List.getElem?_eq_some_iff.mp hChar with ⟨hLt, rfl⟩
    have hSplit :
        cs = cs.take offset ++ cs[offset] :: cs.drop (offset + 1) := by
      rw [← List.drop_eq_getElem_cons hLt,
        List.take_append_drop]
    have hOffset : (cs.take offset).length = offset := by
      rw [List.length_take]
      omega
    refine ⟨_, _, _, hSplit, hOffset,
      isStray_iff.mpr ⟨?_, hOther⟩⟩
    rw [← inWholeWord_iff, ← hSplit, hOffset]
    exact hOutside
  · rintro ⟨before, c, after, rfl, rfl, hStray⟩
    rcases isStray_iff.mp hStray with ⟨hOutside, hOther⟩
    exact ⟨inWholeWord_iff.not.mpr hOutside, c, by simp, hOther⟩

end Token

end DeclaredApi
