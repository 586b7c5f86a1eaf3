import DeclaredApi.Name

/-
  The words of a dotted name.

  Splitting a name at its dots and joining the pieces again
  are inverse to each other, so a dotted name is a nonempty
  sequence of words in exactly one way.

  Main declarations:
    * `Name.words`
    * `Name.intercalate_words`
    * `Name.words_intercalate`
    * `Name.isDotted_iff`
-/

------------------------------------------------------------
-- Characters of Words
------------------------------------------------------------

namespace DeclaredApi

namespace Name

/- A character that starts a word also continues one. -/
theorem isWordPart_of_isWordStart
    {c : Char}
    (hStart : isWordStart c = true) :
    isWordPart c = true := by
  simp only [isWordStart, isWordPart, Char.isAlphanum,
    Bool.or_eq_true, decide_eq_true_eq] at *
  rcases hStart with (hAlpha | hUnderscore) | hDollar
  · exact Or.inl (Or.inl (Or.inl hAlpha))
  · exact Or.inl (Or.inr hUnderscore)
  · exact Or.inr hDollar

/- A word has a first character. -/
theorem ne_nil_of_isWord
    {w : List Char}
    (hWord : isWord w = true) :
    w ≠ [] := by
  rintro rfl
  cases hWord

/- The characters of a word all continue words. -/
theorem isWordPart_of_mem
    {w : List Char}
    {c : Char}
    (hWord : isWord w = true)
    (hMem : c ∈ w) :
    isWordPart c = true := by
  cases w with
  | nil => simp at hMem
  | cons d w =>
      simp only [isWord, Bool.and_eq_true,
        List.all_eq_true] at hWord
      rcases List.mem_cons.mp hMem with rfl | hTail
      · exact isWordPart_of_isWordStart hWord.1
      · exact hWord.2 c hTail

/- What goes on with a word is made of such characters. -/
theorem isWord_append_iff
    {left right : List Char}
    (hLeft : left ≠ []) :
    isWord (left ++ right) = true ↔
      isWord left = true ∧ ∀ c ∈ right, isWordPart c = true := by
  cases left with
  | nil => exact absurd rfl hLeft
  | cons c left =>
      simp only [List.cons_append, isWord, List.all_append,
        Bool.and_eq_true, List.all_eq_true, and_assoc]

/- No word contains a dot. -/
theorem dot_not_mem_of_isWord
    {w : List Char}
    (hWord : isWord w = true) :
    '.' ∉ w := by
  intro hDot
  exact absurd (isWordPart_of_mem hWord hDot) (by decide)

end Name

end DeclaredApi

------------------------------------------------------------
-- Splitting and Joining
------------------------------------------------------------

namespace DeclaredApi

namespace Name

/- The pieces of a name between its dots. -/
def words (name : String) : List String :=
  (splitAtDots name.toList).map String.ofList

/- Splitting never returns an empty list. -/
theorem splitAtDots_ne_nil
    (cs : List Char) :
    splitAtDots cs ≠ [] := by
  induction cs with
  | nil => simp [splitAtDots]
  | cons c cs ih =>
      by_cases hDot : c = '.'
      · simp [splitAtDots, hDot]
      · cases hRest : splitAtDots cs with
        | nil => exact absurd hRest ih
        | cons piece pieces =>
            simp [splitAtDots, hDot, hRest]

/- The pieces joined by dots are the text that was split. -/
theorem intercalate_splitAtDots
    (cs : List Char) :
    List.intercalate ['.'] (splitAtDots cs) = cs := by
  induction cs with
  | nil => rfl
  | cons c cs ih =>
      cases hRest : splitAtDots cs with
      | nil => exact absurd hRest (splitAtDots_ne_nil cs)
      | cons piece pieces =>
          rw [hRest] at ih
          by_cases hDot : c = '.'
          · subst hDot
            rw [show splitAtDots ('.' :: cs) =
                [] :: piece :: pieces by
              simp [splitAtDots, hRest]]
            rw [List.intercalate_cons_cons, ih]
            rfl
          · rw [show splitAtDots (c :: cs) =
                (c :: piece) :: pieces by
              simp [splitAtDots, hDot, hRest]]
            rw [← ih]
            cases pieces <;> simp [List.intercalate]

/- A text without dots is one piece. -/
theorem splitAtDots_of_no_dot
    {w : List Char}
    (hDot : '.' ∉ w) :
    splitAtDots w = [w] := by
  induction w with
  | nil => rfl
  | cons c cs ih =>
      simp only [List.mem_cons, not_or] at hDot
      simp [splitAtDots, Ne.symm hDot.1, ih hDot.2]

/- A piece ends at the first dot. -/
theorem splitAtDots_append_dot
    {w : List Char}
    (cs : List Char)
    (hDot : '.' ∉ w) :
    splitAtDots (w ++ '.' :: cs) = w :: splitAtDots cs := by
  induction w with
  | nil => simp [splitAtDots]
  | cons c w ih =>
      simp only [List.mem_cons, not_or] at hDot
      simp [splitAtDots, Ne.symm hDot.1, ih hDot.2]

/- Splitting undoes joining of pieces without dots. -/
theorem splitAtDots_intercalate
    {pieces : List (List Char)}
    (hNonempty : pieces ≠ [])
    (hDots : ∀ w ∈ pieces, '.' ∉ w) :
    splitAtDots (List.intercalate ['.'] pieces) = pieces := by
  induction pieces with
  | nil => exact absurd rfl hNonempty
  | cons w pieces ih =>
      have hHead : '.' ∉ w := hDots w List.mem_cons_self
      cases pieces with
      | nil =>
          simpa [List.intercalate] using
            splitAtDots_of_no_dot hHead
      | cons next rest =>
          have hRest :=
            ih (List.cons_ne_nil next rest)
              (fun v hv => hDots v (List.mem_cons_of_mem w hv))
          rw [List.intercalate_cons_cons, List.append_assoc,
            List.singleton_append,
            splitAtDots_append_dot _ hHead, hRest]

/- A joined text has the characters of each piece. -/
theorem mem_toList_intercalate
    {separator text : String}
    {texts : List String}
    {c : Char}
    (hText : text ∈ texts)
    (hMem : c ∈ text.toList) :
    c ∈ (separator.intercalate texts).toList := by
  rw [String.toList_intercalate]
  induction texts with
  | nil => cases hText
  | cons u texts ih =>
      cases texts with
      | nil =>
          rw [List.mem_singleton] at hText
          subst hText
          simpa [List.intercalate] using hMem
      | cons v texts =>
          rw [List.map_cons, List.map_cons,
            List.intercalate_cons_cons, ← List.map_cons]
          rcases List.mem_cons.mp hText with rfl | hTail
          · exact List.mem_append_left _
              (List.mem_append_left _ hMem)
          · exact List.mem_append_right _ (ih hTail)

end Name

end DeclaredApi

------------------------------------------------------------
-- Dotted Names as Sequences of Words
------------------------------------------------------------

namespace DeclaredApi

namespace Name

/- A name is joined from its words. -/
theorem intercalate_words
    (name : String) :
    ".".intercalate (words name) = name := by
  apply String.toList_injective
  rw [String.toList_intercalate, words, List.map_map]
  rw [show String.toList ∘ String.ofList = id by
    funext cs
    simp]
  rw [List.map_id]
  exact intercalate_splitAtDots name.toList

/- The words of a joined name are the ones it was made of. -/
theorem words_intercalate
    {ws : List String}
    (hNonempty : ws ≠ [])
    (hWords : ∀ w ∈ ws, isWord w.toList = true) :
    words (".".intercalate ws) = ws := by
  rw [words, String.toList_intercalate]
  rw [show ".".toList = ['.'] from rfl]
  rw [splitAtDots_intercalate (by simpa using hNonempty)]
  · simp [Function.comp_def]
  · intro w hw
    rcases List.mem_map.mp hw with ⟨v, hv, rfl⟩
    exact dot_not_mem_of_isWord (hWords v hv)

/- A name has at least one word. -/
theorem words_ne_nil
    (name : String) :
    words name ≠ [] := by
  simpa [words] using splitAtDots_ne_nil name.toList

/- A name is dotted when all its words are words. -/
theorem isDotted_iff
    (name : String) :
    isDotted name = true ↔
      ∀ w ∈ words name, isWord w.toList = true := by
  simp [isDotted, words]

/- Words joined by dots make a dotted name. -/
theorem isDotted_intercalate
    {ws : List String}
    (hNonempty : ws ≠ [])
    (hWords : ∀ w ∈ ws, isWord w.toList = true) :
    isDotted (".".intercalate ws) = true := by
  rw [isDotted_iff, words_intercalate hNonempty hWords]
  exact hWords

end Name

end DeclaredApi
