import DeclaredApi.Proofs.Name.Dimensions
import DeclaredApi.Text.Blank
import Mathlib.Data.List.TakeWhile

/-
  Blanks in names.

  Blanks may be taken out of a name, or off the ends of the
  pieces between its dots.  The two agree as long as no blank
  stands inside a piece.  Taking out spaces agrees with taking
  out all blanks as long as there are no others.

  Main declarations:
    * `Text.withoutBlanks`
    * `Text.hasOnlySpaces`
    * `Name.isUndivided`
    * `Name.takesArguments`
    * `Text.eq_append_trim`
    * `Text.trim_append`
    * `Name.isWord_trim_iff`
    * `Name.words_withoutBlanks`
    * `Name.forall_isWord_trim_iff`
    * `Name.takesArguments_withoutSpaces_iff`
-/

------------------------------------------------------------
-- Blanks and Words
------------------------------------------------------------

namespace DeclaredApi

namespace Name

variable {c : Char}

/- The characters of words are printable ASCII characters. -/
theorem toNat_of_isWordPart
    (hPart : isWordPart c = true) :
    36 ≤ c.toNat ∧ c.toNat ≤ 122 := by
  delta isWordPart Char.isAlphanum Char.isAlpha Char.isUpper
    Char.isLower Char.isDigit at hPart
  simp only [Bool.or_eq_true, Bool.and_eq_true,
    decide_eq_true_eq, ge_iff_le, UInt32.le_iff_toNat_le]
    at hPart
  rcases hPart with
    (((⟨hLow, hHigh⟩ | ⟨hLow, hHigh⟩) | ⟨hLow, hHigh⟩) | rfl) |
      rfl
  · simp at hLow hHigh
    omega
  · simp at hLow hHigh
    omega
  · simp at hLow hHigh
    omega
  · decide
  · decide

/- No blank belongs to a word. -/
theorem isWordPart_of_isBlank
    (hBlank : Text.isBlank c = true) :
    isWordPart c = false := by
  rw [Bool.eq_false_iff]
  intro hPart
  have hCode := toNat_of_isWordPart hPart
  simp only [Text.isBlank, Text.inRanges, Text.blankRanges,
    List.any_cons, List.any_nil, Bool.or_eq_true,
    Bool.and_eq_true, decide_eq_true_eq, Bool.false_eq_true,
    or_false] at hBlank
  omega

/- So no blank starts one. -/
theorem isWordStart_of_isBlank
    (hBlank : Text.isBlank c = true) :
    isWordStart c = false := by
  rw [Bool.eq_false_iff]
  intro hStart
  have hPart := isWordPart_of_isWordStart hStart
  rw [isWordPart_of_isBlank hBlank] at hPart
  cases hPart

theorem isBlank_of_isWordPart
    (hPart : isWordPart c = true) :
    Text.isBlank c = false := by
  rw [Bool.eq_false_iff]
  intro hBlank
  rw [isWordPart_of_isBlank hBlank] at hPart
  cases hPart

/- No character of a word is a blank. -/
theorem isBlank_of_mem_word
    {w : List Char}
    (hWord : isWord w = true)
    (hMem : c ∈ w) :
    Text.isBlank c = false :=
  isBlank_of_isWordPart (isWordPart_of_mem hWord hMem)

end Name

end DeclaredApi

------------------------------------------------------------
-- Trimmed Texts
------------------------------------------------------------

namespace DeclaredApi

namespace Text

variable {isOuter : Char → Bool}
variable {front middle back : List Char}

/- What is trimmed off stands in front and behind. -/
theorem eq_append_trim
    (isOuter : Char → Bool)
    (chars : List Char) :
    ∃ front back,
      chars = front ++ (trim isOuter chars ++ back) ∧
        (∀ c ∈ front, isOuter c = true) ∧
        ∀ c ∈ back, isOuter c = true := by
  have hFront :=
    List.takeWhile_append_dropWhile
      (p := isOuter) (l := chars)
  have hBack :=
    congrArg List.reverse
      (List.takeWhile_append_dropWhile
        (p := isOuter) (l := (chars.dropWhile isOuter).reverse))
  rw [List.reverse_append, List.reverse_reverse] at hBack
  refine ⟨chars.takeWhile isOuter,
    ((chars.dropWhile isOuter).reverse.takeWhile
      isOuter).reverse, ?_, ?_, ?_⟩
  · rw [trim, hBack, hFront]
  · exact fun c hc => List.mem_takeWhile_imp hc
  · exact fun c hc =>
      List.mem_takeWhile_imp (List.mem_reverse.mp hc)

/- What is left of a text was in it. -/
theorem mem_of_mem_trim
    {chars : List Char}
    {c : Char}
    (hMem : c ∈ trim isOuter chars) :
    c ∈ chars := by
  rcases eq_append_trim isOuter chars with ⟨front, back, hEq, _⟩
  rw [hEq]
  exact List.mem_append_right _ (List.mem_append_left _ hMem)

/- A part without outer characters is left between them. -/
theorem trim_append
    (hFront : ∀ c ∈ front, isOuter c = true)
    (hMiddle : ∀ c ∈ middle, isOuter c = false)
    (hBack : ∀ c ∈ back, isOuter c = true) :
    trim isOuter (front ++ (middle ++ back)) = middle := by
  have hKeeps :
      ∀ inner : List Char,
        (∀ c ∈ inner, isOuter c = false) →
          inner.dropWhile isOuter = inner := by
    intro inner hInner
    cases inner with
    | nil => rfl
    | cons c inner =>
        rw [List.dropWhile_cons_of_neg]
        simp [hInner c List.mem_cons_self]
  rw [trim, List.dropWhile_append_of_pos hFront]
  cases middle with
  | nil =>
      have hNone : back.dropWhile isOuter = [] := by
        rwa [List.dropWhile_eq_nil_iff]
      rw [List.nil_append, hNone]
      rfl
  | cons c middle =>
      have hHead : ¬ isOuter c = true := by
        simp [hMiddle c List.mem_cons_self]
      simp only [List.cons_append,
        List.dropWhile_cons_of_neg hHead]
      rw [← List.cons_append, List.reverse_append,
        List.dropWhile_append_of_pos
          (fun d hd => hBack d (List.mem_reverse.mp hd)),
        hKeeps _ (fun d hd =>
          hMiddle d (List.mem_reverse.mp hd)),
        List.reverse_reverse]

/- Nothing but outer characters is trimmed off. -/
theorem filter_trim
    (isOuter : Char → Bool)
    (chars : List Char) :
    (trim isOuter chars).filter (fun c => !isOuter c) =
      chars.filter (fun c => !isOuter c) := by
  have hNone :
      ∀ outer : List Char,
        (∀ c ∈ outer, isOuter c = true) →
          outer.filter (fun c => !isOuter c) = [] := by
    intro outer hOuter
    rw [List.filter_eq_nil_iff]
    intro c hc
    simp [hOuter c hc]
  rcases eq_append_trim isOuter chars with
    ⟨front, back, hEq, hFront, hBack⟩
  have hFiltered :=
    congrArg (List.filter fun c => !isOuter c) hEq
  rw [List.filter_append, List.filter_append, hNone _ hFront,
    hNone _ hBack, List.nil_append, List.append_nil]
    at hFiltered
  exact hFiltered.symm

/- A text with its blanks taken out. -/
def withoutBlanks (text : String) : String :=
  String.ofList (text.toList.filter (fun c => !isBlank c))

/- The blanks of a text are all spaces. -/
def hasOnlySpaces (text : String) : Bool :=
  text.toList.all (fun c => !isBlank c || c == ' ')

/- There is nothing else to take out then. -/
theorem withoutSpaces_of_hasOnlySpaces
    {text : String}
    (hSpaces : hasOnlySpaces text = true) :
    withoutSpaces text = withoutBlanks text := by
  rw [hasOnlySpaces, List.all_eq_true] at hSpaces
  rw [withoutSpaces, withoutBlanks]
  apply congrArg String.ofList
  apply List.filter_congr
  intro c hc
  have hSpace := hSpaces c hc
  by_cases hEq : c = ' '
  · subst hEq
    decide
  · have hBlank : isBlank c = false := by
      simpa [hEq] using hSpace
    simp [hEq, hBlank]

end Text

end DeclaredApi

------------------------------------------------------------
-- Divided Words
------------------------------------------------------------

namespace DeclaredApi

namespace Name

/- Blanks stand at the ends of the pieces between the dots. -/
def isUndivided (name : String) : Bool :=
  (splitAtDots name.toList).all (fun piece =>
    (Text.trim Text.isBlank piece).all (fun c =>
      !Text.isBlank c))

/- A name of types that may have type arguments. -/
def takesArguments (name : String) : Bool :=
  isDotted name && !isPrimitive name

/- A trimmed piece is a word if no blank divides it. -/
theorem isWord_trim_iff
    (piece : List Char) :
    isWord (Text.trim Text.isBlank piece) = true ↔
      isWord (piece.filter (fun c => !Text.isBlank c)) = true ∧
        (Text.trim Text.isBlank piece).all
          (fun c => !Text.isBlank c) = true := by
  rw [← Text.filter_trim]
  constructor
  · intro hWord
    have hAll :
        ∀ c ∈ Text.trim Text.isBlank piece,
          (!Text.isBlank c) = true := by
      intro c hc
      rw [isBlank_of_mem_word hWord hc]
      rfl
    rw [List.filter_eq_self.mpr hAll]
    exact ⟨hWord, List.all_eq_true.mpr hAll⟩
  · rintro ⟨hWord, hAll⟩
    rwa [List.filter_eq_self.mpr (List.all_eq_true.mp hAll)]
      at hWord

/- Dots stay where they are when blanks are taken out. -/
theorem splitAtDots_filter
    (cs : List Char) :
    splitAtDots (cs.filter (fun c => !Text.isBlank c)) =
      (splitAtDots cs).map
        (List.filter (fun c => !Text.isBlank c)) := by
  induction cs with
  | nil => rfl
  | cons c cs ih =>
      cases hRest : splitAtDots cs with
      | nil => exact absurd hRest (splitAtDots_ne_nil cs)
      | cons piece pieces =>
          rw [hRest] at ih
          by_cases hDot : c = '.'
          · subst hDot
            rw [List.filter_cons_of_pos (by decide)]
            simp [splitAtDots, ih, hRest]
          · cases hBlank : Text.isBlank c with
            | false =>
                rw [List.filter_cons_of_pos (by simp [hBlank])]
                simp [splitAtDots, hDot, ih, hRest, hBlank]
            | true =>
                rw [List.filter_cons_of_neg (by simp [hBlank])]
                simp [splitAtDots, hDot, ih, hRest, hBlank]

/- Its pieces are those of the name without their blanks. -/
theorem words_withoutBlanks
    (name : String) :
    words (Text.withoutBlanks name) =
      (splitAtDots name.toList).map fun piece =>
        String.ofList (piece.filter (fun c => !Text.isBlank c)) := by
  rw [words, Text.withoutBlanks, String.toList_ofList,
    splitAtDots_filter, List.map_map]
  rfl

/-
  The trimmed pieces of a name are words if the name without
  its blanks is dotted and no blank divides a piece.
-/
theorem forall_isWord_trim_iff
    (name : String) :
    (∀ piece ∈ splitAtDots name.toList,
      isWord (Text.trim Text.isBlank piece) = true) ↔
      isDotted (Text.withoutBlanks name) = true ∧
        isUndivided name = true := by
  simp only [isWord_trim_iff, isDotted_iff,
    words_withoutBlanks, List.forall_mem_map,
    String.toList_ofList, isUndivided, List.all_eq_true]
  exact forall₂_and

/- They are the words of the name without its blanks. -/
theorem map_trim_splitAtDots
    {name : String}
    (hUndivided : isUndivided name = true) :
    (splitAtDots name.toList).map (fun piece =>
        String.ofList (Text.trim Text.isBlank piece)) =
      words (Text.withoutBlanks name) := by
  rw [isUndivided, List.all_eq_true] at hUndivided
  rw [words_withoutBlanks]
  apply List.map_congr_left
  intro piece hPiece
  rw [← Text.filter_trim, List.filter_eq_self.mpr
    (List.all_eq_true.mp (hUndivided piece hPiece))]

/-
  A name is dotted without its spaces exactly if it is so
  without its blanks, and these are all spaces.
-/
theorem isDotted_withoutSpaces_iff
    (name : String) :
    isDotted (Text.withoutSpaces name) = true ↔
      isDotted (Text.withoutBlanks name) = true ∧
        Text.hasOnlySpaces name = true := by
  constructor
  · intro hDotted
    have hSpaces : Text.hasOnlySpaces name = true := by
      rw [Text.hasOnlySpaces, List.all_eq_true]
      intro c hc
      by_cases hEq : c = ' '
      · simp [hEq]
      · have hMem : c ∈ (Text.withoutSpaces name).toList := by
          rw [Text.withoutSpaces, String.toList_ofList,
            List.mem_filter]
          exact ⟨hc, by simpa using hEq⟩
        rcases eq_dot_or_isWordPart hDotted hMem with
          rfl | hPart
        · decide
        · rw [isBlank_of_isWordPart hPart]
          rfl
    rw [Text.withoutSpaces_of_hasOnlySpaces hSpaces] at hDotted
    exact ⟨hDotted, hSpaces⟩
  · rintro ⟨hDotted, hSpaces⟩
    rwa [Text.withoutSpaces_of_hasOnlySpaces hSpaces]

/- The same holds of names that take arguments. -/
theorem takesArguments_withoutSpaces_iff
    (name : String) :
    takesArguments (Text.withoutSpaces name) = true ↔
      takesArguments (Text.withoutBlanks name) = true ∧
        Text.hasOnlySpaces name = true := by
  simp only [takesArguments, Bool.and_eq_true,
    isDotted_withoutSpaces_iff]
  constructor
  · rintro ⟨⟨hDotted, hSpaces⟩, hOther⟩
    rw [Text.withoutSpaces_of_hasOnlySpaces hSpaces] at hOther
    exact ⟨⟨hDotted, hOther⟩, hSpaces⟩
  · rintro ⟨⟨hDotted, hOther⟩, hSpaces⟩
    rw [Text.withoutSpaces_of_hasOnlySpaces hSpaces]
    exact ⟨⟨hDotted, hSpaces⟩, hOther⟩

end Name

end DeclaredApi
