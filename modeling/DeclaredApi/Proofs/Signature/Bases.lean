import DeclaredApi.Proofs.Signature.Strays
import Mathlib.Data.List.TakeWhile

/-
  The lexemes of a base.

  A text may be scanned in parts, if the later part does not
  go on with a word.  Then each lexeme stands between blanks,
  and a base has the lexemes of a dotted name exactly if each
  piece between its dots is a word between blanks.

  Main declarations:
    * `Token.lexes_of_scanFrom`
    * `Token.lexes_append_iff`
    * `Token.exists_gap_of_lexes`
    * `Token.lexes_base_iff`
-/

------------------------------------------------------------
-- Texts in Parts
------------------------------------------------------------

namespace DeclaredApi

namespace Token

variable {inWord : Bool}
variable {position : Nat}
variable {cs ds : List Char}
variable {lexemes others : List Lexeme}

/- The lexemes that are scanned do not depend on the offset. -/
theorem lexes_of_scanFrom
    {tokens : List Token}
    (hScan : scanFrom inWord position cs = .ok tokens) :
    Lexes inWord cs (tokens.map Token.lexeme) := by
  induction cs generalizing inWord position tokens with
  | nil =>
      cases hScan
      exact Lexes.nil inWord
  | cons c cs ih =>
      rcases scanFrom_cons_cases hScan with
        ⟨rfl, hPart, hRest⟩ | ⟨rfl, hStart, others, hOthers, rfl⟩ |
          ⟨hBlank, hRest⟩ | ⟨s, others, hSymbol, hOthers, rfl⟩
      · have hOnly : ∀ d ∈ [c], Name.isWordPart d = true := by
          simpa using hPart
        exact Lexes.pass hOnly (ih hRest)
      · exact (ih hOthers).start hStart
      · exact Lexes.ofEnd (EndsWord.blank cs hBlank)
          ((ih hRest).blank hBlank)
      · rw [← char_of_ofChar? hSymbol]
        exact Lexes.ofEnd (EndsWord.symbol s cs)
          ((ih hOthers).symbol s)

theorem Lexes.unique
    (hLexes : Lexes inWord cs lexemes)
    (hOthers : Lexes inWord cs others) :
    lexemes = others := by
  rcases hLexes 0 with ⟨tokens, hTokens, rfl⟩
  rcases hOthers 0 with ⟨more, hMore, rfl⟩
  rw [hTokens] at hMore
  rw [Except.ok.inj hMore]

/- A text is scanned in two parts. -/
theorem scanFrom_append
    (hEnd : EndsWord ds) :
    scanFrom inWord position (cs ++ ds) =
      (do
        let tokens ← scanFrom inWord position cs
        let more ← scanFrom false (position + cs.length) ds
        pure (tokens ++ more)) := by
  induction cs generalizing inWord position with
  | nil =>
      rw [List.nil_append, scanFrom_of_endsWord hEnd]
      change _ = scanFrom false position ds >>= pure
      rw [bind_pure]
  | cons c cs ih =>
      have hPass :
          ∀ flag : Bool,
            scanFrom flag (position + 1) (cs ++ ds) =
              (do
                let tokens ← scanFrom flag (position + 1) cs
                let more ←
                  scanFrom false (position + (c :: cs).length) ds
                pure (tokens ++ more)) := by
        intro flag
        rw [ih, List.length_cons, Nat.add_comm cs.length,
          Nat.add_assoc]
      have hBefore :
          ∀ (token : Token) (flag : Bool),
            before token (scanFrom flag (position + 1) (cs ++ ds)) =
              (do
                let tokens ←
                  before token (scanFrom flag (position + 1) cs)
                let more ←
                  scanFrom false (position + (c :: cs).length) ds
                pure (tokens ++ more)) := by
        intro token flag
        rw [hPass flag]
        cases scanFrom flag (position + 1) cs with
        | error stray => rfl
        | ok tokens =>
            cases scanFrom false (position + (c :: cs).length)
                ds with
            | error stray => rfl
            | ok more => rfl
      rw [List.cons_append, scanFrom.eq_2, scanFrom.eq_2,
        takeWhile_append_of_endsWord hEnd]
      split
      · exact hPass true
      · split
        · exact hBefore _ true
        · split
          · exact hPass false
          · split
            · exact hBefore _ false
            · rfl

/- So are its lexemes. -/
theorem lexes_append_iff
    (hEnd : EndsWord ds) :
    Lexes inWord (cs ++ ds) lexemes ↔
      ∃ first others,
        Lexes inWord cs first ∧
          Lexes false ds others ∧ lexemes = first ++ others := by
  constructor
  · intro hLexes
    rcases hLexes 0 with ⟨tokens, hScan, rfl⟩
    rw [scanFrom_append hEnd] at hScan
    rcases Result.bind_eq_ok_iff.mp hScan with
      ⟨first, hFirst, hRest⟩
    rcases Result.bind_eq_ok_iff.mp hRest with
      ⟨more, hMore, hBoth⟩
    cases hBoth
    exact ⟨_, _, lexes_of_scanFrom hFirst,
      lexes_of_scanFrom hMore, List.map_append⟩
  · rintro ⟨first, others, hFirst, hOthers, rfl⟩ position
    rcases hFirst position with ⟨tokens, hTokens, rfl⟩
    rcases hOthers (position + cs.length) with
      ⟨more, hMore, rfl⟩
    refine ⟨tokens ++ more, ?_, List.map_append⟩
    rw [scanFrom_append hEnd, hTokens]
    change (scanFrom false (position + cs.length) ds >>= _) = _
    rw [hMore]
    rfl

end Token

end DeclaredApi

------------------------------------------------------------
-- Lexemes between Blanks
------------------------------------------------------------

namespace DeclaredApi

namespace Token

variable {inWord : Bool}
variable {cs gap : List Char}
variable {lexemes : List Lexeme}

/- Blanks have no lexemes, whatever follows them. -/
theorem Lexes.skip
    (hGap : ∀ c ∈ gap, Text.isBlank c = true)
    (hLexes : Lexes false cs lexemes) :
    Lexes false (gap ++ cs) lexemes := by
  induction gap with
  | nil => exact hLexes
  | cons c gap ih =>
      rw [List.forall_mem_cons] at hGap
      exact (ih hGap.2).blank hGap.1

/- A first blank ends a word. -/
theorem EndsWord.skip
    (hGap : ∀ c ∈ gap, Text.isBlank c = true)
    (hEnd : EndsWord cs) :
    EndsWord (gap ++ cs) := by
  cases gap with
  | nil => exact hEnd
  | cons c gap =>
      exact EndsWord.blank _ (hGap c List.mem_cons_self)

/- The rest of a word has no lexeme of its own. -/
theorem Lexes.dropWhile
    (hLexes : Lexes true cs lexemes) :
    Lexes false (cs.dropWhile Name.isWordPart) lexemes := by
  rcases hLexes 0 with ⟨tokens, hScan, rfl⟩
  rw [scanFrom_inWord] at hScan
  exact lexes_of_scanFrom hScan

/-
  A first lexeme stands behind blanks, and is an identifier if
  it is a word.
-/
theorem exists_gap_of_lexes
    {lexeme : Lexeme}
    (hLexes : Lexes false cs (lexeme :: lexemes)) :
    ∃ gap rest,
      cs = gap ++ (lexeme.text.toList ++ rest) ∧
        (∀ c ∈ gap, Text.isBlank c = true) ∧
        Lexes false rest lexemes ∧
        ∀ w,
          lexeme = .word w → Name.isWord w.toList = true := by
  induction cs with
  | nil =>
      rcases hLexes 0 with ⟨tokens, hScan, hMap⟩
      cases hScan
      cases hMap
  | cons c cs ih =>
      rcases hLexes 0 with ⟨tokens, hScan, hMap⟩
      rcases scanFrom_cons_cases hScan with
        ⟨hIn, _⟩ | ⟨_, hStart, others, hOthers, rfl⟩ |
          ⟨hBlank, hRest⟩ | ⟨s, others, hSymbol, hOthers, rfl⟩
      · cases hIn
      · cases hMap
        have hRest := (lexes_of_scanFrom hOthers).dropWhile
        refine ⟨[], cs.dropWhile Name.isWordPart, ?_,
          fun d hd => absurd hd List.not_mem_nil, hRest, ?_⟩
        · simp [Lexeme.text, List.takeWhile_append_dropWhile]
        · intro w hWord
          cases hWord
          rw [String.toList_ofList, Name.isWord, hStart,
            Bool.true_and, List.all_eq_true]
          exact fun d hd => List.mem_takeWhile_imp hd
      · have hHere := lexes_of_scanFrom hRest
        rw [hMap] at hHere
        rcases ih hHere with ⟨gap, rest, rfl, hGap, hFound⟩
        exact ⟨c :: gap, rest, rfl,
          List.forall_mem_cons.mpr ⟨hBlank, hGap⟩, hFound⟩
      · cases hMap
        refine ⟨[], cs, ?_,
          fun d hd => absurd hd List.not_mem_nil,
          lexes_of_scanFrom hOthers, ?_⟩
        · simp [Lexeme.text, char_of_ofChar? hSymbol]
        · intro w hWord
          cases hWord

end Token

end DeclaredApi

------------------------------------------------------------
-- Lexemes of Bases
------------------------------------------------------------

namespace DeclaredApi

namespace Token

variable {cs : List Char}
variable {lexemes : List Lexeme}
variable {word : String}
variable {words : List String}

/- Blanks are all that has no lexemes. -/
theorem isBlank_of_lexes_nil
    (hLexes : Lexes false cs []) :
    ∀ c ∈ cs, Text.isBlank c = true := by
  rcases hLexes 0 with ⟨tokens, hScan, hMap⟩
  rw [List.map_eq_nil_iff] at hMap
  rw [hMap] at hScan
  exact isBlank_of_scanFrom_eq_nil hScan

/- A piece is a word between blanks. -/
theorem lexes_piece
    {piece : List Char}
    (hWord :
      Name.isWord (Text.trim Text.isBlank piece) = true)
    (hEnd : EndsWord cs)
    (hLexes : Lexes false cs lexemes) :
    Lexes false (piece ++ cs)
      (.word (String.ofList (Text.trim Text.isBlank piece)) ::
        lexemes) := by
  rcases Text.eq_append_trim Text.isBlank piece with
    ⟨front, back, hEq, hFront, hBack⟩
  have hHere :=
    Lexes.word
      (w := String.ofList (Text.trim Text.isBlank piece))
      (by rwa [String.toList_ofList])
      (hEnd.skip hBack) (hLexes.skip hBack)
  rw [String.toList_ofList] at hHere
  have hAll := hHere.skip hFront
  rwa [← List.append_assoc, ← List.append_assoc,
    List.append_assoc front, ← hEq] at hAll

/- Pieces that are words have lexemes with dots between. -/
theorem lexes_of_pieces
    {piece : List Char}
    {pieces : List (List Char)}
    (hWords :
      ∀ q ∈ piece :: pieces,
        Name.isWord (Text.trim Text.isBlank q) = true) :
    Lexes false (List.intercalate ['.'] (piece :: pieces))
      (.word (String.ofList (Text.trim Text.isBlank piece)) ::
        Phrase.dottedLexemes (pieces.map fun q =>
          String.ofList (Text.trim Text.isBlank q))) := by
  induction pieces generalizing piece with
  | nil =>
      have hHere :=
        lexes_piece (hWords piece List.mem_cons_self)
          (fun c hc => by cases hc) (Lexes.nil false)
      simpa [List.intercalate, Phrase.dottedLexemes] using hHere
  | cons next pieces ih =>
      rw [List.forall_mem_cons] at hWords
      have hRest := (ih hWords.2).symbol .dot
      have hHere :=
        lexes_piece hWords.1 (EndsWord.symbol .dot _) hRest
      rw [List.intercalate_cons_cons, List.append_assoc]
      exact hHere

/- A word between blanks is the only piece, and is trimmed. -/
theorem piece_of_word
    {front back : List Char}
    (hFront : ∀ c ∈ front, Text.isBlank c = true)
    (hWord : Name.isWord word.toList = true)
    (hBack : ∀ c ∈ back, Text.isBlank c = true) :
    '.' ∉ front ++ (word.toList ++ back) ∧
      Text.trim Text.isBlank (front ++ (word.toList ++ back)) =
        word.toList := by
  constructor
  · have hDot : Text.isBlank '.' = false := by decide
    rw [List.mem_append, List.mem_append]
    rintro (hMem | hMem | hMem)
    · rw [hFront _ hMem] at hDot
      cases hDot
    · exact Name.dot_not_mem_of_isWord hWord hMem
    · rw [hBack _ hMem] at hDot
      cases hDot
  · exact Text.trim_append hFront
      (fun c hc => Name.isBlank_of_mem_word hWord hc) hBack

/-
  Words with dots between come from the pieces between dots,
  by induction on the words: the first one ends at a dot, and
  the others come from what is behind it.
-/
theorem pieces_of_lexes
    (hLexes :
      Lexes false cs (.word word :: Phrase.dottedLexemes words)) :
    (∀ piece ∈ Name.splitAtDots cs,
      Name.isWord (Text.trim Text.isBlank piece) = true) ∧
      (Name.splitAtDots cs).map (fun piece =>
          String.ofList (Text.trim Text.isBlank piece)) =
        word :: words := by
  induction words generalizing cs word with
  | nil =>
      rcases exists_gap_of_lexes hLexes with
        ⟨front, back, rfl, hFront, hRest, hWord⟩
      have hIsWord := hWord word rfl
      have hBack := isBlank_of_lexes_nil hRest
      rcases piece_of_word hFront hIsWord hBack with
        ⟨hDot, hTrim⟩
      rw [Lexeme.text, Name.splitAtDots_of_no_dot hDot]
      simp [hTrim, hIsWord]
  | cons next words ih =>
      rcases exists_gap_of_lexes hLexes with
        ⟨front, rest, rfl, hFront, hRest, hWord⟩
      rcases exists_gap_of_lexes hRest with
        ⟨back, others, rfl, hBack, hOthers, _⟩
      have hIsWord := hWord word rfl
      rcases piece_of_word hFront hIsWord hBack with
        ⟨hDot, hTrim⟩
      rcases ih hOthers with ⟨hWords, hMap⟩
      have hChars :
          front ++ (word.toList ++ (back ++
              ((Lexeme.symbol .dot).text.toList ++ others))) =
            (front ++ (word.toList ++ back)) ++ '.' :: others := by
        simp [Lexeme.text, Symbol.char]
      rw [Lexeme.text, hChars,
        Name.splitAtDots_append_dot others hDot]
      refine ⟨?_, ?_⟩
      · rw [List.forall_mem_cons, hTrim]
        exact ⟨hIsWord, hWords⟩
      · rw [List.map_cons, hTrim, String.ofList_toList, hMap]

/-
  A base has the lexemes of a dotted name exactly if it is
  one without its blanks and no blank divides a word of it.
-/
theorem lexes_base_iff
    {base : String} :
    Lexes false base.toList
        (.word word :: Phrase.dottedLexemes words) ↔
      Name.isDotted (Text.withoutBlanks base) = true ∧
        Name.isUndivided base = true ∧
        Name.words (Text.withoutBlanks base) = word :: words := by
  constructor
  · intro hLexes
    rcases pieces_of_lexes hLexes with ⟨hWords, hMap⟩
    rcases (Name.forall_isWord_trim_iff base).mp hWords with
      ⟨hDotted, hUndivided⟩
    rw [Name.map_trim_splitAtDots hUndivided] at hMap
    exact ⟨hDotted, hUndivided, hMap⟩
  · rintro ⟨hDotted, hUndivided, hWords⟩
    rw [← Name.map_trim_splitAtDots hUndivided] at hWords
    have hPieces :=
      (Name.forall_isWord_trim_iff base).mpr
        ⟨hDotted, hUndivided⟩
    cases hSplit : Name.splitAtDots base.toList with
    | nil => exact absurd hSplit (Name.splitAtDots_ne_nil _)
    | cons piece pieces =>
        rw [hSplit] at hPieces hWords
        cases hWords
        have hLexes := lexes_of_pieces hPieces
        rwa [← hSplit, Name.intercalate_splitAtDots] at hLexes

end Token

end DeclaredApi
