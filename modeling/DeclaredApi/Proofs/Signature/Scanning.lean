import DeclaredApi.Proofs.Name.Blanks
import DeclaredApi.Proofs.Signature.Completeness
import DeclaredApi.Proofs.Signature.Soundness
import Mathlib.Data.List.Forall2

/-
  Scanning of the canonical text of a phrase.

  The tokens of a text hold identifiers for words, and the
  canonical text of a grammatical phrase has the lexemes of
  the phrase.  A text is scanned from left to right, so each
  statement is about the characters in front of others.

  Main declarations:
    * `Token.scanFrom_cons_cases`
    * `Token.scanFrom_inWord`
    * `Token.scanFrom_word`
    * `Token.Lexes`
    * `Token.worded_of_scan`
    * `Token.isScanned_of_scan`
    * `Token.spells_of_grammatical`
    * `Signature.read_text`
-/

------------------------------------------------------------
-- Words among Tokens
------------------------------------------------------------

namespace DeclaredApi

namespace Token

/- A token in front of others succeeds when the others do. -/
theorem before_eq_ok_iff
    {token : Token}
    {result : Except Stray (List Token)}
    {tokens : List Token} :
    before token result = .ok tokens ↔
      ∃ others, result = .ok others ∧ tokens = token :: others := by
  cases result with
  | ok others => simp [before, eq_comm]
  | error stray => simp [before]

/- A symbol is found by its character. -/
theorem char_of_ofChar?
    {c : Char}
    {s : Symbol}
    (hSymbol : Symbol.ofChar? c = some s) :
    s.char = c := by
  have hFound := List.find?_some hSymbol
  exact of_decide_eq_true hFound

/-
  A first character goes on with a word, starts one, is a
  blank, or is a symbol.
-/
theorem scanFrom_cons_cases
    {inWord : Bool}
    {position : Nat}
    {c : Char}
    {cs : List Char}
    {tokens : List Token}
    (hScan : scanFrom inWord position (c :: cs) = .ok tokens) :
    (inWord = true ∧ Name.isWordPart c = true ∧
        scanFrom true (position + 1) cs = .ok tokens) ∨
      (inWord = false ∧ Name.isWordStart c = true ∧
        ∃ others,
          scanFrom true (position + 1) cs = .ok others ∧
            tokens =
              ⟨.word (String.ofList
                (c :: cs.takeWhile Name.isWordPart)), position⟩ ::
                others) ∨
      (Text.isBlank c = true ∧
        scanFrom false (position + 1) cs = .ok tokens) ∨
      ∃ s others,
        Symbol.ofChar? c = some s ∧
          scanFrom false (position + 1) cs = .ok others ∧
          tokens = ⟨.symbol s, position⟩ :: others := by
  unfold scanFrom at hScan
  split at hScan
  · next hInside =>
      rw [Bool.and_eq_true] at hInside
      exact Or.inl ⟨hInside.1, hInside.2, hScan⟩
  · next hOutside =>
      split at hScan
      · next hStart =>
          have hNotIn : inWord = false := by
            simpa [Name.isWordPart_of_isWordStart hStart]
              using hOutside
          exact Or.inr (Or.inl ⟨hNotIn, hStart,
            before_eq_ok_iff.mp hScan⟩)
      · split at hScan
        · next hBlank =>
            exact Or.inr (Or.inr (Or.inl ⟨hBlank, hScan⟩))
        · split at hScan
          · next s hSymbol =>
              rcases before_eq_ok_iff.mp hScan with
                ⟨others, hOthers, hTokens⟩
              exact Or.inr (Or.inr (Or.inr
                ⟨s, others, hSymbol, hOthers, hTokens⟩))
          · cases hScan

/- Scanned words are identifiers. -/
theorem worded_of_scanFrom
    {inWord : Bool}
    {position : Nat}
    {cs : List Char}
    {tokens : List Token}
    (hScan : scanFrom inWord position cs = .ok tokens) :
    Grammar.Worded tokens := by
  induction cs generalizing inWord position tokens with
  | nil =>
      cases hScan
      intro t ht
      simp at ht
  | cons c rest ih =>
      rcases scanFrom_cons_cases hScan with
        ⟨_, _, hRest⟩ | ⟨_, hStart, others, hOthers, rfl⟩ |
          ⟨_, hRest⟩ | ⟨s, others, _, hOthers, rfl⟩
      · exact ih hRest
      · intro t ht w hLexeme
        rcases List.mem_cons.mp ht with rfl | hTail
        · cases hLexeme
          simp [Name.isWord, hStart]
        · exact ih hOthers t hTail w hLexeme
      · exact ih hRest
      · intro t ht w hLexeme
        rcases List.mem_cons.mp ht with rfl | hTail
        · cases hLexeme
        · exact ih hOthers t hTail w hLexeme

/- The words of a text are identifiers. -/
theorem worded_of_scan
    {text : String}
    {tokens : List Token}
    (hScan : scan text = .ok tokens) :
    Grammar.Worded tokens :=
  worded_of_scanFrom hScan

/- A character that belongs to a token or is a blank. -/
def isScanned (c : Char) : Bool :=
  Name.isWordPart c || Text.isBlank c ||
    (Symbol.ofChar? c).isSome

/- Text with any other character has no tokens. -/
theorem isScanned_of_scanFrom
    {inWord : Bool}
    {position : Nat}
    {cs : List Char}
    {tokens : List Token}
    (hScan : scanFrom inWord position cs = .ok tokens) :
    ∀ c ∈ cs, isScanned c = true := by
  induction cs generalizing inWord position tokens with
  | nil => simp
  | cons c rest ih =>
      rw [List.forall_mem_cons]
      rcases scanFrom_cons_cases hScan with
        ⟨_, hPart, hRest⟩ | ⟨_, hStart, others, hOthers, _⟩ |
          ⟨hBlank, hRest⟩ | ⟨s, others, hSymbol, hOthers, _⟩
      · exact ⟨by simp [isScanned, hPart], ih hRest⟩
      · have hPart := Name.isWordPart_of_isWordStart hStart
        exact ⟨by simp [isScanned, hPart], ih hOthers⟩
      · exact ⟨by simp [isScanned, hBlank], ih hRest⟩
      · exact ⟨by simp [isScanned, hSymbol], ih hOthers⟩

theorem isScanned_of_scan
    {text : String}
    {tokens : List Token}
    (hScan : scan text = .ok tokens) :
    ∀ c ∈ text.toList, isScanned c = true :=
  isScanned_of_scanFrom hScan

end Token

end DeclaredApi

------------------------------------------------------------
-- Scanning Token by Token
------------------------------------------------------------

namespace DeclaredApi

namespace Token

variable {cs ds : List Char}
variable {position : Nat}
variable {tokens : List Token}

/- The first character does not continue a word. -/
def EndsWord (cs : List Char) : Prop :=
  ∀ c ∈ cs.head?, Name.isWordPart c = false

/- A word ends where its characters do. -/
theorem endsWord_dropWhile
    (cs : List Char) :
    EndsWord (cs.dropWhile Name.isWordPart) := by
  intro c hc
  have hNot := List.head?_dropWhile_not Name.isWordPart cs
  rw [hc] at hNot
  simpa using hNot

/- A word ends where a part ends that ends words. -/
theorem takeWhile_append_of_endsWord
    (hEnd : EndsWord ds) :
    (cs ++ ds).takeWhile Name.isWordPart =
      cs.takeWhile Name.isWordPart := by
  induction cs with
  | nil =>
      cases ds with
      | nil => rfl
      | cons d ds =>
          have hPart : Name.isWordPart d = false := hEnd d rfl
          simp [hPart]
  | cons c cs ih =>
      simp only [List.cons_append, List.takeWhile_cons, ih]

/- Then it does not matter whether a word comes before. -/
theorem scanFrom_of_endsWord
    {inWord : Bool}
    (hEnd : EndsWord cs) :
    scanFrom inWord position cs = scanFrom false position cs := by
  cases cs with
  | nil => rfl
  | cons c cs =>
      have hPart : Name.isWordPart c = false := hEnd c rfl
      simp [scanFrom, hPart]

/- After a word, scanning starts anew where the word ends. -/
theorem scanFrom_inWord
    (position : Nat)
    (cs : List Char) :
    scanFrom true position cs =
      scanFrom false
        (position + (cs.takeWhile Name.isWordPart).length)
        (cs.dropWhile Name.isWordPart) := by
  induction cs generalizing position with
  | nil => rfl
  | cons c cs ih =>
      cases hPart : Name.isWordPart c with
      | true =>
          have hPosition :
              position + 1 +
                  (cs.takeWhile Name.isWordPart).length =
                position +
                  (c :: cs.takeWhile Name.isWordPart).length := by
            rw [List.length_cons]
            omega
          rw [List.takeWhile_cons_of_pos hPart,
            List.dropWhile_cons_of_pos hPart, scanFrom.eq_2,
            hPart, Bool.and_true, if_pos rfl, ih, hPosition]
      | false =>
          rw [List.takeWhile_cons_of_neg (by simp [hPart]),
            List.dropWhile_cons_of_neg (by simp [hPart])]
          apply scanFrom_of_endsWord
          intro d hd
          cases hd
          exact hPart

/- A symbol is a token in front of the others. -/
theorem scanFrom_symbol
    (s : Symbol)
    (hScan : scanFrom false (position + 1) cs = .ok tokens) :
    scanFrom false position (s.char :: cs) =
      .ok (⟨.symbol s, position⟩ :: tokens) := by
  have hStart : Name.isWordStart s.char = false := by
    cases s <;> decide
  have hBlank : Text.isBlank s.char = false := by
    cases s <;> decide
  have hSymbol : Symbol.ofChar? s.char = some s := by
    cases s <;> decide
  simp [scanFrom, hStart, hBlank, hSymbol, hScan, before]

/- A word is one where it ends. -/
theorem scanFrom_word
    {w : String}
    (hWord : Name.isWord w.toList = true)
    (hEnd : EndsWord cs)
    (hScan : scanFrom false (position + w.length) cs = .ok tokens) :
    scanFrom false position (w.toList ++ cs) =
      .ok (⟨.word w, position⟩ :: tokens) := by
  rw [← String.length_toList] at hScan
  cases hChars : w.toList with
  | nil => exact absurd hChars (Name.ne_nil_of_isWord hWord)
  | cons c part =>
      have hText : String.ofList (c :: part) = w := by
        rw [← hChars, String.ofList_toList]
      rw [hChars, List.length_cons, Nat.add_comm part.length,
        ← Nat.add_assoc] at hScan
      rw [hChars] at hWord
      simp only [Name.isWord, Bool.and_eq_true,
        List.all_eq_true] at hWord
      have hTake :
          (part ++ cs).takeWhile Name.isWordPart = part := by
        rw [takeWhile_append_of_endsWord hEnd,
          List.takeWhile_eq_self_iff]
        exact hWord.2
      have hDrop :
          (part ++ cs).dropWhile Name.isWordPart = cs := by
        have hBoth :=
          List.takeWhile_append_dropWhile
            (p := Name.isWordPart) (l := part ++ cs)
        rw [hTake] at hBoth
        exact List.append_cancel_left hBoth
      rw [List.cons_append, scanFrom.eq_2, Bool.false_and,
        if_neg Bool.false_ne_true, if_pos hWord.1,
        scanFrom_inWord, hTake, hDrop, hScan, hText, before]

end Token

end DeclaredApi

------------------------------------------------------------
-- Lexemes of Characters
------------------------------------------------------------

namespace DeclaredApi

namespace Token

/- Characters are scanned to the lexemes at any offset. -/
def Lexes
    (inWord : Bool)
    (cs : List Char)
    (lexemes : List Lexeme) : Prop :=
  ∀ position, ∃ tokens,
    scanFrom inWord position cs = .ok tokens ∧
      tokens.map Token.lexeme = lexemes

namespace Lexes

/- No characters have no lexemes. -/
theorem nil
    (inWord : Bool) :
    Lexes inWord [] [] :=
  fun _ => ⟨[], rfl, rfl⟩

/- A word that has ended is as no word. -/
theorem ofEnd
    {inWord : Bool}
    {cs : List Char}
    {lexemes : List Lexeme}
    (hEnd : EndsWord cs)
    (hLexes : Lexes false cs lexemes) :
    Lexes inWord cs lexemes := by
  intro position
  rw [scanFrom_of_endsWord hEnd]
  exact hLexes position

/- A symbol is scanned to its lexeme. -/
theorem symbol
    {cs : List Char}
    {lexemes : List Lexeme}
    (s : Symbol)
    (hLexes : Lexes false cs lexemes) :
    Lexes false (s.char :: cs) (.symbol s :: lexemes) := by
  intro position
  rcases hLexes (position + 1) with ⟨tokens, hScan, rfl⟩
  exact ⟨_, scanFrom_symbol s hScan, rfl⟩

/- A blank has no lexeme. -/
theorem blank
    {c : Char}
    {cs : List Char}
    {lexemes : List Lexeme}
    (hBlank : Text.isBlank c = true)
    (hLexes : Lexes false cs lexemes) :
    Lexes false (c :: cs) lexemes := by
  intro position
  have hStart := Name.isWordStart_of_isBlank hBlank
  rcases hLexes (position + 1) with ⟨tokens, hScan, hMap⟩
  refine ⟨tokens, ?_, hMap⟩
  simp [scanFrom, hStart, hBlank, hScan]

theorem space
    {cs : List Char}
    {lexemes : List Lexeme}
    (hLexes : Lexes false cs lexemes) :
    Lexes false (' ' :: cs) lexemes :=
  hLexes.blank (by decide)

/- The rest of a word is passed over. -/
theorem pass
    {part cs : List Char}
    {lexemes : List Lexeme}
    (hPart : ∀ c ∈ part, Name.isWordPart c = true)
    (hLexes : Lexes true cs lexemes) :
    Lexes true (part ++ cs) lexemes := by
  induction part with
  | nil => exact hLexes
  | cons c part ih =>
      intro position
      have hHead := hPart c List.mem_cons_self
      rcases ih
          (fun d hd => hPart d (List.mem_cons_of_mem c hd))
          (position + 1) with
        ⟨tokens, hScan, hMap⟩
      refine ⟨tokens, ?_, hMap⟩
      simp [scanFrom, hHead, hScan]

/- A word is taken whole at its first character. -/
theorem start
    {c : Char}
    {cs : List Char}
    {lexemes : List Lexeme}
    (hStart : Name.isWordStart c = true)
    (hLexes : Lexes true cs lexemes) :
    Lexes false (c :: cs)
      (.word (String.ofList
        (c :: cs.takeWhile Name.isWordPart)) :: lexemes) := by
  intro position
  rcases hLexes (position + 1) with ⟨tokens, hScan, hMap⟩
  refine
    ⟨⟨.word (String.ofList
      (c :: cs.takeWhile Name.isWordPart)), position⟩ ::
        tokens, ?_, by simp [hMap]⟩
  rw [scanFrom.eq_2, Bool.false_and,
    if_neg Bool.false_ne_true, if_pos hStart, hScan, before]

/- So an identifier is scanned to its lexeme. -/
theorem word
    {w : String}
    {cs : List Char}
    {lexemes : List Lexeme}
    (hWord : Name.isWord w.toList = true)
    (hEnd : EndsWord cs)
    (hLexes : Lexes false cs lexemes) :
    Lexes false (w.toList ++ cs) (.word w :: lexemes) := by
  intro position
  rcases hLexes (position + w.length) with ⟨tokens, hScan, rfl⟩
  exact ⟨_, scanFrom_word hWord hEnd hScan, rfl⟩

end Lexes

end Token

end DeclaredApi

------------------------------------------------------------
-- Names and Brackets
------------------------------------------------------------

namespace DeclaredApi

namespace Token

/- A symbol does not continue a word. -/
theorem EndsWord.symbol
    (s : Symbol)
    (cs : List Char) :
    EndsWord (s.char :: cs) := by
  intro c hc
  cases hc
  cases s <;> decide

/- A blank does not continue a word. -/
theorem EndsWord.blank
    {c : Char}
    (cs : List Char)
    (hBlank : Text.isBlank c = true) :
    EndsWord (c :: cs) := by
  intro d hd
  cases hd
  exact Name.isWordPart_of_isBlank hBlank

theorem EndsWord.space
    (cs : List Char) :
    EndsWord (' ' :: cs) :=
  EndsWord.blank cs (by decide)

/- Bracket pairs start with a symbol. -/
theorem EndsWord.brackets
    {cs : List Char}
    (dimensions : Nat)
    (hEnd : EndsWord cs) :
    EndsWord ((Name.brackets dimensions).toList ++ cs) := by
  cases dimensions with
  | zero => exact hEnd
  | succ dimensions =>
      rw [Name.brackets, String.toList_append]
      exact EndsWord.symbol .openBracket _

namespace Lexes

/- Bracket pairs are scanned to theirs. -/
theorem brackets
    {cs : List Char}
    {lexemes : List Lexeme}
    (dimensions : Nat)
    (hLexes : Lexes false cs lexemes) :
    Lexes false ((Name.brackets dimensions).toList ++ cs)
      (Phrase.bracketLexemes dimensions ++ lexemes) := by
  induction dimensions with
  | zero => exact hLexes
  | succ dimensions ih =>
      rw [Name.brackets, String.toList_append]
      exact (ih.symbol .closeBracket).symbol .openBracket

/- A dotted name is scanned to its words and dots. -/
theorem dotted
    {word : String}
    {words : List String}
    {cs : List Char}
    {lexemes : List Lexeme}
    (hWords :
      ∀ w ∈ word :: words, Name.isWord w.toList = true)
    (hEnd : EndsWord cs)
    (hLexes : Lexes false cs lexemes) :
    Lexes false ((Phrase.dotted word words).toList ++ cs)
      (.word word ::
        (Phrase.dottedLexemes words ++ lexemes)) := by
  induction words generalizing word with
  | nil =>
      rw [Phrase.dotted, String.intercalate_singleton]
      exact Lexes.word (hWords word List.mem_cons_self) hEnd
        hLexes
  | cons next words ih =>
      have hRest :=
        ih (fun w hw => hWords w (List.mem_cons_of_mem _ hw))
      rw [Phrase.dotted, String.intercalate_cons_cons,
        String.toList_append, String.toList_append,
        List.append_assoc, List.append_assoc]
      exact Lexes.word (hWords word List.mem_cons_self)
        (EndsWord.symbol .dot _) (hRest.symbol .dot)

end Lexes

end Token

end DeclaredApi

------------------------------------------------------------
-- Phrases
------------------------------------------------------------

namespace DeclaredApi

namespace Token

/- The text of a phrase is scanned to the lexemes of it. -/
def Spells (p : Phrase) : Prop :=
  ∀ cs lexemes,
    EndsWord cs →
      Lexes false cs lexemes →
        Lexes false (p.text.toList ++ cs) (p.lexemes ++ lexemes)

/- A separator is scanned to a mark, and ends a word. -/
def Separates
    (separator : String)
    (mark : Symbol) : Prop :=
  ∀ cs lexemes,
    Lexes false cs lexemes →
      EndsWord (separator.toList ++ cs) ∧
        Lexes false (separator.toList ++ cs)
          (.symbol mark :: lexemes)

/- Arguments are separated by commas. -/
theorem separates_comma :
    Separates ", " .comma := by
  intro cs lexemes hLexes
  exact ⟨EndsWord.symbol .comma _, hLexes.space.symbol .comma⟩

/- Bounds are separated by ampersands. -/
theorem separates_ampersand :
    Separates " & " .ampersand := by
  intro cs lexemes hLexes
  exact ⟨EndsWord.space _,
    (hLexes.space.symbol .ampersand).space⟩

/- A text is scanned to the lexemes of a phrase. -/
def Writes
    (text : String)
    (p : Phrase) : Prop :=
  ∀ cs lexemes,
    EndsWord cs →
      Lexes false cs lexemes →
        Lexes false (text.toList ++ cs) (p.lexemes ++ lexemes)

/- Separated texts are scanned to lexemes with marks. -/
theorem lexes_intercalate
    {separator text : String}
    {texts : List String}
    {mark : Symbol}
    {p : Phrase}
    {ps : List Phrase}
    {cs : List Char}
    {lexemes : List Lexeme}
    (hSeparates : Separates separator mark)
    (hWrites : List.Forall₂ Writes (text :: texts) (p :: ps))
    (hEnd : EndsWord cs)
    (hLexes : Lexes false cs lexemes) :
    Lexes false
      ((separator.intercalate (text :: texts)).toList ++ cs)
      (p.lexemes ++
        (Phrase.lexemesAfter mark ps ++ lexemes)) := by
  induction ps generalizing text texts p with
  | nil =>
      rcases hWrites with _ | ⟨hFirst, _ | _⟩
      simpa [Phrase.lexemesAfter] using
        hFirst cs lexemes hEnd hLexes
  | cons q ps ih =>
      rcases hWrites with _ | ⟨hFirst, _ | ⟨hNext, hOthers⟩⟩
      have hRest :=
        hSeparates _ _ (ih (List.Forall₂.cons hNext hOthers))
      have hAll := hFirst _ _ hRest.1 hRest.2
      simpa [Phrase.lexemesAfter] using hAll

/- So are the canonical texts of phrases. -/
theorem lexes_textAll
    {separator : String}
    {mark : Symbol}
    {p : Phrase}
    {ps : List Phrase}
    {cs : List Char}
    {lexemes : List Lexeme}
    (hSeparates : Separates separator mark)
    (hSpells : ∀ q ∈ p :: ps, Spells q)
    (hEnd : EndsWord cs)
    (hLexes : Lexes false cs lexemes) :
    Lexes false
      ((separator.intercalate
        (Phrase.textAll (p :: ps))).toList ++ cs)
      (p.lexemes ++
        (Phrase.lexemesAfter mark ps ++ lexemes)) := by
  refine lexes_intercalate hSeparates ?_ hEnd hLexes
  rw [← Phrase.textAll, Phrase.textAll_eq_map,
    List.forall₂_map_left_iff, List.forall₂_same]
  exact hSpells

/- The text of a grammatical phrase has its lexemes. -/
theorem spells_of_grammatical
    {p : Phrase}
    (hGrammatical : p.Grammatical) :
    Spells p := by
  intro cs lexemes hEnd hLexes
  induction p generalizing cs lexemes with
  | bare => exact hLexes.symbol .question
  | bounded relation bound bounds ihBound ihBounds =>
      rw [Phrase.Grammatical, Phrase.allGrammatical_iff]
        at hGrammatical
      have hSpells : ∀ q ∈ bound :: bounds, Spells q := by
        intro q hq cs lexemes hEnd hLexes
        rcases List.mem_cons.mp hq with rfl | hMem
        · exact ihBound hGrammatical.2.1 cs lexemes hEnd hLexes
        · exact ihBounds q hMem (hGrammatical.2.2 q hMem)
            cs lexemes hEnd hLexes
      have hBounds :=
        lexes_textAll separates_ampersand hSpells hEnd hLexes
      have hKeyword :
          Name.isWord relation.word.toList = true := by
        cases relation <;> decide
      have hText :=
        ((Lexes.word hKeyword (EndsWord.space _)
          hBounds.space).space).symbol .question
      simpa [Phrase.text, Phrase.textAll, Phrase.lexemes,
        Symbol.char] using hText
  | named word words arguments dimensions ih =>
      rw [Phrase.Grammatical, Phrase.allGrammatical_iff]
        at hGrammatical
      have hBrackets := hLexes.brackets dimensions
      have hBracketsEnd := hEnd.brackets dimensions
      cases arguments with
      | nil =>
          have hText :=
            Lexes.dotted hGrammatical.1 hBracketsEnd hBrackets
          simpa [Phrase.text, Phrase.lexemes,
            Phrase.argumentLexemes] using hText
      | cons a as =>
          have hSpells : ∀ q ∈ a :: as, Spells q :=
            fun q hq cs lexemes =>
              ih q hq (hGrammatical.2.2 q hq) cs lexemes
          have hArguments :=
            lexes_textAll separates_comma hSpells
              (EndsWord.symbol .greater _)
              (hBrackets.symbol .greater)
          have hText :=
            Lexes.dotted hGrammatical.1
              (EndsWord.symbol .less _)
              (hArguments.symbol .less)
          simpa [Phrase.text, Phrase.lexemes,
            Phrase.argumentLexemes, Symbol.char] using hText

end Token

namespace Signature

/-
  The canonical text of a grammatical phrase is read as the
  tree of the phrase.
-/
theorem read_text
    {root : String}
    {limit : Nat}
    {p : Phrase}
    (hGrammatical : p.Grammatical)
    (hNesting : p.nesting ≤ limit) :
    read root limit p.text = .ok (p.tree root) := by
  have hLexes :=
    Token.spells_of_grammatical hGrammatical [] []
      (fun c hc => by cases hc) (Token.Lexes.nil false)
  rw [List.append_nil, List.append_nil] at hLexes
  rcases hLexes 0 with ⟨tokens, hScan, hTokens⟩
  rw [read, Token.scan, hScan]
  exact readTokens_of_lexemes
    (g := ⟨root, limit, p.text.length⟩) hGrammatical hNesting
    hTokens

end Signature

end DeclaredApi
