import DeclaredApi.Proofs.Signature.Lexemes
import DeclaredApi.Proofs.TypeRef.RoundTrip

/-
  Nothing but one spelling is lost by parsing.

  A wildcard that is bounded by nothing but the root object
  type may be written out or as a bare question mark.  Apart
  from this, the lexemes of a text are those of the canonical
  text of what it is parsed to.  So texts with equal meanings
  have equal lexemes once such wildcards are shortened.

  Main declarations:
    * `Signature.writtenOut`
    * `Signature.shorten`
    * `Phrase.startsWrittenOut_bounded`
    * `Phrase.shorten_lexemes`
    * `Signature.hasLexemes_compact`
    * `Signature.parse_loses_nothing`
-/

------------------------------------------------------------
-- Shortened Lexemes
------------------------------------------------------------

namespace DeclaredApi

namespace Signature

/- The lexemes of the root object type. -/
def rootLexemes (root : String) : List Lexeme :=
  (Phrase.ofName root [] 0).lexemes

/- The wildcard with the root as its bound, written out. -/
def writtenOut (root : String) : List Lexeme :=
  .symbol .question :: .word "extends" :: rootLexemes root

/-
  A lexeme after a name that makes it another bound: there
  are more words, arguments, dimensions or bounds.
-/
def goesOn : Lexeme → Bool
| .symbol .dot => true
| .symbol .less => true
| .symbol .openBracket => true
| .symbol .ampersand => true
| _ => false

/- The wildcard with just the root as its bound comes first. -/
def startsWrittenOut
    (root : String)
    (lexemes : List Lexeme) : Bool :=
  match (writtenOut root).isPrefixOf? lexemes with
  | some rest => !rest.head?.any goesOn
  | none => false

/-
  The lexemes with a question mark for each such wildcard;
  the first ones are passed over.
-/
def shortenFrom
    (root : String) :
    (skip : Nat) → List Lexeme → List Lexeme
| _, [] => []
| skip + 1, _ :: rest => shortenFrom root skip rest
| 0, lexeme :: rest =>
    if startsWrittenOut root (lexeme :: rest) then
      .symbol .question ::
        shortenFrom root ((writtenOut root).length - 1) rest
    else
      lexeme :: shortenFrom root 0 rest

/- Each wildcard with just the root as its bound as `?`. -/
def shorten (root : String) : List Lexeme → List Lexeme :=
  shortenFrom root 0

variable {root : String}
variable {lexemes rest : List Lexeme}

theorem startsWrittenOut_iff :
    startsWrittenOut root lexemes = true ↔
      ∃ rest,
        lexemes = writtenOut root ++ rest ∧
          ∀ lexeme ∈ rest.head?, goesOn lexeme = false := by
  have hNext :
      ∀ rest : List Lexeme,
        (!rest.head?.any goesOn) = true ↔
          ∀ lexeme ∈ rest.head?, goesOn lexeme = false := by
    intro rest
    rw [Bool.not_eq_true', Option.any_eq_false]
    rfl
  unfold startsWrittenOut
  split
  · next rest hPrefix =>
      rw [← List.isPrefixOf?_eq_some_iff_append_eq.mp hPrefix,
        hNext]
      constructor
      · exact fun hEnd => ⟨rest, rfl, hEnd⟩
      · rintro ⟨others, hEq, hEnd⟩
        rwa [List.append_cancel_left hEq]
  · next hNone =>
      simp only [Bool.false_eq_true, false_iff]
      rintro ⟨rest, hEq, _⟩
      rw [List.isPrefixOf?_eq_some_iff_append_eq.mpr hEq.symm]
        at hNone
      cases hNone

/- A lexeme that is no question mark stays. -/
theorem shorten_cons_of_ne
    {lexeme : Lexeme}
    (root : String)
    (rest : List Lexeme)
    (hOther : lexeme ≠ .symbol .question) :
    shorten root (lexeme :: rest) =
      lexeme :: shorten root rest := by
  have hStart :
      ¬ startsWrittenOut root (lexeme :: rest) = true := by
    rw [startsWrittenOut_iff]
    rintro ⟨others, hEq, _⟩
    injection hEq with hHead
    exact hOther hHead
  rw [shorten, shortenFrom, if_neg hStart]

/- So do lexemes without question marks. -/
theorem shorten_append_of_ne
    (root : String)
    (rest : List Lexeme)
    (hOther : ∀ lexeme ∈ lexemes, lexeme ≠ .symbol .question) :
    shorten root (lexemes ++ rest) =
      lexemes ++ shorten root rest := by
  induction lexemes with
  | nil => rfl
  | cons lexeme lexemes ih =>
      rw [List.forall_mem_cons] at hOther
      rw [List.cons_append, shorten_cons_of_ne root _ hOther.1,
        ih hOther.2, List.cons_append]

/- What is passed over leaves no lexeme. -/
theorem shortenFrom_length
    (root : String)
    (lexemes rest : List Lexeme) :
    shortenFrom root lexemes.length (lexemes ++ rest) =
      shorten root rest := by
  induction lexemes with
  | nil => rfl
  | cons lexeme lexemes ih =>
      rw [List.length_cons, List.cons_append, shortenFrom, ih]

/- A wildcard with just the root as its bound is shortened. -/
theorem shorten_writtenOut
    (hEnd : ∀ lexeme ∈ rest.head?, goesOn lexeme = false) :
    shorten root (writtenOut root ++ rest) =
      .symbol .question :: shorten root rest := by
  have hStart :
      startsWrittenOut root (writtenOut root ++ rest) = true :=
    startsWrittenOut_iff.mpr ⟨rest, rfl, hEnd⟩
  have hPass :=
    shortenFrom_length root
      (.word "extends" :: rootLexemes root) rest
  rw [writtenOut, List.cons_append] at hStart ⊢
  rw [shorten, shortenFrom, if_pos hStart]
  exact congrArg _ hPass

/- A question mark that starts no such wildcard stays. -/
theorem shorten_question
    (hStart :
      startsWrittenOut root (.symbol .question :: rest) =
        false) :
    shorten root (.symbol .question :: rest) =
      .symbol .question :: shorten root rest := by
  rw [shorten, shortenFrom, hStart]
  rfl

end Signature

end DeclaredApi

------------------------------------------------------------
-- Names and Brackets
------------------------------------------------------------

namespace DeclaredApi

namespace Phrase

/- Words after dots end at the first lexeme that is no dot. -/
theorem dottedLexemes_append_inj
    {vs ws : List String}
    {xs ys : List Lexeme}
    (hXs : xs.head? ≠ some (.symbol .dot))
    (hYs : ys.head? ≠ some (.symbol .dot))
    (hEq : dottedLexemes vs ++ xs = dottedLexemes ws ++ ys) :
    vs = ws ∧ xs = ys := by
  induction vs generalizing ws with
  | nil =>
      cases ws with
      | nil => exact ⟨rfl, hEq⟩
      | cons w ws =>
          rw [dottedLexemes, List.nil_append] at hEq
          rw [hEq] at hXs
          exact absurd rfl hXs
  | cons v vs ih =>
      cases ws with
      | nil =>
          rw [show dottedLexemes [] = [] from rfl,
            List.nil_append] at hEq
          rw [← hEq] at hYs
          exact absurd rfl hYs
      | cons w ws =>
          simp only [dottedLexemes, List.cons_append,
            List.cons.injEq, Lexeme.word.injEq, true_and] at hEq
          rcases ih hEq.2 with ⟨rfl, hRest⟩
          exact ⟨by rw [hEq.1], hRest⟩

/- The lexemes of a name without arguments and brackets. -/
theorem lexemes_ofName
    (element : String) :
    (ofName element [] 0).lexemes =
      .word ((Name.words element).headD "") ::
        dottedLexemes (Name.words element).tail := by
  simp [ofName, lexemes, argumentLexemes, bracketLexemes]

/- The phrase of a joined name is made of the words again. -/
theorem ofName_dotted
    {word : String}
    {words : List String}
    (arguments : List Phrase)
    (dimensions : Nat)
    (hWords :
      ∀ w ∈ word :: words, Name.isWord w.toList = true) :
    ofName (dotted word words) arguments dimensions =
      .named word words arguments dimensions := by
  have hSplit : Name.words (dotted word words) = word :: words :=
    Name.words_intercalate (List.cons_ne_nil word words) hWords
  rw [ofName, hSplit]
  rfl

theorem ne_question_of_mem_dottedLexemes
    {words : List String} :
    ∀ lexeme ∈ dottedLexemes words,
      lexeme ≠ .symbol .question := by
  induction words with
  | nil => simp [dottedLexemes]
  | cons w words ih => simpa [dottedLexemes] using ih

theorem ne_question_of_mem_bracketLexemes
    {dimensions : Nat} :
    ∀ lexeme ∈ bracketLexemes dimensions,
      lexeme ≠ .symbol .question := by
  induction dimensions with
  | zero => simp [bracketLexemes]
  | succ dimensions ih => simpa [bracketLexemes] using ih

end Phrase

end DeclaredApi

------------------------------------------------------------
-- Wildcards
------------------------------------------------------------

namespace DeclaredApi

namespace Phrase

open Signature

/- A type ends in front of the first lexeme. -/
def EndsType (rest : List Lexeme) : Prop :=
  ∀ lexeme ∈ rest.head?,
    lexeme = .symbol .comma ∨
      lexeme = .symbol .greater ∨ lexeme = .finish

/- The phrase that the meaning of a phrase is written as. -/
def shortened
    (root : String)
    (p : Phrase) : Phrase :=
  (p.tree root).phrase root

variable {root : String}
variable {rest : List Lexeme}

/- Where a type ends, nothing goes on with a bound. -/
theorem EndsType.goesOn_eq_false
    (hEnd : EndsType rest) :
    ∀ lexeme ∈ rest.head?, goesOn lexeme = false := by
  intro lexeme hLexeme
  rcases hEnd lexeme hLexeme with rfl | rfl | rfl <;> rfl

/- Further arguments start where a type ends. -/
theorem EndsType.lexemesAfter
    (ps : List Phrase)
    (hEnd : EndsType rest) :
    EndsType (lexemesAfter .comma ps ++ rest) := by
  cases ps with
  | nil => exact hEnd
  | cons p ps =>
      intro lexeme hLexeme
      simp only [Phrase.lexemesAfter, List.cons_append,
        List.head?_cons, Option.mem_def, Option.some.injEq]
        at hLexeme
      exact Or.inl hLexeme.symm

/- A named type that means the root is written as its name. -/
theorem eq_ofName_of_tree_eq_named
    {p : Phrase}
    (hGrammatical : p.Grammatical)
    (hTree : p.tree root = .named root) :
    p = .ofName root [] 0 := by
  cases p with
  | bare => simp [tree, TypeRef.unbounded, TypeRef.named] at hTree
  | bounded relation bound bounds =>
      simp [tree, TypeRef.named] at hTree
  | named word words arguments dimensions =>
      rw [Grammatical] at hGrammatical
      rw [tree, TypeRef.named, treeAll_eq_map] at hTree
      injection hTree with hName hDimensions hArguments
      rw [List.map_eq_nil_iff.mp hArguments, hDimensions,
        ← hName, ofName_dotted [] 0 hGrammatical.1]

/-
  A wildcard with bounds that means the unbounded one is
  written out.
-/
theorem lexemes_of_tree_eq
    {relation : BoundRelation}
    {bound : Phrase}
    {bounds : List Phrase}
    (hGrammatical : (bounded relation bound bounds).Grammatical)
    (hTree :
      (bounded relation bound bounds).tree root =
        .unbounded root) :
    (bounded relation bound bounds).lexemes =
      writtenOut root := by
  rw [Grammatical] at hGrammatical
  rw [tree, TypeRef.unbounded] at hTree
  injection hTree with hRelation hBounds
  injection hBounds with hBound hNone
  rw [treeAll_eq_map, List.map_eq_nil_iff] at hNone
  rw [hRelation, hNone,
    eq_ofName_of_tree_eq_named hGrammatical.2.1 hBound]
  simp [lexemes, lexemesAfter, writtenOut, rootLexemes,
    BoundRelation.word]

/-
  Lexemes after a name that goes on with nothing are those
  of no arguments, dimensions or bounds.
-/
theorem eq_nil_of_not_goesOn
    {arguments bounds : List Phrase}
    {dimensions : Nat}
    (hEnd :
      ∀ lexeme ∈
          (argumentLexemes arguments ++
            (bracketLexemes dimensions ++
              (lexemesAfter .ampersand bounds ++ rest))).head?,
        goesOn lexeme = false) :
    arguments = [] ∧ dimensions = 0 ∧ bounds = [] := by
  cases arguments with
  | cons a as =>
      exact absurd (hEnd (.symbol .less) rfl) (by decide)
  | nil =>
      cases dimensions with
      | succ dimensions =>
          exact absurd (hEnd (.symbol .openBracket) rfl)
            (by decide)
      | zero =>
          cases bounds with
          | cons b bs =>
              exact absurd (hEnd (.symbol .ampersand) rfl)
                (by decide)
          | nil => exact ⟨rfl, rfl, rfl⟩

/-
  The lexemes of a wildcard with bounds start with a written
  out one exactly if it means the unbounded wildcard.
-/
theorem startsWrittenOut_bounded
    (root : String)
    {relation : BoundRelation}
    {bound : Phrase}
    {bounds : List Phrase}
    (hGrammatical : (bounded relation bound bounds).Grammatical)
    (hEnd : EndsType rest) :
    startsWrittenOut root
        ((bounded relation bound bounds).lexemes ++ rest) =
      TypeRef.isUnbounded root
        ((bounded relation bound bounds).tree root) := by
  rw [Bool.eq_iff_iff, TypeRef.isUnbounded_iff,
    startsWrittenOut_iff]
  constructor
  · rintro ⟨others, hEq, hOthers⟩
    rw [Grammatical] at hGrammatical
    have hNamed := hGrammatical.1 bound List.mem_cons_self
    cases bound with
    | bare => cases hNamed
    | bounded _ _ _ => cases hNamed
    | named word words arguments dimensions =>
        have hBound := hGrammatical.2.1
        rw [Grammatical] at hBound
        simp only [writtenOut, rootLexemes, lexemes_ofName,
          lexemes, List.cons_append, List.append_assoc,
          List.cons.injEq, Lexeme.word.injEq, true_and] at hEq
        rcases hEq with ⟨hRelation, hWord, hRest⟩
        -- what goes on with the name is all behind its words
        have hNoDot :
            (argumentLexemes arguments ++
              (bracketLexemes dimensions ++
                (lexemesAfter .ampersand bounds ++
                  rest))).head? ≠
              some (.symbol .dot) := by
          intro hDot
          cases arguments with
          | cons a as => cases hDot
          | nil =>
              cases dimensions with
              | succ dimensions => cases hDot
              | zero =>
                  cases bounds with
                  | cons b bs => cases hDot
                  | nil =>
                      rcases hEnd _ hDot with h | h | h <;>
                        cases h
        have hOthersDot :
            others.head? ≠ some (.symbol .dot) :=
          fun hDot => absurd (hOthers _ hDot) (by decide)
        rcases dottedLexemes_append_inj hNoDot hOthersDot hRest
          with ⟨hWords, hSame⟩
        rw [← hSame] at hOthers
        rcases eq_nil_of_not_goesOn hOthers with
          ⟨rfl, rfl, rfl⟩
        have hUpper : relation = .upper := by
          cases relation with
          | upper => rfl
          | lower => exact absurd hRelation (by decide)
        have hRoot : dotted word words = root := by
          rw [hWord, hWords, dotted_words]
        rw [hUpper, tree, tree, hRoot]
        rfl
  · intro hTree
    exact ⟨rest, by rw [lexemes_of_tree_eq hGrammatical hTree],
      hEnd.goesOn_eq_false⟩

end Phrase

end DeclaredApi

------------------------------------------------------------
-- Shortened Phrases
------------------------------------------------------------

namespace DeclaredApi

namespace Phrase

open Signature

variable {root : String}

/-
  Shortening the lexemes of a phrase in front of others gives
  those of the shortened phrase.  A wildcard must not be
  taken for another one by what follows.
-/
def ShortensTo
    (root : String)
    (p q : Phrase) : Prop :=
  ∀ rest,
    p.isNamed = true ∨ EndsType rest →
      shorten root (p.lexemes ++ rest) =
        q.lexemes ++ shorten root rest

/- So do the lexemes of phrases that each follow a mark. -/
theorem shorten_lexemesAfter
    {mark : Symbol}
    {ps : List Phrase}
    (rest : List Lexeme)
    (hMark : mark ≠ .question)
    (hEach : ∀ p ∈ ps, ShortensTo root p (p.shortened root))
    (hNext :
      (∀ p ∈ ps, p.isNamed = true) ∨
        mark = .comma ∧ EndsType rest) :
    shorten root (lexemesAfter mark ps ++ rest) =
      lexemesAfter mark (ps.map (shortened root)) ++
        shorten root rest := by
  induction ps with
  | nil => rfl
  | cons p ps ih =>
      rw [List.forall_mem_cons] at hEach
      have hRest :=
        ih hEach.2
          (hNext.imp_left fun h q hq =>
            h q (List.mem_cons_of_mem p hq))
      have hHead :=
        hEach.1 (lexemesAfter mark ps ++ rest) (by
          rcases hNext with hNamed | ⟨rfl, hEnd⟩
          · exact Or.inl (hNamed p List.mem_cons_self)
          · exact Or.inr (hEnd.lexemesAfter ps))
      have hMarkOther :
          Lexeme.symbol mark ≠ .symbol .question := by
        simpa using hMark
      rw [lexemesAfter, List.cons_append, List.append_assoc,
        shorten_cons_of_ne root _ hMarkOther, hHead, hRest,
        List.map_cons, lexemesAfter, List.cons_append,
        List.append_assoc]

/- Shortening goes into the argument list of a name. -/
theorem shorten_argumentLexemes
    {arguments : List Phrase}
    (rest : List Lexeme)
    (hEach :
      ∀ p ∈ arguments, ShortensTo root p (p.shortened root)) :
    shorten root (argumentLexemes arguments ++ rest) =
      argumentLexemes (arguments.map (shortened root)) ++
        shorten root rest := by
  cases arguments with
  | nil => rfl
  | cons a as =>
      rw [List.forall_mem_cons] at hEach
      have hClose : EndsType (.symbol .greater :: rest) := by
        intro lexeme hLexeme
        cases hLexeme
        exact Or.inr (Or.inl rfl)
      have hOthers :=
        shorten_lexemesAfter _ (by decide) hEach.2
          (Or.inr ⟨rfl, hClose⟩)
      have hFirst :=
        hEach.1 _ (Or.inr (hClose.lexemesAfter as))
      have hAll :
          shorten root
              (.symbol .less ::
                (a.lexemes ++
                  (lexemesAfter .comma as ++
                    .symbol .greater :: rest))) =
            .symbol .less ::
              ((a.shortened root).lexemes ++
                (lexemesAfter .comma (as.map (shortened root)) ++
                  .symbol .greater :: shorten root rest)) := by
        rw [shorten_cons_of_ne root _ (by simp), hFirst, hOthers,
          shorten_cons_of_ne root rest (by simp)]
      simpa [argumentLexemes] using hAll

/- A wildcard with bounds is shortened, or its bounds are. -/
theorem shortensTo_bounded
    {relation : BoundRelation}
    {bound : Phrase}
    {bounds : List Phrase}
    (hGrammatical : (bounded relation bound bounds).Grammatical)
    (hEach :
      ∀ p ∈ bound :: bounds,
        ShortensTo root p (p.shortened root)) :
    ShortensTo root (bounded relation bound bounds)
      ((bounded relation bound bounds).shortened root) := by
  intro rest hNext
  have hEnd : EndsType rest := by
    rcases hNext with hNamed | hEnd
    · cases hNamed
    · exact hEnd
  cases hBare :
      TypeRef.isUnbounded root
        ((bounded relation bound bounds).tree root) with
  | true =>
      have hTree := (TypeRef.isUnbounded_iff root _).mp hBare
      have hShort :
          (bounded relation bound bounds).shortened root =
            .bare := by
        rw [shortened, hTree]
        simp [TypeRef.unbounded, TypeRef.named, TypeRef.phrase,
          TypeRef.isUnbounded]
      rw [hShort, lexemes_of_tree_eq hGrammatical hTree,
        shorten_writtenOut hEnd.goesOn_eq_false]
      rfl
  | false =>
      have hStart :=
        startsWrittenOut_bounded root hGrammatical hEnd
      rw [hBare] at hStart
      rw [Grammatical] at hGrammatical
      rw [List.forall_mem_cons] at hEach
      have hShort :
          (bounded relation bound bounds).shortened root =
            .bounded relation (bound.shortened root)
              (bounds.map (shortened root)) := by
        rw [shortened, tree, treeAll_eq_map]
        rw [tree, treeAll_eq_map] at hBare
        rw [TypeRef.phrase_wildcard hBare, List.map_map]
        rfl
      have hNamed := hGrammatical.1
      rw [List.forall_mem_cons] at hNamed
      have hOthers :
          shorten root (lexemesAfter .ampersand bounds ++ rest) =
            lexemesAfter .ampersand (bounds.map (shortened root))
              ++ shorten root rest :=
        shorten_lexemesAfter rest (by decide) hEach.2
          (Or.inl hNamed.2)
      have hFirst :=
        hEach.1 (lexemesAfter .ampersand bounds ++ rest)
          (Or.inl hNamed.1)
      rw [lexemes, List.cons_append, List.cons_append,
        List.append_assoc] at hStart ⊢
      rw [shorten_question hStart,
        shorten_cons_of_ne root _ (by simp), hFirst, hOthers,
        hShort, lexemes]
      simp

/- A grammatical phrase is shortened to what it means. -/
theorem shortensTo_shortened
    {p : Phrase}
    (hGrammatical : p.Grammatical) :
    ShortensTo root p (p.shortened root) := by
  induction p with
  | bare =>
      intro rest hNext
      have hEnd : EndsType rest := by
        rcases hNext with hNamed | hEnd
        · cases hNamed
        · exact hEnd
      have hStart :
          startsWrittenOut root (.symbol .question :: rest) =
            false := by
        rw [Bool.eq_false_iff, Ne, startsWrittenOut_iff]
        rintro ⟨others, hEq, _⟩
        injection hEq with _ hEq
        rw [hEq] at hEnd
        rcases hEnd _ rfl with h | h | h <;> cases h
      have hShort : shortened root .bare = .bare := by
        simp [shortened, tree, TypeRef.unbounded, TypeRef.named,
          TypeRef.phrase, TypeRef.isUnbounded]
      rw [hShort]
      exact shorten_question hStart
  | bounded relation bound bounds ihBound ihBounds =>
      apply shortensTo_bounded hGrammatical
      rw [Grammatical, allGrammatical_iff] at hGrammatical
      rw [List.forall_mem_cons]
      exact ⟨ihBound hGrammatical.2.1,
        fun b hb => ihBounds b hb (hGrammatical.2.2 b hb)⟩
  | named word words arguments dimensions ih =>
      rw [Grammatical, allGrammatical_iff] at hGrammatical
      intro rest _
      have hShort :
          (named word words arguments dimensions).shortened
              root =
            .named word words (arguments.map (shortened root))
              dimensions := by
        rw [shortened, tree, TypeRef.phrase,
          TypeRef.phraseAll_eq_map, treeAll_eq_map,
          List.map_map, ofName_dotted _ _ hGrammatical.1]
        rfl
      have hName :
          ∀ lexeme ∈ Lexeme.word word :: dottedLexemes words,
            lexeme ≠ .symbol .question := by
        rw [List.forall_mem_cons]
        exact ⟨by simp, ne_question_of_mem_dottedLexemes⟩
      have hFront :=
        shorten_append_of_ne root
          (argumentLexemes arguments ++
            (bracketLexemes dimensions ++ rest)) hName
      rw [shorten_argumentLexemes _
          (fun a ha => ih a ha (hGrammatical.2.2 a ha)),
        shorten_append_of_ne root rest
          ne_question_of_mem_bracketLexemes]
        at hFront
      rw [hShort]
      simpa [lexemes] using hFront

/- The lexemes of a whole text are shortened to its meaning. -/
theorem shorten_lexemes
    {p : Phrase}
    (hGrammatical : p.Grammatical) :
    shorten root (p.lexemes ++ [.finish]) =
      (p.shortened root).lexemes ++ [.finish] := by
  have hEnd : EndsType [.finish] := by
    intro lexeme hLexeme
    cases hLexeme
    exact Or.inr (Or.inr rfl)
  rw [shortensTo_shortened hGrammatical _ (Or.inr hEnd),
    shorten_cons_of_ne root [] (by simp)]
  rfl

end Phrase

end DeclaredApi

------------------------------------------------------------
-- Canonical Texts
------------------------------------------------------------

namespace DeclaredApi

namespace Signature

variable {root text : String}
variable {limit : Nat}
variable {r : TypeRef}
variable {lexemes : List Lexeme}

/-
  The canonical text of what is read has the lexemes of the
  text that was read, shortened.
-/
theorem hasLexemes_compact
    (hRoot : Name.isDotted root = true)
    (hRead : read root limit text = .ok r)
    (hLexemes : Token.HasLexemes text lexemes) :
    Token.HasLexemes (r.compact root) (shorten root lexemes) := by
  have hWellFormed := wellFormed_of_read hRoot hRead
  rcases read_eq_ok_iff.mp hRead with ⟨p, hDerives, rfl⟩
  rw [hLexemes.unique (Phrase.derives_iff.mp hDerives).1,
    Phrase.shorten_lexemes hDerives.grammatical,
    ← TypeRef.text_phrase hWellFormed]
  exact Token.hasLexemes_text
    (TypeRef.grammatical_phrase hWellFormed)

/- Well-formed references with the same lexemes are the same. -/
theorem eq_of_hasLexemes_compact
    {s : TypeRef}
    (hR : r.WellFormed)
    (hS : s.WellFormed)
    (hLexemesR : Token.HasLexemes (r.compact root) lexemes)
    (hLexemesS : Token.HasLexemes (s.compact root) lexemes) :
    r = s := by
  have hPhraseR : (r.phrase root).Grammatical :=
    TypeRef.grammatical_phrase hR
  have hPhraseS : (s.phrase root).Grammatical :=
    TypeRef.grammatical_phrase hS
  rw [← TypeRef.text_phrase hR] at hLexemesR
  rw [← TypeRef.text_phrase hS] at hLexemesS
  have hSame :=
    ((Token.hasLexemes_text hPhraseR).unique hLexemesR).trans
      (hLexemesS.unique (Token.hasLexemes_text hPhraseS))
  have hPhrase :
      r.phrase root = s.phrase root :=
    Phrase.eq_of_lexemes_eq hPhraseR hPhraseS
      (List.append_cancel_right hSame)
  have hTreeR : (r.phrase root).tree root = r :=
    TypeRef.tree_phrase hR
  rw [← hTreeR, hPhrase, TypeRef.tree_phrase hS]

/- Without interning, what is parsed is what is read. -/
theorem read_of_parse
    {config : Config}
    {interner : Interner}
    (hInterns : config.interns = false)
    (hParse : (Interner.parse config text interner).1 = .ok r) :
    read config.rootObject config.depthLimit text = .ok r := by
  rw [parse_of_not_interns hInterns] at hParse
  cases hRead :
      read config.rootObject config.depthLimit text with
  | ok s =>
      rw [hRead] at hParse
      exact congrArg Except.ok (Except.ok.inj hParse)
  | error fault =>
      rw [hRead] at hParse
      cases hParse

/-
  The lexemes of the canonical text of what is parsed are
  those of the text, where each wildcard that is bounded by
  just the root object type is a question mark.  So two texts
  are parsed to equal references exactly if their lexemes are
  the same up to this.
-/
theorem parse_loses_nothing
    {config : Config}
    {interner : Interner}
    {text : String}
    {r : TypeRef}
    (hInterns : config.interns = false)
    (hParse : (Interner.parse config text interner).1 = .ok r) :
    (∃ lexemes,
      Token.HasLexemes text lexemes ∧
        Token.HasLexemes (r.compact config.rootObject)
          (shorten config.rootObject lexemes)) ∧
      ∀ (other : String) (s : TypeRef)
        (lexemes others : List Lexeme),
        (Interner.parse config other interner).1 = .ok s →
          Token.HasLexemes text lexemes →
            Token.HasLexemes other others →
              (r = s ↔
                shorten config.rootObject lexemes =
                  shorten config.rootObject others) := by
  have hRoot := config.rootObject_isDotted
  have hReadR := read_of_parse hInterns hParse
  constructor
  · rcases read_eq_ok_iff.mp hReadR with ⟨p, hDerives, _⟩
    have hLexemes := (Phrase.derives_iff.mp hDerives).1
    exact ⟨_, hLexemes, hasLexemes_compact hRoot hReadR hLexemes⟩
  · intro other s lexemes others hOther hLexemes hOthers
    have hReadS := read_of_parse hInterns hOther
    have hCompactR := hasLexemes_compact hRoot hReadR hLexemes
    have hCompactS := hasLexemes_compact hRoot hReadS hOthers
    constructor
    · rintro rfl
      exact hCompactR.unique hCompactS
    · intro hSame
      rw [← hSame] at hCompactS
      exact eq_of_hasLexemes_compact
        (wellFormed_of_read hRoot hReadR)
        (wellFormed_of_read hRoot hReadS) hCompactR hCompactS

/- One of two wildcards is shortened, the array is not. -/
theorem parse_loses_nothing_written_out :
    let config : Config := { rootObject := "a.O", interns := false }
    let text := "Map<? extends a . O, ? extends a.O[ ]>"
    let r : TypeRef :=
      .simple "Map" 0
        [.unbounded "a.O", .wildcard .upper [.simple "a.O" 1 []]]
    (Interner.parse config text {}).1 = .ok r ∧
      r.compact "a.O" = "Map<?, ? extends a.O[]>" ∧
      ∃ lexemes,
        Token.HasLexemes text lexemes ∧
          Token.HasLexemes "Map<?, ? extends a.O[]>"
            (shorten "a.O" lexemes) := by
  intro config text r
  have hParse : (Interner.parse config text {}).1 = .ok r :=
    Result.eq_ok_of_toOption (by decide +kernel)
  have hCompact :
      r.compact config.rootObject = "Map<?, ? extends a.O[]>" := by
    decide +kernel
  refine ⟨hParse, hCompact, ?_⟩
  rw [← hCompact]
  exact (parse_loses_nothing rfl hParse).1

end Signature

end DeclaredApi
