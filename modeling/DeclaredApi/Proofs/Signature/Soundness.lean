import DeclaredApi.Proofs.Result
import DeclaredApi.Proofs.Signature.Completeness

/-
  Whatever is read is a grammatical phrase.

  A reader that returns a reference has taken the lexemes of
  a grammatical phrase off the front of the tokens, and the
  reference is the tree of that phrase.  This holds of every
  rule of the grammar, also where a later token is refused.

  Main declarations:
    * `Grammar.Consumes`
    * `Grammar.Worded`
    * `Grammar.Reads`
    * `Grammar.readSeparated_ok`
    * `Grammar.readNamed_ok`
    * `Grammar.typeReader_ok`
-/

------------------------------------------------------------
-- Consumed Tokens
------------------------------------------------------------

namespace DeclaredApi

namespace Grammar

/- The lexemes are those of the tokens in front of `rest`. -/
def Consumes
    (lexemes : List Lexeme)
    (tokens rest : List Token) : Prop :=
  ∃ used,
    used.map Token.lexeme = lexemes ∧ tokens = used ++ rest

namespace Consumes

/- Nothing is consumed. -/
theorem nil
    (tokens : List Token) :
    Consumes [] tokens tokens :=
  ⟨[], rfl, rfl⟩

/- One token is consumed before others. -/
theorem cons
    {lexemes : List Lexeme}
    {tokens rest : List Token}
    (t : Token)
    (hRest : Consumes lexemes tokens rest) :
    Consumes (t.lexeme :: lexemes) (t :: tokens) rest := by
  rcases hRest with ⟨used, hLexemes, rfl⟩
  exact ⟨t :: used, by simp [hLexemes], rfl⟩

/- What is consumed in two steps is consumed in one. -/
theorem append
    {first second : List Lexeme}
    {tokens between rest : List Token}
    (hFirst : Consumes first tokens between)
    (hSecond : Consumes second between rest) :
    Consumes (first ++ second) tokens rest := by
  rcases hFirst with ⟨used, hLexemes, rfl⟩
  rcases hSecond with ⟨more, hMore, rfl⟩
  exact ⟨used ++ more, by simp [hLexemes, hMore],
    by simp⟩

/- The tokens that are left are the last ones. -/
theorem isSuffix
    {lexemes : List Lexeme}
    {tokens rest : List Token}
    (hConsumes : Consumes lexemes tokens rest) :
    rest <:+ tokens := by
  rcases hConsumes with ⟨used, _, rfl⟩
  exact ⟨used, rfl⟩

end Consumes

/- The words among some tokens are identifiers. -/
def Worded (tokens : List Token) : Prop :=
  ∀ t ∈ tokens, ∀ w, t.lexeme = .word w →
    Name.isWord w.toList = true

/- Some of the tokens have identifiers for words as well. -/
theorem Worded.mono
    {tokens rest : List Token}
    (hWorded : Worded tokens)
    (hSuffix : rest <:+ tokens) :
    Worded rest :=
  fun t ht => hWorded t (hSuffix.subset ht)

end Grammar

end DeclaredApi

------------------------------------------------------------
-- Words and Brackets
------------------------------------------------------------

namespace DeclaredApi

namespace Grammar

variable {g : Grammar}

/- Words are read off dots and words. -/
theorem readSegments_ok
    {tokens rest : List Token}
    {words : List String}
    (hRead : g.readSegments tokens = .ok (words, rest)) :
    Consumes (Phrase.dottedLexemes words) tokens rest := by
  fun_induction readSegments g tokens generalizing words rest with
  | case1 p w q others ih =>
      rcases Result.bind_eq_ok_iff.mp hRead with
        ⟨⟨more, left⟩, hMore, hPure⟩
      cases hPure
      exact (ih hMore).cons ⟨.word w, q⟩ |>.cons
        ⟨.symbol .dot, p⟩
  | case2 p others hWord => cases hRead
  | case3 tokens hWord hDot =>
      cases hRead
      exact Consumes.nil tokens

/- Words that are read are identifiers. -/
theorem isWord_of_readSegments
    {tokens rest : List Token}
    {words : List String}
    (hWorded : Worded tokens)
    (hRead : g.readSegments tokens = .ok (words, rest)) :
    ∀ w ∈ words, Name.isWord w.toList = true := by
  rcases readSegments_ok hRead with ⟨used, hLexemes, rfl⟩
  intro w hw
  have hMem : .word w ∈ Phrase.dottedLexemes words := by
    clear hLexemes hRead
    induction words with
    | nil => simp at hw
    | cons v words ih =>
        rcases List.mem_cons.mp hw with rfl | hTail
        · simp [Phrase.dottedLexemes]
        · simp [Phrase.dottedLexemes, ih hTail]
  rw [← hLexemes] at hMem
  rcases List.mem_map.mp hMem with ⟨t, ht, hWord⟩
  exact hWorded t (List.mem_append_left rest ht) w hWord

/- Dimensions are read off bracket pairs. -/
theorem readDimensions_ok
    {tokens rest : List Token}
    {dimensions : Nat}
    (hRead :
      g.readDimensions tokens = .ok (dimensions, rest)) :
    Consumes (Phrase.bracketLexemes dimensions)
      tokens rest := by
  fun_induction readDimensions g tokens
    generalizing dimensions rest with
  | case1 p q others ih =>
      rcases Result.bind_eq_ok_iff.mp hRead with
        ⟨⟨more, left⟩, hMore, hPure⟩
      cases hPure
      exact (ih hMore).cons ⟨.symbol .closeBracket, q⟩ |>.cons
        ⟨.symbol .openBracket, p⟩
  | case2 p others hClose => cases hRead
  | case3 tokens hClose hOpen =>
      cases hRead
      exact Consumes.nil tokens

end Grammar

end DeclaredApi

------------------------------------------------------------
-- Lists of Types
------------------------------------------------------------

namespace DeclaredApi

namespace Grammar

/-
  A phrase that was read: its lexemes are consumed, its tree
  is the result, and it obeys the grammar and the limit.
-/
structure Reads
    (g : Grammar)
    (depth : Nat)
    (tokens rest : List Token)
    (reference : TypeRef)
    (p : Phrase) : Prop where
  consumes : Consumes p.lexemes tokens rest
  tree_eq : p.tree g.root = reference
  grammatical : p.Grammatical
  nesting_le : p.nesting ≤ depth

/-
  A reader is sound when it reads phrases of a kind only,
  from tokens whose words are identifiers.
-/
def Sound
    (g : Grammar)
    (depth : Nat)
    (kind : Phrase → Prop)
    (item : Reader TypeRef) : Prop :=
  ∀ tokens rest reference,
    Worded tokens →
      item tokens = .ok (reference, rest) →
        ∃ p, g.Reads depth tokens rest reference p ∧ kind p

/-
  A list of phrases that was read, the first one apart: the
  lexemes of all of them are consumed with the marks between.
-/
structure ReadsAll
    (g : Grammar)
    (depth : Nat)
    (kind : Phrase → Prop)
    (mark : Symbol)
    (tokens rest : List Token)
    (references : List TypeRef)
    (p : Phrase)
    (ps : List Phrase) : Prop where
  consumes :
    Consumes (p.lexemes ++ Phrase.lexemesAfter mark ps)
      tokens rest
  trees_eq : Phrase.treeAll g.root (p :: ps) = references
  grammatical : ∀ q ∈ p :: ps, q.Grammatical
  nesting_le : ∀ q ∈ p :: ps, q.nesting ≤ depth
  kinds : ∀ q ∈ p :: ps, kind q

variable {g : Grammar}

/- One phrase is a list. -/
theorem Reads.toAll
    {depth : Nat}
    {kind : Phrase → Prop}
    {tokens rest : List Token}
    {reference : TypeRef}
    {p : Phrase}
    (mark : Symbol)
    (hReads : g.Reads depth tokens rest reference p)
    (hKind : kind p) :
    g.ReadsAll depth kind mark tokens rest [reference] p [] where
  consumes := by
    simpa [Phrase.lexemesAfter] using hReads.consumes
  trees_eq := by simp [Phrase.treeAll, hReads.tree_eq]
  grammatical := by simpa using hReads.grammatical
  nesting_le := by simpa using hReads.nesting_le
  kinds := by simpa using hKind

/- A phrase and a mark go in front of a list. -/
theorem ReadsAll.cons
    {depth : Nat}
    {kind : Phrase → Prop}
    {mark : Symbol}
    {tokens others rest : List Token}
    {reference : TypeRef}
    {references : List TypeRef}
    {p q : Phrase}
    {qs : List Phrase}
    (position : Nat)
    (hAll :
      g.ReadsAll depth kind mark others rest references q qs)
    (hReads :
      g.Reads depth tokens
        (⟨.symbol mark, position⟩ :: others) reference p)
    (hKind : kind p) :
    g.ReadsAll depth kind mark tokens rest
      (reference :: references) p (q :: qs) where
  consumes :=
    hReads.consumes.append
      (hAll.consumes.cons ⟨.symbol mark, position⟩)
  trees_eq := by
    rw [← hAll.trees_eq, ← hReads.tree_eq]
    rfl
  grammatical :=
    List.forall_mem_cons.mpr
      ⟨hReads.grammatical, hAll.grammatical⟩
  nesting_le :=
    List.forall_mem_cons.mpr
      ⟨hReads.nesting_le, hAll.nesting_le⟩
  kinds := List.forall_mem_cons.mpr ⟨hKind, hAll.kinds⟩

/-
  A list ends after its first item, or it goes on after a
  mark.
-/
theorem readSeparated_cases
    {mark : Symbol}
    {item : Reader TypeRef}
    {fuel : Nat}
    {tokens rest : List Token}
    {references : List TypeRef}
    (hRead :
      readSeparated mark item fuel tokens =
        .ok (references, rest)) :
    ∃ first left,
      item tokens = .ok (first, left) ∧
        ((references = [first] ∧ rest = left) ∨
          ∃ fewer position others more,
            fuel = fewer + 1 ∧
              left = ⟨.symbol mark, position⟩ :: others ∧
                readSeparated mark item fewer others =
                    .ok (more, rest) ∧
                  references = first :: more) := by
  cases fuel with
  | zero =>
      rw [readSeparated] at hRead
      rcases Result.bind_eq_ok_iff.mp hRead with
        ⟨⟨first, left⟩, hFirst, hPure⟩
      cases hPure
      exact ⟨first, rest, hFirst, Or.inl ⟨rfl, rfl⟩⟩
  | succ fuel =>
      rw [readSeparated] at hRead
      rcases Result.bind_eq_ok_iff.mp hRead with
        ⟨⟨first, left⟩, hFirst, hRest⟩
      refine ⟨first, left, hFirst, ?_⟩
      dsimp only at hRest
      split at hRest
      · next s position others =>
          by_cases hMark : s = mark
          · subst hMark
            rw [if_pos rfl] at hRest
            rcases Result.bind_eq_ok_iff.mp hRest with
              ⟨⟨more, last⟩, hMore, hPure⟩
            cases hPure
            exact Or.inr
              ⟨fuel, position, others, more, rfl, rfl, hMore,
                rfl⟩
          · rw [if_neg hMark] at hRest
            cases hRest
            exact Or.inl ⟨rfl, rfl⟩
      · cases hRest
        exact Or.inl ⟨rfl, rfl⟩

/- A sound reader reads lists of phrases. -/
theorem readSeparated_ok
    {depth : Nat}
    {kind : Phrase → Prop}
    {mark : Symbol}
    {item : Reader TypeRef}
    {fuel : Nat}
    {tokens rest : List Token}
    {references : List TypeRef}
    (hItem : g.Sound depth kind item)
    (hWorded : Worded tokens)
    (hRead :
      readSeparated mark item fuel tokens =
        .ok (references, rest)) :
    ∃ p ps,
      g.ReadsAll depth kind mark tokens rest references
        p ps := by
  induction fuel generalizing tokens references with
  | zero =>
      rcases readSeparated_cases hRead with
        ⟨first, left, hFirst, hEnd | hMore⟩
      · rcases hEnd with ⟨rfl, rfl⟩
        rcases hItem _ _ _ hWorded hFirst with
          ⟨p, hReads, hKind⟩
        exact ⟨p, [], hReads.toAll mark hKind⟩
      · rcases hMore with ⟨fewer, _, _, _, hFuel, _⟩
        cases hFuel
  | succ fuel ih =>
      rcases readSeparated_cases hRead with
        ⟨first, left, hFirst, hEnd | hMore⟩
      · rcases hEnd with ⟨rfl, rfl⟩
        rcases hItem _ _ _ hWorded hFirst with
          ⟨p, hReads, hKind⟩
        exact ⟨p, [], hReads.toAll mark hKind⟩
      · rcases hMore with
          ⟨fewer, position, others, more, hFuel, rfl, hMore,
            rfl⟩
        cases hFuel
        rcases hItem _ _ _ hWorded hFirst with
          ⟨p, hReads, hKind⟩
        have hOthers : Worded others :=
          (hWorded.mono hReads.consumes.isSuffix).mono
            (List.suffix_cons _ others)
        rcases ih hOthers hMore with ⟨q, qs, hAll⟩
        exact ⟨p, q :: qs, hAll.cons position hReads hKind⟩

/-
  There is no argument list, or it stands between its marks
  after a name that is not primitive.
-/
theorem readArguments_cases
    {inner : Option (Reader TypeRef)}
    {name : String}
    {tokens rest : List Token}
    {arguments : List TypeRef}
    (hRead :
      g.readArguments inner name tokens =
        .ok (arguments, rest)) :
    (arguments = [] ∧ rest = tokens) ∨
      ∃ item position others last,
        inner = some item ∧
          tokens = ⟨.symbol .less, position⟩ :: others ∧
            Name.isPrimitive name = false ∧
              readSeparated .comma item others.length others =
                .ok (arguments,
                  ⟨.symbol .greater, last⟩ :: rest) := by
  unfold readArguments at hRead
  split at hRead
  · next position others =>
      split at hRead
      · cases hRead
      · next hPrimitive =>
          split at hRead
          · cases hRead
          · cases hRead
          · next item _ =>
              rcases Result.bind_eq_ok_iff.mp hRead with
                ⟨⟨found, left⟩, hFound, hClose⟩
              dsimp only at hClose
              split at hClose
              · cases hClose
              · next last more =>
                  cases hClose
                  exact Or.inr
                    ⟨item, position, others, last, rfl, rfl,
                      by simpa using hPrimitive, hFound⟩
              · cases hClose
  · cases hRead
    exact Or.inl ⟨rfl, rfl⟩

/- Arguments are phrases that nest one level less. -/
theorem readArguments_ok
    {depth : Nat}
    {name : String}
    {tokens rest : List Token}
    {arguments : List TypeRef}
    (hInner :
      ∀ inner, depth = inner + 1 →
        g.Sound inner (fun _ => True) (g.typeReader inner))
    (hWorded : Worded tokens)
    (hRead :
      g.readArguments (g.argumentReader depth) name tokens =
        .ok (arguments, rest)) :
    ∃ as,
      Consumes (Phrase.argumentLexemes as) tokens rest ∧
        Phrase.treeAll g.root as = arguments ∧
        (Name.isPrimitive name = true → as = []) ∧
        Phrase.AllGrammatical as ∧
        ∀ words dimensions,
          (Phrase.named name words as dimensions).nesting ≤
            depth := by
  rcases readArguments_cases hRead with hNone | hSome
  · rcases hNone with ⟨rfl, rfl⟩
    refine ⟨[], Consumes.nil _, rfl, fun _ => rfl, trivial,
      ?_⟩
    intro words dimensions
    simp [Phrase.nesting]
  · rcases hSome with
      ⟨item, position, others, last, hItem, rfl, hPrimitive,
        hFound⟩
    cases depth with
    | zero => cases hItem
    | succ depth =>
        cases hItem
        rcases readSeparated_ok (hInner depth rfl)
            (hWorded.mono (List.suffix_cons _ others))
            hFound with
          ⟨a, as, hAll⟩
        refine ⟨a :: as, ?_, hAll.trees_eq, ?_, ?_, ?_⟩
        · have hClose :
              Consumes [.symbol .greater]
                (⟨.symbol .greater, last⟩ :: rest) rest :=
            (Consumes.nil rest).cons ⟨.symbol .greater, last⟩
          simpa [Phrase.argumentLexemes] using
            (hAll.consumes.append hClose).cons
              ⟨.symbol .less, position⟩
        · intro hName
          rw [hPrimitive] at hName
          cases hName
        · exact (Phrase.allGrammatical_iff _).mpr
            hAll.grammatical
        · intro words dimensions
          have hNesting :=
            (Phrase.nestingAll_le_iff _ _).mpr hAll.nesting_le
          rw [Phrase.nesting]
          omega

end Grammar

end DeclaredApi

------------------------------------------------------------
-- Types
------------------------------------------------------------

namespace DeclaredApi

namespace Grammar

variable {g : Grammar}

/- Named types are read as phrases of their production. -/
theorem readNamed_ok
    {depth : Nat}
    (hInner :
      ∀ inner, depth = inner + 1 →
        g.Sound inner (fun _ => True) (g.typeReader inner)) :
    g.Sound depth (fun p => p.isNamed = true)
      (g.readNamed (g.argumentReader depth)) := by
  intro tokens rest reference hWorded hRead
  unfold readNamed at hRead
  split at hRead
  · next word position others =>
      rcases Result.bind_eq_ok_iff.mp hRead with
        ⟨⟨words, afterWords⟩, hWords, hRead⟩
      rcases Result.bind_eq_ok_iff.mp hRead with
        ⟨⟨arguments, afterList⟩, hList, hRead⟩
      rcases Result.bind_eq_ok_iff.mp hRead with
        ⟨⟨dimensions, left⟩, hDimensions, hPure⟩
      cases hPure
      have hOthers : Worded others :=
        hWorded.mono (List.suffix_cons _ others)
      have hSegments := readSegments_ok hWords
      rcases readArguments_ok hInner
          (hOthers.mono hSegments.isSuffix) hList with
        ⟨as, hArguments, hTrees, hPrimitive, hAll, hNesting⟩
      refine ⟨.named word words as dimensions,
        ⟨?_, ?_, ?_, ?_⟩, rfl⟩
      · rw [Phrase.lexemes]
        exact
          (hSegments.append
            (hArguments.append
              (readDimensions_ok hDimensions))).cons
            ⟨.word word, position⟩
      · rw [Phrase.tree, hTrees]
        rfl
      · refine ⟨?_, hPrimitive, hAll⟩
        exact List.forall_mem_cons.mpr
          ⟨hWorded _ List.mem_cons_self word rfl,
            isWord_of_readSegments hOthers hWords⟩
      · cases as with
        | nil => simp [Phrase.nesting]
        | cons a as =>
            simpa [Phrase.nesting] using hNesting words 0
  · cases hRead

/- Bounds are read as named types. -/
theorem readBound_ok
    {depth : Nat}
    {inner : Option (Reader TypeRef)}
    (hNamed :
      g.Sound depth (fun p => p.isNamed = true)
        (g.readNamed inner)) :
    g.Sound depth (fun p => p.isNamed = true)
      (g.readBound inner) := by
  intro tokens rest reference hWorded hRead
  unfold readBound at hRead
  split at hRead
  · cases hRead
  · exact hNamed _ _ _ hWorded hRead
  · cases hRead

/-
  What a question mark starts is a bare wildcard, or bounds
  after a keyword.
-/
theorem readWildcard_cases
    {inner : Option (Reader TypeRef)}
    {tokens rest : List Token}
    {reference : TypeRef}
    (hRead :
      g.readWildcard inner tokens = .ok (reference, rest)) :
    (reference = .unbounded g.root ∧ rest = tokens) ∨
      ∃ relation position others bounds,
        tokens =
            ⟨.word (BoundRelation.word relation), position⟩ ::
              others ∧
          readSeparated .ampersand (g.readBound inner)
              others.length others =
            .ok (bounds, rest) ∧
          reference = .wildcard relation bounds := by
  unfold readWildcard at hRead
  dsimp only at hRead
  split at hRead
  · next w position others =>
      split at hRead
      · cases hRead
      · next relation hRelation =>
          rcases Result.bind_eq_ok_iff.mp hRead with
            ⟨⟨bounds, last⟩, hBounds, hClose⟩
          rw [BoundRelation.eq_word_of_ofWord? hRelation]
          dsimp only [bind, Except.bind, pure, Except.pure]
            at hClose
          split at hClose
          · cases hClose
          · cases hClose
            exact Or.inr
              ⟨relation, position, others, bounds, rfl,
                hBounds, rfl⟩
  · dsimp only [bind, Except.bind, pure, Except.pure] at hRead
    split at hRead
    · cases hRead
    · cases hRead
      exact Or.inl ⟨rfl, rfl⟩

/- Types are read as phrases. -/
theorem readType_ok
    {depth : Nat}
    {inner : Option (Reader TypeRef)}
    (hNamed :
      g.Sound depth (fun p => p.isNamed = true)
        (g.readNamed inner)) :
    g.Sound depth (fun _ => True) (g.readType inner) := by
  intro tokens rest reference hWorded hRead
  unfold readType at hRead
  split at hRead
  · next position others =>
      have hOthers : Worded others :=
        hWorded.mono (List.suffix_cons _ others)
      rcases readWildcard_cases hRead with hBare | hBounded
      · rcases hBare with ⟨rfl, rfl⟩
        refine ⟨.bare, ⟨?_, rfl, trivial, ?_⟩, trivial⟩
        · rw [Phrase.lexemes]
          exact (Consumes.nil _).cons
            ⟨.symbol .question, position⟩
        · simp [Phrase.nesting]
      · rcases hBounded with
          ⟨relation, q, after, bounds, rfl, hBounds, rfl⟩
        rcases readSeparated_ok (readBound_ok hNamed)
            (hOthers.mono (List.suffix_cons _ after))
            hBounds with
          ⟨b, bs, hAll⟩
        refine ⟨.bounded relation b bs, ⟨?_, ?_, ?_, ?_⟩,
          trivial⟩
        · rw [Phrase.lexemes]
          exact (hAll.consumes.cons
            ⟨.word relation.word, q⟩).cons
              ⟨.symbol .question, position⟩
        · rw [Phrase.tree, ← hAll.trees_eq]
          rfl
        · exact ⟨hAll.kinds,
            hAll.grammatical b List.mem_cons_self,
            (Phrase.allGrammatical_iff bs).mpr (fun q hq =>
              hAll.grammatical q (List.mem_cons_of_mem b hq))⟩
        · exact (Phrase.nestingAll_le_iff (b :: bs) depth).mpr
            hAll.nesting_le
  · rcases hNamed _ _ _ hWorded hRead with ⟨p, hReads, _⟩
    exact ⟨p, hReads, trivial⟩

/- The reader of types reads phrases under its limit. -/
theorem typeReader_ok
    (depth : Nat) :
    g.Sound depth (fun _ => True) (g.typeReader depth) := by
  induction depth with
  | zero =>
      rw [typeReader_eq]
      apply readType_ok
      apply readNamed_ok
      intro inner hInner
      cases hInner
  | succ depth ih =>
      rw [typeReader_eq]
      apply readType_ok
      apply readNamed_ok
      intro inner hInner
      cases hInner
      exact ih

end Grammar

namespace Signature

/- Tokens that are read as a whole derive a phrase. -/
theorem readTokens_ok
    {g : Grammar}
    {tokens : List Token}
    {reference : TypeRef}
    (hWorded : Grammar.Worded tokens)
    (hRead : readTokens g tokens = .ok reference) :
    ∃ p : Phrase,
      tokens.map Token.lexeme = p.lexemes ∧
        p.tree g.root = reference ∧
        p.Grammatical ∧
        p.nesting ≤ g.limit := by
  unfold readTokens at hRead
  split at hRead
  · cases hRead
  · rcases Result.bind_eq_ok_iff.mp hRead with
      ⟨⟨found, left⟩, hFound, hClose⟩
    rcases Grammar.typeReader_ok g.limit _ _ _ hWorded hFound
      with ⟨p, hReads, _⟩
    cases left with
    | nil =>
        cases hClose
        rcases hReads.consumes with ⟨used, hLexemes, rfl⟩
        exact ⟨p, by simpa using hLexemes, hReads.tree_eq,
          hReads.grammatical, hReads.nesting_le⟩
    | cons t rest => cases hClose

end Signature

end DeclaredApi
