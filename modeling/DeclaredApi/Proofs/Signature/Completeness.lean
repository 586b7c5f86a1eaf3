import DeclaredApi.Proofs.Signature.Phrase
import DeclaredApi.Signature.Grammar

/-
  Every grammatical phrase is read.

  A reader that meets the lexemes of a phrase, and after them
  no token that could continue the phrase, takes exactly
  these lexemes and returns the tree of the phrase.

  Main declarations:
    * `Grammar.StopsAt`
    * `Grammar.Takes`
    * `Grammar.readSeparated_takes`
    * `Grammar.readNamed_takes`
    * `Grammar.typeReader_takes`
-/

------------------------------------------------------------
-- What Follows a Phrase
------------------------------------------------------------

namespace DeclaredApi

namespace Grammar

/- The lexeme of the first token. -/
def nextLexeme (tokens : List Token) : Option Lexeme :=
  (tokens.map Token.lexeme).head?

/- No token is left, or the next one is one of the marks. -/
def StopsAt
    (marks : List Symbol)
    (tokens : List Token) : Prop :=
  ∀ lexeme ∈ nextLexeme tokens,
    ∃ s ∈ marks, lexeme = .symbol s

/- The marks that can follow a type. -/
def typeMarks : List Symbol :=
  [.comma, .greater]

/- The marks that can follow a named type. -/
def namedMarks : List Symbol :=
  [.ampersand, .comma, .greater]

/- The next lexeme, when the lexemes at the front are known. -/
theorem nextLexeme_append
    {ts : List Token}
    {lexemes : List Lexeme}
    (rest : List Token)
    (hTokens : ts.map Token.lexeme = lexemes) :
    nextLexeme (ts ++ rest) =
      lexemes.head?.or (nextLexeme rest) := by
  simp [nextLexeme, hTokens]

namespace StopsAt

/- Nothing follows the last token. -/
theorem nil
    (marks : List Symbol) :
    StopsAt marks [] := by
  intro lexeme hLexeme
  simp [nextLexeme] at hLexeme

/- A mark follows. -/
theorem cons
    {marks : List Symbol}
    {s : Symbol}
    (hMark : s ∈ marks)
    (position : Nat)
    (rest : List Token) :
    StopsAt marks (⟨.symbol s, position⟩ :: rest) := by
  intro lexeme hLexeme
  simp only [nextLexeme, List.map_cons, List.head?_cons,
    Option.mem_def, Option.some.injEq] at hLexeme
  exact ⟨s, hMark, hLexeme.symm⟩

/- What follows is no symbol apart from the marks. -/
theorem ne
    {marks : List Symbol}
    {tokens : List Token}
    {s : Symbol}
    (hStop : StopsAt marks tokens)
    (hMark : s ∉ marks) :
    nextLexeme tokens ≠ some (.symbol s) := by
  intro hNext
  rcases hStop _ hNext with ⟨mark, hMem, hEq⟩
  cases hEq
  exact hMark hMem

/- More marks allow more. -/
theorem mono
    {marks more : List Symbol}
    {tokens : List Token}
    (hStop : StopsAt marks tokens)
    (hSubset : marks ⊆ more) :
    StopsAt more tokens := by
  intro lexeme hLexeme
  rcases hStop lexeme hLexeme with ⟨s, hMem, hEq⟩
  exact ⟨s, hSubset hMem, hEq⟩

end StopsAt

/-
  A reader takes a phrase when it reads the lexemes of the
  phrase off any tokens that then stop at one of the marks.
-/
def Takes
    (g : Grammar)
    (item : Reader TypeRef)
    (marks : List Symbol)
    (p : Phrase) : Prop :=
  ∀ ts rest : List Token,
    ts.map Token.lexeme = p.lexemes →
      StopsAt marks rest →
        item (ts ++ rest) = .ok (p.tree g.root, rest)

end Grammar

end DeclaredApi

------------------------------------------------------------
-- Words and Brackets
------------------------------------------------------------

namespace DeclaredApi

namespace Grammar

variable {g : Grammar}

/- Without a dot there are no more words. -/
theorem readSegments_of_ne_dot
    {rest : List Token}
    (hNext : nextLexeme rest ≠ some (.symbol .dot)) :
    g.readSegments rest = .ok ([], rest) := by
  unfold readSegments
  split
  · exact absurd rfl hNext
  · exact absurd rfl hNext
  · rfl

/- Words after dots are read up to a token that is no dot. -/
theorem readSegments_dottedLexemes
    {words : List String}
    {ts : List Token}
    {rest : List Token}
    (hTokens :
      ts.map Token.lexeme = Phrase.dottedLexemes words)
    (hNext : nextLexeme rest ≠ some (.symbol .dot)) :
    g.readSegments (ts ++ rest) = .ok (words, rest) := by
  induction words generalizing ts with
  | nil =>
      have hNil : ts = [] := by
        simpa [Phrase.dottedLexemes] using hTokens
      subst hNil
      exact readSegments_of_ne_dot hNext
  | cons w words ih =>
      simp only [Phrase.dottedLexemes, List.map_eq_cons_iff]
        at hTokens
      rcases hTokens with
        ⟨⟨_, p⟩, _, rfl, rfl, ⟨_, q⟩, us, rfl, rfl, hTokens⟩
      simp only [List.cons_append]
      rw [readSegments, ih hTokens]
      rfl

/- Without an opening bracket there are no dimensions. -/
theorem readDimensions_of_ne_bracket
    {rest : List Token}
    (hNext :
      nextLexeme rest ≠ some (.symbol .openBracket)) :
    g.readDimensions rest = .ok (0, rest) := by
  unfold readDimensions
  split
  · exact absurd rfl hNext
  · exact absurd rfl hNext
  · rfl

/- Bracket pairs are read up to a token that opens none. -/
theorem readDimensions_bracketLexemes
    {dimensions : Nat}
    {ts : List Token}
    {rest : List Token}
    (hTokens :
      ts.map Token.lexeme = Phrase.bracketLexemes dimensions)
    (hNext :
      nextLexeme rest ≠ some (.symbol .openBracket)) :
    g.readDimensions (ts ++ rest) =
      .ok (dimensions, rest) := by
  induction dimensions generalizing ts with
  | zero =>
      have hNil : ts = [] := by
        simpa [Phrase.bracketLexemes] using hTokens
      subst hNil
      exact readDimensions_of_ne_bracket hNext
  | succ dimensions ih =>
      simp only [Phrase.bracketLexemes, List.map_eq_cons_iff]
        at hTokens
      rcases hTokens with
        ⟨⟨_, p⟩, _, rfl, rfl, ⟨_, q⟩, us, rfl, rfl, hTokens⟩
      simp only [List.cons_append]
      rw [readDimensions, ih hTokens]
      rfl

end Grammar

end DeclaredApi

------------------------------------------------------------
-- Lists of Types
------------------------------------------------------------

namespace DeclaredApi

namespace Grammar

variable {g : Grammar}

/- The last item of a list is followed by no further mark. -/
theorem readSeparated_last
    {mark : Symbol}
    {item : Reader TypeRef}
    {fuel : Nat}
    {tokens rest : List Token}
    {reference : TypeRef}
    (hItem : item tokens = .ok (reference, rest))
    (hNext : nextLexeme rest ≠ some (.symbol mark)) :
    readSeparated mark item fuel tokens =
      .ok ([reference], rest) := by
  cases fuel with
  | zero =>
      rw [readSeparated, hItem]
      rfl
  | succ fuel =>
      rw [readSeparated, hItem]
      simp only [bind, Except.bind]
      split
      · next s p others =>
          have hMark : s ≠ mark := by
            rintro rfl
            exact hNext rfl
          rw [if_neg hMark]
          rfl
      · rfl

/-
  A reader that takes every phrase of a list reads the list,
  given fuel for the phrases after the first.
-/
theorem readSeparated_takes
    {mark : Symbol}
    {marks : List Symbol}
    {item : Reader TypeRef}
    {p : Phrase}
    {ps : List Phrase}
    {fuel : Nat}
    {ts rest : List Token}
    (hItem : ∀ q ∈ p :: ps, g.Takes item marks q)
    (hMark : mark ∈ marks)
    (hFuel : ps.length ≤ fuel)
    (hTokens :
      ts.map Token.lexeme =
        p.lexemes ++ Phrase.lexemesAfter mark ps)
    (hStop : StopsAt marks rest)
    (hNext : nextLexeme rest ≠ some (.symbol mark)) :
    readSeparated mark item fuel (ts ++ rest) =
      .ok (Phrase.treeAll g.root (p :: ps), rest) := by
  induction ps generalizing p ts fuel with
  | nil =>
      have hFirst := hItem p List.mem_cons_self ts rest
        (by simpa [Phrase.lexemesAfter] using hTokens) hStop
      simpa [Phrase.treeAll] using
        readSeparated_last hFirst hNext
  | cons q ps ih =>
      rcases List.map_eq_append_iff.mp hTokens with
        ⟨us, vs, rfl, hFirst, hOthers⟩
      simp only [Phrase.lexemesAfter, List.map_eq_cons_iff]
        at hOthers
      rcases hOthers with ⟨⟨_, position⟩, ws, rfl, rfl, hMore⟩
      cases fuel with
      | zero => simp at hFuel
      | succ fuel =>
          have hHead := hItem p List.mem_cons_self us
            (⟨.symbol mark, position⟩ :: (ws ++ rest)) hFirst
            (StopsAt.cons hMark position (ws ++ rest))
          have hTail := ih
            (fun r hr => hItem r (List.mem_cons_of_mem p hr))
            (by simpa using hFuel) hMore
          rw [List.append_assoc, List.cons_append,
            readSeparated, hHead]
          simp only [bind, Except.bind, if_pos]
          rw [hTail]
          rfl

/- A missing argument list takes no token. -/
theorem readArguments_of_ne_less
    {inner : Option (Reader TypeRef)}
    {name : String}
    {rest : List Token}
    (hNext : nextLexeme rest ≠ some (.symbol .less)) :
    g.readArguments inner name rest = .ok ([], rest) := by
  unfold readArguments
  split
  · exact absurd rfl hNext
  · rfl

/-
  An argument list is closed by the mark that the reader of
  arguments stops at.
-/
theorem readArguments_of_readSeparated
    {item : Reader TypeRef}
    {name : String}
    {arguments : List TypeRef}
    {position last : Nat}
    {tokens rest : List Token}
    (hPrimitive : Name.isPrimitive name = false)
    (hNext : nextLexeme tokens ≠ some (.symbol .greater))
    (hRead :
      readSeparated .comma item tokens.length tokens =
        .ok (arguments, ⟨.symbol .greater, last⟩ :: rest)) :
    g.readArguments (some item) name
        (⟨.symbol .less, position⟩ :: tokens) =
      .ok (arguments, rest) := by
  rw [readArguments, hPrimitive]
  · simp only [Bool.false_eq_true, if_false]
    rw [hRead]
    rfl
  · rintro q others rfl
    exact hNext rfl

/-
  The arguments of a name that is not primitive are read up
  to the closing mark, wherever the reader of arguments takes
  each of them.
-/
theorem readArguments_takes
    {item : Reader TypeRef}
    {name : String}
    {a : Phrase}
    {as : List Phrase}
    {ts rest : List Token}
    (hItem : ∀ q ∈ a :: as, g.Takes item typeMarks q)
    (hPrimitive : Name.isPrimitive name = false)
    (hTokens :
      ts.map Token.lexeme = Phrase.argumentLexemes (a :: as)) :
    g.readArguments (some item) name (ts ++ rest) =
      .ok (Phrase.treeAll g.root (a :: as), rest) := by
  simp only [Phrase.argumentLexemes, List.map_eq_cons_iff,
    ← List.append_assoc] at hTokens
  rcases hTokens with ⟨⟨_, position⟩, us, rfl, rfl, hTokens⟩
  rcases List.map_eq_append_iff.mp hTokens with
    ⟨vs, ws, rfl, hArguments, hClose⟩
  simp only [List.map_eq_cons_iff, List.map_eq_nil_iff]
    at hClose
  rcases hClose with ⟨⟨_, last⟩, _, rfl, rfl, rfl⟩
  rw [List.cons_append, List.append_assoc]
  apply readArguments_of_readSeparated hPrimitive
  · -- A list does not start with its closing mark.
    rw [nextLexeme_append _ hArguments]
    cases hFirst : a.lexemes with
    | nil => exact absurd hFirst a.lexemes_ne_nil
    | cons lexeme lexemes =>
        have hNot := a.head_lexemes_ne_greater
        rw [hFirst] at hNot
        simpa using hNot
  · apply readSeparated_takes hItem (by simp [typeMarks])
      _ hArguments
    · exact StopsAt.cons (by simp [typeMarks]) last rest
    · simp [nextLexeme]
    · have hLength := congrArg List.length hArguments
      have hAfter :=
        Phrase.length_le_length_lexemesAfter .comma as
      simp only [List.length_map, List.length_append] at *
      omega

end Grammar

end DeclaredApi

------------------------------------------------------------
-- Types
------------------------------------------------------------

namespace DeclaredApi

namespace Grammar

variable {g : Grammar}

/- Brackets are followed by what follows the named type. -/
theorem nextLexeme_brackets_ne
    {marks : List Symbol}
    {s : Symbol}
    {dimensions : Nat}
    {brackets rest : List Token}
    (hBrackets :
      brackets.map Token.lexeme =
        Phrase.bracketLexemes dimensions)
    (hStop : StopsAt marks rest)
    (hMark : s ∉ marks)
    (hOther : s ≠ .openBracket) :
    nextLexeme (brackets ++ rest) ≠ some (.symbol s) := by
  rw [nextLexeme_append _ hBrackets]
  cases dimensions with
  | zero => exact hStop.ne hMark
  | succ dimensions =>
      simpa [Phrase.bracketLexemes] using hOther.symm

/-
  A named type is read when its arguments can be: there are
  none, or the reader of arguments takes each of them.
-/
theorem readNamed_takes
    {inner : Option (Reader TypeRef)}
    {word : String}
    {words : List String}
    {arguments : List Phrase}
    {dimensions : Nat}
    (hGrammatical :
      (Phrase.named word words arguments
        dimensions).Grammatical)
    (hInner :
      arguments ≠ [] →
        ∃ item ∈ inner,
          ∀ q ∈ arguments, g.Takes item typeMarks q) :
    g.Takes (g.readNamed inner) namedMarks
      (.named word words arguments dimensions) := by
  intro ts rest hTokens hStop
  simp only [Phrase.lexemes, List.map_eq_cons_iff] at hTokens
  rcases hTokens with ⟨⟨_, position⟩, us, rfl, rfl, hTokens⟩
  rcases List.map_eq_append_iff.mp hTokens with
    ⟨segments, vs, rfl, hSegments, hTokens⟩
  rcases List.map_eq_append_iff.mp hTokens with
    ⟨argumentTokens, brackets, rfl, hArguments, hBrackets⟩
  have hDimensions :
      g.readDimensions (brackets ++ rest) =
        .ok (dimensions, rest) :=
    readDimensions_bracketLexemes hBrackets
      (hStop.ne (by simp [namedMarks]))
  have hList :
      g.readArguments inner (Phrase.dotted word words)
          (argumentTokens ++ (brackets ++ rest)) =
        .ok (Phrase.treeAll g.root arguments,
          brackets ++ rest) := by
    cases arguments with
    | nil =>
        have hNil : argumentTokens = [] := by
          simpa [Phrase.argumentLexemes] using hArguments
        subst hNil
        apply readArguments_of_ne_less
        rw [List.nil_append]
        exact nextLexeme_brackets_ne hBrackets hStop
          (by simp [namedMarks]) (by simp)
    | cons a as =>
        rcases hInner (List.cons_ne_nil a as) with
          ⟨item, hItem, hTakes⟩
        cases hItem
        apply readArguments_takes hTakes _ hArguments
        cases hPrimitive :
            Name.isPrimitive (Phrase.dotted word words) with
        | false => rfl
        | true => cases hGrammatical.2.1 hPrimitive
  have hWords :
      g.readSegments
          (segments ++
            (argumentTokens ++ (brackets ++ rest))) =
        .ok (words, argumentTokens ++ (brackets ++ rest)) := by
    apply readSegments_dottedLexemes hSegments
    rw [nextLexeme_append _ hArguments]
    cases arguments with
    | cons a as => simp [Phrase.argumentLexemes]
    | nil =>
        exact nextLexeme_brackets_ne hBrackets hStop
          (by simp [namedMarks]) (by simp)
  simp only [List.cons_append, List.append_assoc]
  rw [readNamed, hWords]
  simp only [bind, Except.bind]
  rw [show ".".intercalate (word :: words) =
    Phrase.dotted word words from rfl, hList]
  simp only [hDimensions]
  rfl

/- A bound is read as the named type that it is. -/
theorem readBound_takes
    {inner : Option (Reader TypeRef)}
    {marks : List Symbol}
    {p : Phrase}
    (hNamed : p.isNamed = true)
    (hTakes : g.Takes (g.readNamed inner) marks p) :
    g.Takes (g.readBound inner) marks p := by
  intro ts rest hTokens hStop
  have hRead := hTakes ts rest hTokens hStop
  rcases Phrase.lexemes_of_isNamed hNamed with
    ⟨w, lexemes, hLexemes⟩
  rw [hLexemes] at hTokens
  rcases List.map_eq_cons_iff.mp hTokens with
    ⟨⟨_, position⟩, us, rfl, rfl, hRest⟩
  rw [List.cons_append] at hRead ⊢
  rw [readBound, hRead]

/- A bare question mark is read where a type can end. -/
theorem readType_takes_bare
    (inner : Option (Reader TypeRef)) :
    g.Takes (g.readType inner) typeMarks .bare := by
  intro ts rest hTokens hStop
  simp only [Phrase.lexemes, List.map_eq_cons_iff,
    List.map_eq_nil_iff] at hTokens
  rcases hTokens with ⟨⟨_, position⟩, _, rfl, rfl, rfl⟩
  have hBracket := hStop.ne (s := .openBracket)
    (by simp [typeMarks])
  rw [List.singleton_append, readType]
  cases rest with
  | nil => rfl
  | cons t rest =>
      rcases hStop t.lexeme (by simp [nextLexeme]) with
        ⟨s, hMark, hLexeme⟩
      rcases t with ⟨lexeme, q⟩
      simp only at hLexeme
      subst hLexeme
      simp only [readWildcard, bind, Except.bind, pure,
        Except.pure]
      split
      · next hOpen =>
          cases hOpen
          exact absurd rfl hBracket
      · rfl

/- A wildcard is read when each of its bounds is. -/
theorem readType_takes_bounded
    {inner : Option (Reader TypeRef)}
    {relation : BoundRelation}
    {bound : Phrase}
    {bounds : List Phrase}
    (hNamed : ∀ b ∈ bound :: bounds, b.isNamed = true)
    (hTakes :
      ∀ b ∈ bound :: bounds,
        g.Takes (g.readNamed inner) namedMarks b) :
    g.Takes (g.readType inner) typeMarks
      (.bounded relation bound bounds) := by
  intro ts rest hTokens hStop
  simp only [Phrase.lexemes, List.map_eq_cons_iff] at hTokens
  rcases hTokens with
    ⟨⟨_, p⟩, _, rfl, rfl, ⟨_, q⟩, us, rfl, rfl, hTokens⟩
  have hFuel : bounds.length ≤ (us ++ rest).length := by
    have hLength := congrArg List.length hTokens
    have hAfter :=
      Phrase.length_le_length_lexemesAfter .ampersand bounds
    simp only [List.length_map, List.length_append] at *
    omega
  have hRead :=
    readSeparated_takes
      (fun b hb => readBound_takes (hNamed b hb) (hTakes b hb))
      (by simp [namedMarks] : Symbol.ampersand ∈ namedMarks)
      hFuel hTokens
      (hStop.mono (by simp [typeMarks, namedMarks]))
      (hStop.ne (by simp [typeMarks]))
  have hBracket := hStop.ne (s := .openBracket)
    (by simp [typeMarks])
  have hWord :
      BoundRelation.ofWord? relation.word = some relation := by
    cases relation <;> rfl
  rw [List.cons_append, List.cons_append, readType,
    readWildcard, hWord]
  simp only [bind, Except.bind, pure, Except.pure, hRead]
  split
  · exact absurd rfl hBracket
  · rfl

/- A named type is read as a type. -/
theorem readType_takes_named
    {inner : Option (Reader TypeRef)}
    {p : Phrase}
    (hNamed : p.isNamed = true)
    (hTakes : g.Takes (g.readNamed inner) namedMarks p) :
    g.Takes (g.readType inner) typeMarks p := by
  intro ts rest hTokens hStop
  have hRead := hTakes ts rest hTokens
    (hStop.mono (by simp [typeMarks, namedMarks]))
  rcases Phrase.lexemes_of_isNamed hNamed with
    ⟨w, lexemes, hLexemes⟩
  rw [hLexemes] at hTokens
  rcases List.map_eq_cons_iff.mp hTokens with
    ⟨⟨_, position⟩, us, rfl, rfl, hRest⟩
  rw [List.cons_append] at hRead ⊢
  rw [readType, hRead]
  rintro _ _ ⟨⟩

end Grammar

end DeclaredApi

------------------------------------------------------------
-- Nested Types
------------------------------------------------------------

namespace DeclaredApi

namespace Grammar

variable {g : Grammar}

/- The reader of type arguments under a limit, if any. -/
def argumentReader
    (g : Grammar) : Nat → Option (Reader TypeRef)
| 0 => none
| depth + 1 => some (g.typeReader depth)

theorem typeReader_eq
    (g : Grammar)
    (depth : Nat) :
    g.typeReader depth =
      g.readType (g.argumentReader depth) := by
  cases depth with
  | zero => rfl
  | succ depth => rfl

/- Arguments nest one level less than the phrase they are in. -/
theorem exists_argumentReader
    {a : Phrase}
    {as : List Phrase}
    {word : String}
    {words : List String}
    {dimensions depth : Nat}
    (hNesting :
      (Phrase.named word words (a :: as)
        dimensions).nesting ≤ depth) :
    ∃ inner,
      g.argumentReader depth = some (g.typeReader inner) ∧
        ∀ q ∈ a :: as, q.nesting ≤ inner := by
  rw [Phrase.nesting] at hNesting
  cases depth with
  | zero => omega
  | succ depth =>
      refine ⟨depth, rfl, ?_⟩
      rw [← Phrase.nestingAll_le_iff]
      omega

/-
  A grammatical phrase is read as a type under every limit
  that its nesting keeps, and as a named type if it is one.
-/
theorem readType_takes
    {p : Phrase}
    {depth : Nat}
    (hGrammatical : p.Grammatical)
    (hNesting : p.nesting ≤ depth) :
    g.Takes (g.readType (g.argumentReader depth)) typeMarks p ∧
      (p.isNamed = true →
        g.Takes (g.readNamed (g.argumentReader depth))
          namedMarks p) := by
  induction p generalizing depth with
  | bare =>
      exact ⟨readType_takes_bare _, by simp [Phrase.isNamed]⟩
  | bounded relation bound bounds ihBound ihBounds =>
      rw [Phrase.Grammatical, Phrase.allGrammatical_iff]
        at hGrammatical
      rw [Phrase.nesting, Nat.max_le, Phrase.nestingAll_le_iff]
        at hNesting
      refine ⟨readType_takes_bounded hGrammatical.1 ?_,
        by simp [Phrase.isNamed]⟩
      intro b hb
      have hNamed := hGrammatical.1 b hb
      rcases List.mem_cons.mp hb with rfl | hMem
      · exact (ihBound hGrammatical.2.1 hNesting.1).2 hNamed
      · exact (ihBounds b hMem (hGrammatical.2.2 b hMem)
          (hNesting.2 b hMem)).2 hNamed
  | named word words arguments dimensions ih =>
      have hTakes :
          g.Takes (g.readNamed (g.argumentReader depth))
            namedMarks
            (.named word words arguments dimensions) := by
        apply readNamed_takes hGrammatical
        intro hArguments
        cases arguments with
        | nil => exact absurd rfl hArguments
        | cons a as =>
            rcases exists_argumentReader (g := g) hNesting with
              ⟨inner, hInner, hDepth⟩
            rw [Phrase.Grammatical, Phrase.allGrammatical_iff]
              at hGrammatical
            refine ⟨g.typeReader inner, hInner, ?_⟩
            intro q hq
            rw [typeReader_eq]
            exact (ih q hq (hGrammatical.2.2 q hq)
              (hDepth q hq)).1
      exact ⟨readType_takes_named rfl hTakes, fun _ => hTakes⟩

/- A grammatical phrase is read by the reader of types. -/
theorem typeReader_takes
    {p : Phrase}
    {depth : Nat}
    (hGrammatical : p.Grammatical)
    (hNesting : p.nesting ≤ depth) :
    g.Takes (g.typeReader depth) typeMarks p := by
  rw [typeReader_eq]
  exact (readType_takes hGrammatical hNesting).1

end Grammar

namespace Signature

/- The tokens of a grammatical phrase are read as its tree. -/
theorem readTokens_of_lexemes
    {g : Grammar}
    {p : Phrase}
    {tokens : List Token}
    (hGrammatical : p.Grammatical)
    (hNesting : p.nesting ≤ g.limit)
    (hTokens : tokens.map Token.lexeme = p.lexemes) :
    readTokens g tokens = .ok (p.tree g.root) := by
  have hNonempty : tokens.isEmpty = false := by
    cases tokens with
    | nil => exact absurd hTokens.symm p.lexemes_ne_nil
    | cons t ts => rfl
  have hRead :=
    Grammar.typeReader_takes (g := g) hGrammatical hNesting
      tokens [] hTokens (Grammar.StopsAt.nil _)
  rw [List.append_nil] at hRead
  rw [readTokens, hNonempty, hRead]
  rfl

end Signature

end DeclaredApi
