import DeclaredApi.Proofs.Signature.Faults

/-
  What the rules of the grammar refuse.

  Each rule settles what becomes of the tokens it is given:
  what it takes before it fails begins something that the
  rule derives, and the token that it refuses is refused by
  the same rule under every higher limit.

  Main declarations:
    * `Grammar.readSegments_settles`
    * `Grammar.readDimensions_settles`
    * `Grammar.readSeparated_settles`
    * `Grammar.readArguments_settles`
    * `Grammar.readNamed_settles`
    * `Grammar.readType_settles`
    * `Grammar.typeReader_settles`
-/

------------------------------------------------------------
-- What the Rules Derive
------------------------------------------------------------

namespace DeclaredApi

namespace Grammar

/- Words that follow dots. -/
def SegmentLexemes (lexemes : List Lexeme) : Prop :=
  ∃ words,
    (∀ w ∈ words, Name.isWord w.toList = true) ∧
      lexemes = Phrase.dottedLexemes words

/- Bracket pairs. -/
def BracketLexemes (lexemes : List Lexeme) : Prop :=
  ∃ dimensions, lexemes = Phrase.bracketLexemes dimensions

/- A phrase of a kind. -/
def PhraseLexemes
    (kind : Phrase → Prop)
    (lexemes : List Lexeme) : Prop :=
  ∃ p, p.Grammatical ∧ kind p ∧ lexemes = p.lexemes

/- Phrases of a kind with marks between them. -/
def ListLexemes
    (kind : Phrase → Prop)
    (mark : Symbol)
    (lexemes : List Lexeme) : Prop :=
  ∃ p ps,
    (∀ q ∈ p :: ps, q.Grammatical ∧ kind q) ∧
      lexemes = p.lexemes ++ Phrase.lexemesAfter mark ps

/- The argument list that a name may have, or none. -/
def ArgumentLexemes
    (name : String)
    (lexemes : List Lexeme) : Prop :=
  ∃ as,
    (Name.isPrimitive name = true → as = []) ∧
      Phrase.AllGrammatical as ∧
      lexemes = Phrase.argumentLexemes as

/- One phrase is a list. -/
theorem PhraseLexemes.toList
    {kind : Phrase → Prop}
    {lexemes : List Lexeme}
    (mark : Symbol)
    (hPhrase : PhraseLexemes kind lexemes) :
    ListLexemes kind mark lexemes := by
  rcases hPhrase with ⟨p, hGrammatical, hKind, rfl⟩
  refine ⟨p, [], ?_, ?_⟩
  · simpa using ⟨hGrammatical, hKind⟩
  · rw [Phrase.lexemesAfter, List.append_nil]

end Grammar

end DeclaredApi

------------------------------------------------------------
-- Levels of What Is Read
------------------------------------------------------------

namespace DeclaredApi

namespace Grammar

variable {g : Grammar}
variable {depth : Nat}
variable {tokens rest : List Token}

/- Lexemes that are no marks of argument lists open none. -/
theorem keepsLevel_of_ne
    {lexemes : List Lexeme}
    (hOther :
      ∀ lexeme ∈ lexemes,
        lexeme ≠ .symbol .less ∧ lexeme ≠ .symbol .greater) :
    KeepsLevel depth lexemes :=
  fun level => Lexeme.levelWithin_of_ne _ level hOther

/- A phrase within the limit keeps the level. -/
theorem keepsLevel_lexemes
    {p : Phrase}
    (hNesting : p.nesting ≤ depth) :
    KeepsLevel depth p.lexemes :=
  fun level =>
    Phrase.levelWithin_lexemes
      (Nat.add_le_add_left hNesting level)

/- What keeps the level can be followed by more that does. -/
theorem KeepsLevel.append
    {first second : List Lexeme}
    (hFirst : KeepsLevel depth first)
    (hSecond : KeepsLevel depth second) :
    KeepsLevel depth (first ++ second) := by
  intro level
  rw [Lexeme.levelWithin_append second (hFirst level)]
  exact hSecond level

/- So does a list of phrases that was read. -/
theorem ReadsAll.keepsLevel
    {kind : Phrase → Prop}
    {mark : Symbol}
    {references : List TypeRef}
    {p : Phrase}
    {ps : List Phrase}
    (hMark : mark ≠ .less ∧ mark ≠ .greater)
    (hAll :
      g.ReadsAll depth kind mark tokens rest references
        p ps) :
    KeepsLevel depth
      (p.lexemes ++ Phrase.lexemesAfter mark ps) := by
  apply KeepsLevel.append
  · exact keepsLevel_lexemes
      (hAll.nesting_le p List.mem_cons_self)
  · intro level
    apply Phrase.levelWithin_lexemesAfter hMark
    intro q hq
    exact keepsLevel_lexemes
      (hAll.nesting_le q (List.mem_cons_of_mem p hq)) level

/- So does an argument list that was read, or none. -/
theorem keepsLevel_argumentLexemes
    {word : String}
    {words : List String}
    {as : List Phrase}
    {dimensions : Nat}
    (hNesting :
      (Phrase.named word words as dimensions).nesting ≤
        depth) :
    KeepsLevel depth (Phrase.argumentLexemes as) := by
  intro level
  cases as with
  | nil => rfl
  | cons a as =>
      rw [Phrase.nesting] at hNesting
      apply Phrase.levelWithin_argumentLexemes (by omega)
      intro q hq
      have hLe :=
        (Phrase.nestingAll_le_iff (a :: as) _).mp
          (Nat.le_refl _) q hq
      exact Phrase.levelWithin_lexemes (by omega)

end Grammar

end DeclaredApi

------------------------------------------------------------
-- Words and Brackets
------------------------------------------------------------

namespace DeclaredApi

namespace Grammar

variable {g : Grammar}
variable {depth : Nat}

/- The next lexeme of tokens that do not start with it. -/
theorem nextLexeme_ne_of
    {lexeme : Lexeme}
    {tokens : List Token}
    (hNone :
      ∀ p rest, tokens = ⟨lexeme, p⟩ :: rest → False) :
    nextLexeme tokens ≠ some lexeme := by
  intro hNext
  cases tokens with
  | nil => cases hNext
  | cons t rest =>
      rcases t with ⟨first, p⟩
      cases hNext
      exact hNone p rest rfl

/- Tokens start with their next lexeme. -/
theorem exists_cons_of_nextLexeme
    {lexeme : Lexeme}
    {tokens : List Token}
    (hNext : nextLexeme tokens = some lexeme) :
    ∃ position rest, tokens = ⟨lexeme, position⟩ :: rest := by
  cases tokens with
  | nil => cases hNext
  | cons t rest =>
      cases hNext
      exact ⟨t.position, rest, rfl⟩

/- What is consumed is what stands in front of the rest. -/
theorem Consumes.map_eq
    {lexemes : List Lexeme}
    {used rest : List Token}
    (hConsumes : Consumes lexemes (used ++ rest) rest) :
    used.map Token.lexeme = lexemes := by
  rcases hConsumes with ⟨front, rfl, hFront⟩
  rw [List.append_cancel_right hFront]

/- The tokens do not start with a word. -/
def NoWord (tokens : List Token) : Prop :=
  ∀ w, nextLexeme tokens ≠ some (.word w)

theorem exists_word_of_not_noWord
    {tokens : List Token}
    (hWord : ¬ NoWord tokens) :
    ∃ w, nextLexeme tokens = some (.word w) := by
  simpa [NoWord] using hWord

theorem NoWord.congr
    {tokens more : List Token}
    (hNone : NoWord tokens)
    (hNext : nextLexeme more = nextLexeme tokens) :
    NoWord more := by
  intro w
  rw [hNext]
  exact hNone w

/- A dot is followed by a word. -/
theorem readSegments_of_noWord
    {rest : List Token}
    (position : Nat)
    (hNone : NoWord rest) :
    g.readSegments (⟨.symbol .dot, position⟩ :: rest) =
      g.refuse .emptySegment rest := by
  rw [readSegments]
  rintro w q others rfl
  exact hNone w rfl

/- Words after dots settle what follows a name. -/
theorem readSegments_settles
    {tokens : List Token}
    (hWorded : Worded tokens) :
    g.Settles depth (Begins SegmentLexemes)
      (fun _ => g.readSegments) tokens
      (g.readSegments tokens) := by
  fun_induction readSegments g tokens with
  | case1 p w q others ih =>
      have hOthers : Worded others :=
        hWorded.mono ⟨[⟨.symbol .dot, p⟩, ⟨.word w, q⟩], rfl⟩
      have hWord : Name.isWord w.toList = true :=
        hWorded ⟨.word w, q⟩ (by simp) w rfl
      refine Settles.after
        [⟨.symbol .dot, p⟩, ⟨.word w, q⟩]
        (fun _ more _ => by
          rw [List.cons_append, List.cons_append,
            List.nil_append, readSegments])
        (keepsLevel_of_ne (by simp))
        (((ih hOthers).map (w :: ·)).mono
          (Begins.inside _ ?_))
      rintro _ ⟨words, hWords, rfl⟩
      exact Begins.of
        ⟨w :: words, List.forall_mem_cons.mpr ⟨hWord, hWords⟩,
          rfl⟩
  | case2 p others hNone =>
      have hNoWord : NoWord others :=
        fun w => nextLexeme_ne_of (hNone w)
      refine Settles.refuse [⟨.symbol .dot, p⟩] rfl
        ⟨[.word "a"], ["a"], by decide, rfl⟩ ?_
      intro _ more hMore
      exact ⟨_,
        readSegments_of_noWord p (hNoWord.congr hMore)⟩
  | case3 tokens hDotWord hDot =>
      apply Settles.stay
      intro _ more hMore
      apply readSegments_of_ne_dot
      rw [hMore]
      exact nextLexeme_ne_of hDot

/- An opening bracket is followed by the closing one. -/
theorem readDimensions_of_ne
    {rest : List Token}
    (position : Nat)
    (hNone :
      nextLexeme rest ≠ some (.symbol .closeBracket)) :
    g.readDimensions
        (⟨.symbol .openBracket, position⟩ :: rest) =
      g.refuse .unclosedBracket rest := by
  rw [readDimensions]
  rintro q others rfl
  exact hNone rfl

/- Bracket pairs settle what follows a name. -/
theorem readDimensions_settles
    (tokens : List Token) :
    g.Settles depth (Begins BracketLexemes)
      (fun _ => g.readDimensions) tokens
      (g.readDimensions tokens) := by
  fun_induction readDimensions g tokens with
  | case1 p q others ih =>
      refine Settles.after
        [⟨.symbol .openBracket, p⟩,
          ⟨.symbol .closeBracket, q⟩]
        (fun _ more _ => by
          rw [List.cons_append, List.cons_append,
            List.nil_append, readDimensions])
        (keepsLevel_of_ne (by simp))
        ((ih.map (· + 1)).mono (Begins.inside _ ?_))
      rintro _ ⟨dimensions, rfl⟩
      exact Begins.of ⟨dimensions + 1, rfl⟩
  | case2 p others hNone =>
      have hNoBracket := nextLexeme_ne_of hNone
      refine Settles.refuse [⟨.symbol .openBracket, p⟩] rfl
        ⟨[.symbol .closeBracket], 1, rfl⟩ ?_
      intro _ more hMore
      exact ⟨_,
        readDimensions_of_ne p (hMore ▸ hNoBracket)⟩
  | case3 tokens hPair hOpen =>
      apply Settles.stay
      intro _ more hMore
      apply readDimensions_of_ne_bracket
      rw [hMore]
      exact nextLexeme_ne_of hOpen

end Grammar

end DeclaredApi

------------------------------------------------------------
-- Lists of Types
------------------------------------------------------------

namespace DeclaredApi

namespace Grammar

variable {g : Grammar}
variable {depth : Nat}

/- What a list fails with is what its first item does. -/
theorem readSeparated_of_error
    {mark : Symbol}
    {item : Reader TypeRef}
    {tokens : List Token}
    {fault : ParseFault}
    (fuel : Nat)
    (hItem : item tokens = .error fault) :
    readSeparated mark item fuel tokens = .error fault := by
  cases fuel with
  | zero =>
      rw [readSeparated, hItem]
      rfl
  | succ fuel =>
      rw [readSeparated, hItem]
      rfl

/- A list goes on after a mark. -/
theorem readSeparated_next
    {mark : Symbol}
    {item : Reader TypeRef}
    {tokens others : List Token}
    {reference : TypeRef}
    {position : Nat}
    (fuel : Nat)
    (hItem :
      item tokens =
        .ok (reference, ⟨.symbol mark, position⟩ :: others)) :
    readSeparated mark item (fuel + 1) tokens =
      readSeparated mark item fuel others >>= fun taken =>
        pure (reference :: taken.1, taken.2) := by
  rw [readSeparated, hItem]
  simp only [bind, Except.bind, if_pos]

variable {kind : Phrase → Prop}
variable {mark : Symbol}
variable {item : Reader TypeRef}
variable {other : Nat → Reader TypeRef}

/-
  After an item and a mark, a list settles if the rest of it
  does.  Fuel is counted from the tokens that are left.
-/
theorem readSeparated_settles_next
    {first : TypeRef}
    {p : Phrase}
    {used others : List Token}
    {position fuel spare : Nat}
    (hMark : mark ≠ .less ∧ mark ≠ .greater)
    (hKind : kind p)
    (hReads :
      g.Reads depth
        (used ++ ⟨.symbol mark, position⟩ :: others)
        (⟨.symbol mark, position⟩ :: others) first p)
    (hFirst :
      item (used ++ ⟨.symbol mark, position⟩ :: others) =
        .ok (first, ⟨.symbol mark, position⟩ :: others))
    (hReturns :
      ∀ extra more,
        nextLexeme more = some (.symbol mark) →
          other extra (used ++ more) = .ok (first, more))
    (hRest :
      g.Settles depth (Begins (ListLexemes kind mark))
        (fun extra more =>
          readSeparated mark (other extra)
            (more.length + (used.length + spare)) more)
        others (readSeparated mark item fuel others)) :
    g.Settles depth (Begins (ListLexemes kind mark))
      (fun extra more =>
        readSeparated mark (other extra) (more.length + spare)
          more)
      (used ++ ⟨.symbol mark, position⟩ :: others)
      (readSeparated mark item (fuel + 1)
        (used ++ ⟨.symbol mark, position⟩ :: others)) := by
  have hFront :
      List.map Token.lexeme
          (used ++ [⟨.symbol mark, position⟩]) =
        p.lexemes ++ [.symbol mark] := by
    rw [List.map_append, hReads.consumes.map_eq]
    rfl
  rw [readSeparated_next fuel hFirst, List.append_cons]
  refine Settles.after _ (fun extra more _ => ?_) ?_
    ((hRest.map (first :: ·)).mono (Begins.inside _ ?_))
  · have hLength :
        (used ++ ⟨.symbol mark, position⟩ :: more).length +
            spare =
          more.length + (used.length + spare) + 1 := by
      rw [List.length_append, List.length_cons]
      omega
    rw [← List.append_cons, hLength,
      readSeparated_next _ (hReturns extra _ rfl)]
  · rw [hFront]
    apply KeepsLevel.append
    · exact keepsLevel_lexemes hReads.nesting_le
    · exact keepsLevel_of_ne (by simpa using hMark)
  · rw [hFront]
    rintro _ ⟨q, qs, hAll, rfl⟩
    apply Begins.of
    refine ⟨p, q :: qs, ?_, ?_⟩
    · exact List.forall_mem_cons.mpr
        ⟨⟨hReads.grammatical, hKind⟩, hAll⟩
    · rw [Phrase.lexemesAfter, List.append_assoc]
      rfl

/-
  A list settles if each item does.  The induction is on the
  fuel, of which there is enough for the tokens on each side.
-/
theorem readSeparated_settles
    {fuel : Nat}
    {tokens : List Token}
    (mark : Symbol)
    (spare : Nat)
    (hMark : mark ≠ .less ∧ mark ≠ .greater)
    (hItem :
      ∀ tokens,
        Worded tokens →
          g.Settles depth (Begins (PhraseLexemes kind)) other
            tokens (item tokens))
    (hSound : g.Sound depth kind item)
    (hWorded : Worded tokens)
    (hFuel : tokens.length ≤ fuel) :
    g.Settles depth (Begins (ListLexemes kind mark))
      (fun extra more =>
        readSeparated mark (other extra) (more.length + spare)
          more)
      tokens (readSeparated mark item fuel tokens) := by
  induction fuel using Nat.strongRecOn
    generalizing tokens spare with
  | ind fuel ih =>
      have hFirst := hItem tokens hWorded
      cases hResult : item tokens with
      | error fault =>
          rw [hResult] at hFirst
          rw [readSeparated_of_error fuel hResult]
          have hPhrase := hFirst.mono
            (Begins.inside [] fun part hPart =>
              Begins.of (hPart.toList mark))
          exact Fails.lift
            (fun _ more e hError =>
              ⟨e, readSeparated_of_error _ hError⟩) hPhrase
      | ok taken =>
          rcases taken with ⟨first, left⟩
          rw [hResult] at hFirst
          rcases hFirst with ⟨used, hTokens, hReturns⟩
          dsimp only at hTokens hReturns
          subst hTokens
          by_cases hNext : nextLexeme left = some (.symbol mark)
          · rcases exists_cons_of_nextLexeme hNext with
              ⟨position, others, rfl⟩
            rcases hSound _ _ _ hWorded hResult with
              ⟨p, hReads, hKind⟩
            rw [List.length_append, List.length_cons] at hFuel
            obtain ⟨fewer, rfl⟩ : ∃ fewer, fuel = fewer + 1 :=
              ⟨fuel - 1, by omega⟩
            apply readSeparated_settles_next hMark hKind hReads
              hResult hReturns
            apply ih fewer (Nat.lt_succ_self fewer)
            · exact hWorded.mono
                ⟨used ++ [⟨.symbol mark, position⟩], by simp⟩
            · omega
          · -- the list ends, and ends with the same lexeme next
            rw [readSeparated_last hResult hNext]
            refine ⟨used, rfl, fun extra more hMore => ?_⟩
            exact readSeparated_last (hReturns extra more hMore)
              (by rwa [hMore])

end Grammar

end DeclaredApi

------------------------------------------------------------
-- Argument Lists
------------------------------------------------------------

namespace DeclaredApi

namespace Grammar

variable {g : Grammar}
variable {depth : Nat}
variable {name : String}

/- What closes an argument list. -/
def closeList
    (g : Grammar)
    (taken : List TypeRef × List Token) :
    Except ParseFault (List TypeRef × List Token) :=
  match taken.2 with
  | [] => g.refuse .unclosedArguments []
  | ⟨.symbol .greater, _⟩ :: rest => pure (taken.1, rest)
  | token :: rest =>
      g.refuse (.unexpected token.lexeme) (token :: rest)

/- No other token closes an argument list. -/
theorem exists_closeList_eq_refuse
    {tokens : List Token}
    (arguments : List TypeRef)
    (hNext : nextLexeme tokens ≠ some (.symbol .greater)) :
    ∃ reason,
      g.closeList (arguments, tokens) =
          g.refuse reason tokens ∧
        reason.isTooDeep = false := by
  unfold closeList
  dsimp only
  split
  · exact ⟨_, rfl, rfl⟩
  · exact absurd rfl hNext
  · exact ⟨_, rfl, rfl⟩

/- An argument list is opened, read and closed. -/
theorem readArguments_open
    {item : Reader TypeRef}
    {tokens : List Token}
    (position : Nat)
    (hPrimitive : Name.isPrimitive name = false)
    (hNext : nextLexeme tokens ≠ some (.symbol .greater)) :
    g.readArguments (some item) name
        (⟨.symbol .less, position⟩ :: tokens) =
      readSeparated .comma item tokens.length tokens >>=
        g.closeList := by
  rw [readArguments, hPrimitive]
  · simp only [Bool.false_eq_true, if_false]
    rfl
  · rintro q others rfl
    exact hNext rfl

/- A primitive name has no argument list. -/
theorem readArguments_of_primitive
    (inner : Option (Reader TypeRef))
    (position : Nat)
    (tokens : List Token)
    (hPrimitive : Name.isPrimitive name = true) :
    g.readArguments inner name
        (⟨.symbol .less, position⟩ :: tokens) =
      g.refuse (.primitiveArguments name)
        (⟨.symbol .less, position⟩ :: tokens) := by
  unfold readArguments
  rw [hPrimitive]
  rfl

/- An argument list has an argument. -/
theorem readArguments_of_greater
    (inner : Option (Reader TypeRef))
    (position last : Nat)
    (rest : List Token)
    (hPrimitive : Name.isPrimitive name = false) :
    g.readArguments inner name
        (⟨.symbol .less, position⟩ ::
          ⟨.symbol .greater, last⟩ :: rest) =
      g.refuse .emptyArguments
        (⟨.symbol .greater, last⟩ :: rest) := by
  unfold readArguments
  rw [hPrimitive]
  rfl

/- Where no level is left, no argument list is opened. -/
theorem readArguments_of_none
    {tokens : List Token}
    (position : Nat)
    (hPrimitive : Name.isPrimitive name = false)
    (hNext : nextLexeme tokens ≠ some (.symbol .greater)) :
    g.readArguments none name
        (⟨.symbol .less, position⟩ :: tokens) =
      .error ⟨position, .tooDeep g.limit⟩ := by
  rw [readArguments, hPrimitive]
  · rfl
  · rintro q others rfl
    exact hNext rfl

/- An argument list is closed or refused where it ends. -/
theorem closeList_settles
    {viable : List Lexeme → Prop}
    (arguments : List TypeRef)
    (tokens : List Token)
    (hViable : viable []) :
    g.Settles depth viable
      (fun _ more => g.closeList (arguments, more)) tokens
      (g.closeList (arguments, tokens)) := by
  by_cases hNext : nextLexeme tokens = some (.symbol .greater)
  · rcases exists_cons_of_nextLexeme hNext with
      ⟨position, rest, rfl⟩
    exact ⟨[⟨.symbol .greater, position⟩], rfl,
      fun _ more _ => rfl⟩
  · rcases exists_closeList_eq_refuse arguments hNext with
      ⟨reason, hRefuse, hReason⟩
    rw [hRefuse]
    refine Settles.refuse [] hReason hViable ?_
    intro _ more hMore
    rw [← hMore] at hNext
    rcases exists_closeList_eq_refuse arguments hNext with
      ⟨other, hOther, _⟩
    exact ⟨_, hOther⟩

/- Arguments behind the opening mark begin a list. -/
theorem begins_arguments
    (hPrimitive : Name.isPrimitive name = false)
    {lexemes : List Lexeme}
    (hBegins :
      Begins (ListLexemes (fun _ => True) .comma) lexemes) :
    Begins (ArgumentLexemes name)
      (.symbol .less :: lexemes) := by
  rcases hBegins with ⟨more, a, as, hAll, hLexemes⟩
  refine ⟨more ++ [.symbol .greater], a :: as, ?_, ?_, ?_⟩
  · intro hName
    rw [hPrimitive] at hName
    cases hName
  · exact (Phrase.allGrammatical_iff _).mpr
      fun q hq => (hAll q hq).1
  · rw [Phrase.argumentLexemes, ← List.append_assoc,
      ← List.append_assoc, ← hLexemes]
    simp

/-
  The types inside others settle: reading arguments leaves
  one level less to them, here and with more levels.
-/
def SettlesInside
    (g : Grammar)
    (depth : Nat) : Prop :=
  ∀ inner,
    depth = inner + 1 →
      ∀ tokens,
        Worded tokens →
          g.Settles inner
            (Begins (PhraseLexemes fun _ => True))
            (fun extra => g.typeReader (inner + extra)) tokens
            (g.typeReader inner tokens)

/- An opened argument list settles if its arguments do. -/
theorem readArguments_settles_open
    {inner : Nat}
    {position : Nat}
    {rest : List Token}
    (hPrimitive : Name.isPrimitive name = false)
    (hNext : nextLexeme rest ≠ some (.symbol .greater))
    (hWorded : Worded rest)
    (hInside : g.SettlesInside (inner + 1)) :
    g.Settles (inner + 1) (Begins (ArgumentLexemes name))
      (fun extra =>
        g.readArguments (some (g.typeReader (inner + extra)))
          name)
      (⟨.symbol .less, position⟩ :: rest)
      (g.readArguments (some (g.typeReader inner)) name
        (⟨.symbol .less, position⟩ :: rest)) := by
  have hSound := typeReader_ok (g := g) inner
  have hList :=
    readSeparated_settles .comma 0 (by decide)
      (hInside inner rfl) hSound hWorded (Nat.le_refl _)
  rw [readArguments_open position hPrimitive hNext]
  refine Settles.prepend [⟨.symbol .less, position⟩]
    (fun _ more hMore =>
      readArguments_open position hPrimitive (hMore ▸ hNext))
    ?_ (Settles.bind (hList.mono ?_) ?_)
  · intro level
    refine ⟨level + 1, ?_, by omega⟩
    exact if_pos (by omega)
  · exact fun lexemes => begins_arguments hPrimitive
  · intro arguments left hRead
    rcases readSeparated_ok hSound hWorded hRead with
      ⟨a, as, hAll⟩
    refine ⟨_, hAll.consumes,
      hAll.keepsLevel (by decide), ?_⟩
    · apply closeList_settles
      rw [List.append_nil]
      apply begins_arguments hPrimitive
      exact Begins.of ⟨a, as,
        fun q hq => ⟨hAll.grammatical q hq, trivial⟩, rfl⟩

/-
  An argument list settles if its arguments do, one level
  further in.
-/
theorem readArguments_settles
    {tokens : List Token}
    (hInside : g.SettlesInside depth)
    (hWorded : Worded tokens) :
    g.Settles depth (Begins (ArgumentLexemes name))
      (fun extra =>
        g.readArguments (g.argumentReader (depth + extra)) name)
      tokens
      (g.readArguments (g.argumentReader depth) name
        tokens) := by
  have hNone : Begins (ArgumentLexemes name) [] :=
    Begins.of ⟨[], fun _ => rfl, trivial, rfl⟩
  by_cases hLess : nextLexeme tokens = some (.symbol .less)
  · rcases exists_cons_of_nextLexeme hLess with
      ⟨position, rest, rfl⟩
    cases hPrimitive : Name.isPrimitive name with
    | true =>
        rw [readArguments_of_primitive _ _ _ hPrimitive]
        refine Settles.refuse [] rfl hNone ?_
        intro _ more hMore
        rcases exists_cons_of_nextLexeme hMore with
          ⟨other, others, rfl⟩
        exact ⟨_, readArguments_of_primitive _ _ _ hPrimitive⟩
    | false =>
        by_cases hNext :
            nextLexeme rest = some (.symbol .greater)
        · rcases exists_cons_of_nextLexeme hNext with
            ⟨last, others, rfl⟩
          rw [readArguments_of_greater _ _ _ _ hPrimitive]
          refine Settles.refuse [⟨.symbol .less, position⟩] rfl
            ?_ ?_
          · apply begins_arguments hPrimitive
            exact ⟨[.symbol .question], .bare, [],
              by simp [Phrase.Grammatical],
              by simp [Phrase.lexemes, Phrase.lexemesAfter]⟩
          · intro _ more hMore
            rcases exists_cons_of_nextLexeme hMore with
              ⟨other, others, rfl⟩
            exact ⟨_,
              readArguments_of_greater _ _ _ _ hPrimitive⟩
        · have hRest : Worded rest :=
            hWorded.mono (List.suffix_cons _ rest)
          cases depth with
          | zero =>
              rw [argumentReader,
                readArguments_of_none position hPrimitive hNext]
              refine ⟨fun _ level => ?_, fun hOther => ?_⟩
              · rw [Token.firstTooDeep, if_neg (by omega)]
              · cases hOther
          | succ inner =>
              simp only [Nat.add_right_comm inner 1]
              exact readArguments_settles_open hPrimitive hNext
                hRest hInside
  · rw [readArguments_of_ne_less hLess]
    apply Settles.stay
    intro _ more hMore
    exact readArguments_of_ne_less (hMore ▸ hLess)

end Grammar

end DeclaredApi

------------------------------------------------------------
-- Named Types
------------------------------------------------------------

namespace DeclaredApi

namespace Grammar

variable {g : Grammar}
variable {depth : Nat}
variable {tokens : List Token}

/- What follows the words of a named type. -/
def readSuffix
    (g : Grammar)
    (inner : Option (Reader TypeRef))
    (name : String) : Reader TypeRef :=
  fun tokens =>
    g.readArguments inner name tokens >>= fun listed =>
      g.readDimensions listed.2 >>= fun counted =>
        pure (.simple name counted.1 listed.1, counted.2)

/- A named type is its words and what follows them. -/
theorem readNamed_word
    (inner : Option (Reader TypeRef))
    (w : String)
    (position : Nat)
    (rest : List Token) :
    g.readNamed inner (⟨.word w, position⟩ :: rest) =
      g.readSegments rest >>= fun taken =>
        g.readSuffix inner (Phrase.dotted w taken.1) taken.2 :=
  rfl

/- A named type starts with a word. -/
theorem readNamed_of_noWord
    (inner : Option (Reader TypeRef))
    (hNone : NoWord tokens) :
    g.readNamed inner tokens =
      g.refuse .expectedTypeName tokens := by
  unfold readNamed
  split
  · next w position rest => exact absurd rfl (hNone w)
  · rfl

/- A named phrase is made of its parts. -/
theorem phraseLexemes_named
    {word : String}
    (words : List String)
    {as : List Phrase}
    (dimensions : Nat)
    (hWords :
      ∀ w ∈ word :: words, Name.isWord w.toList = true)
    (hPrimitive :
      Name.isPrimitive (Phrase.dotted word words) = true →
        as = [])
    (hAll : Phrase.AllGrammatical as) :
    PhraseLexemes (fun p => p.isNamed = true)
      ([.word word] ++
        (Phrase.dottedLexemes words ++
          (Phrase.argumentLexemes as ++
            Phrase.bracketLexemes dimensions))) :=
  ⟨.named word words as dimensions, ⟨hWords, hPrimitive, hAll⟩,
    rfl, by rw [Phrase.lexemes]; rfl⟩

/- Any name begins with nothing. -/
theorem begins_named :
    Begins (PhraseLexemes fun p => p.isNamed = true) [] :=
  ⟨[.word "a"],
    phraseLexemes_named [] 0 (by decide) (fun _ => rfl) trivial⟩

/- The arguments and brackets settle what follows the words. -/
theorem readSuffix_settles
    {word : String}
    {words : List String}
    (hInside : g.SettlesInside depth)
    (hWords :
      ∀ w ∈ word :: words, Name.isWord w.toList = true)
    (hWorded : Worded tokens) :
    g.Settles depth
      (fun lexemes =>
        Begins (PhraseLexemes fun p => p.isNamed = true)
          ([.word word] ++
            (Phrase.dottedLexemes words ++ lexemes)))
      (fun extra =>
        g.readSuffix (g.argumentReader (depth + extra))
          (Phrase.dotted word words))
      tokens
      (g.readSuffix (g.argumentReader depth)
        (Phrase.dotted word words) tokens) := by
  refine Settles.bind
    ((readArguments_settles hInside hWorded).mono ?_) ?_
  · rintro lexemes ⟨rest, as, hPrimitive, hAll, hLexemes⟩
    have hPhrase := phraseLexemes_named words 0 hWords hPrimitive hAll
    rw [← hLexemes] at hPhrase
    exact ⟨rest, by simpa [Phrase.bracketLexemes] using hPhrase⟩
  · intro arguments left hRead
    rcases readArguments_ok (fun inner _ => typeReader_ok inner)
        hWorded hRead with
      ⟨as, hConsumes, _, hPrimitive, hAll, hNesting⟩
    refine ⟨_, hConsumes,
      keepsLevel_argumentLexemes (hNesting [] 0), ?_⟩
    refine ((readDimensions_settles left).map
      (fun count => TypeRef.simple
        (Phrase.dotted word words) count arguments)).mono ?_
    rintro lexemes ⟨rest, dimensions, hLexemes⟩
    have hPhrase :=
      phraseLexemes_named words dimensions hWords hPrimitive
        hAll
    rw [← hLexemes] at hPhrase
    exact ⟨rest, by simpa using hPhrase⟩

/- A named type settles with what it begins. -/
theorem readNamed_settles
    (hInside : g.SettlesInside depth)
    (hWorded : Worded tokens) :
    g.Settles depth
      (Begins (PhraseLexemes fun p => p.isNamed = true))
      (fun extra => g.readNamed (g.argumentReader (depth + extra)))
      tokens
      (g.readNamed (g.argumentReader depth) tokens) := by
  by_cases hNone : NoWord tokens
  · rw [readNamed_of_noWord _ hNone]
    refine Settles.refuse [] rfl ?_ ?_
    · exact begins_named
    · intro _ more hMore
      exact ⟨_, readNamed_of_noWord _ (hNone.congr hMore)⟩
  · obtain ⟨w, hNext⟩ := exists_word_of_not_noWord hNone
    rcases exists_cons_of_nextLexeme hNext with
      ⟨position, rest, rfl⟩
    have hWord : Name.isWord w.toList = true :=
      hWorded _ List.mem_cons_self w rfl
    have hRest : Worded rest :=
      hWorded.mono (List.suffix_cons _ rest)
    rw [readNamed_word]
    refine Settles.after [⟨.word w, position⟩]
      (fun _ more _ => readNamed_word _ w position more)
      (keepsLevel_of_ne (by simp))
      (Settles.bind
        ((readSegments_settles hRest).mono ?_) ?_)
    · rintro lexemes ⟨left, words, hWords, hLexemes⟩
      have hPhrase :=
        phraseLexemes_named words 0
          (List.forall_mem_cons.mpr ⟨hWord, hWords⟩)
          (fun _ => rfl) trivial
      rw [← hLexemes] at hPhrase
      exact ⟨left, by
        simpa [Phrase.bracketLexemes, Phrase.argumentLexemes]
          using hPhrase⟩
    · intro words left hRead
      have hConsumes := readSegments_ok hRead
      refine ⟨_, hConsumes, ?_, ?_⟩
      · exact fun level =>
          Phrase.levelWithin_dottedLexemes _ level words
      · apply readSuffix_settles hInside
        · exact List.forall_mem_cons.mpr
            ⟨hWord, isWord_of_readSegments hRest hRead⟩
        · exact hRest.mono hConsumes.isSuffix

end Grammar

end DeclaredApi

------------------------------------------------------------
-- Bounds and Wildcards
------------------------------------------------------------

namespace DeclaredApi

namespace Grammar

variable {g : Grammar}
variable {depth : Nat}
variable {tokens : List Token}
variable {inner : Option (Reader TypeRef)}
variable {outer : Nat → Option (Reader TypeRef)}

/- A bound starts with a word. -/
theorem exists_readBound_eq_refuse
    (inner : Option (Reader TypeRef))
    (hNone : NoWord tokens) :
    ∃ reason,
      g.readBound inner tokens = g.refuse reason tokens ∧
        reason.isTooDeep = false := by
  unfold readBound
  split
  · exact ⟨_, rfl, rfl⟩
  · next w position rest => exact absurd rfl (hNone w)
  · exact ⟨_, rfl, rfl⟩

/- A bound with a word is a named type. -/
theorem readBound_of_word
    {w : String}
    (inner : Option (Reader TypeRef))
    (hNext : nextLexeme tokens = some (.word w)) :
    g.readBound inner tokens = g.readNamed inner tokens := by
  rcases exists_cons_of_nextLexeme hNext with
    ⟨position, rest, rfl⟩
  rfl

/- A bound settles as the named type that it is. -/
theorem readBound_settles
    (hNamed :
      g.Settles depth
        (Begins (PhraseLexemes fun p => p.isNamed = true))
        (fun extra => g.readNamed (outer extra)) tokens
        (g.readNamed inner tokens)) :
    g.Settles depth
      (Begins (PhraseLexemes fun p => p.isNamed = true))
      (fun extra => g.readBound (outer extra)) tokens
      (g.readBound inner tokens) := by
  by_cases hNone : NoWord tokens
  · rcases exists_readBound_eq_refuse inner hNone with
      ⟨reason, hRefuse, hReason⟩
    rw [hRefuse]
    refine Settles.refuse [] hReason ?_ ?_
    · exact begins_named
    · intro extra more hMore
      rcases exists_readBound_eq_refuse (outer extra)
          (hNone.congr hMore) with
        ⟨other, hOther, _⟩
      exact ⟨_, hOther⟩
  · obtain ⟨w, hNext⟩ := exists_word_of_not_noWord hNone
    rw [readBound_of_word inner hNext]
    refine Settles.after [] (fun extra more hMore => ?_)
      (fun level => rfl) hNamed
    exact readBound_of_word (outer extra) (hMore.trans hNext)

/- What closes a wildcard, which has no brackets. -/
def closeWildcard
    (taken : TypeRef × List Token) :
    Except ParseFault (TypeRef × List Token) :=
  match taken.2 with
  | ⟨.symbol .openBracket, p⟩ :: _ =>
      .error ⟨p, .wildcardArray⟩
  | rest => pure (taken.1, rest)

/- Without a word, a wildcard is bare. -/
theorem readWildcard_of_noWord
    (inner : Option (Reader TypeRef))
    (hNone : NoWord tokens) :
    g.readWildcard inner tokens =
      closeWildcard (.unbounded g.root, tokens) := by
  unfold readWildcard
  split
  · next w position rest => exact absurd rfl (hNone w)
  · rfl

/- A keyword is followed by bounds. -/
theorem readWildcard_of_keyword
    {w : String}
    {relation : BoundRelation}
    {position : Nat}
    {rest : List Token}
    (inner : Option (Reader TypeRef))
    (hWord : BoundRelation.ofWord? w = some relation) :
    g.readWildcard inner (⟨.word w, position⟩ :: rest) =
      readSeparated .ampersand (g.readBound inner) rest.length
          rest >>= fun taken =>
        closeWildcard (.wildcard relation taken.1, taken.2)
      := by
  rw [readWildcard, hWord]
  simp only [pure_bind]
  rfl

/- Any other word is no keyword. -/
theorem readWildcard_of_ofWord?_eq_none
    {w : String}
    {position : Nat}
    {rest : List Token}
    (inner : Option (Reader TypeRef))
    (hWord : BoundRelation.ofWord? w = none) :
    g.readWildcard inner (⟨.word w, position⟩ :: rest) =
      g.refuse (.unknownKeyword w)
        (⟨.word w, position⟩ :: rest) := by
  rw [readWildcard, hWord]
  rfl

theorem closeWildcard_of_ne
    {reference : TypeRef}
    (hNext :
      nextLexeme tokens ≠ some (.symbol .openBracket)) :
    closeWildcard (reference, tokens) =
      .ok (reference, tokens) := by
  unfold closeWildcard
  dsimp only
  split
  · exact absurd rfl hNext
  · rfl

/- A wildcard is closed unless a bracket is next. -/
theorem closeWildcard_settles
    {viable : List Lexeme → Prop}
    (reference : TypeRef)
    (tokens : List Token)
    (hViable : viable []) :
    g.Settles depth viable
      (fun _ more => closeWildcard (reference, more)) tokens
      (closeWildcard (reference, tokens)) := by
  by_cases hNext :
      nextLexeme tokens = some (.symbol .openBracket)
  · rcases exists_cons_of_nextLexeme hNext with
      ⟨position, rest, rfl⟩
    change g.Settles depth viable _ _
      (g.refuse .wildcardArray
        (⟨.symbol .openBracket, position⟩ :: rest))
    refine Settles.refuse [] rfl hViable ?_
    intro _ more hMore
    rcases exists_cons_of_nextLexeme hMore with
      ⟨other, others, rfl⟩
    exact ⟨_, rfl⟩
  · rw [closeWildcard_of_ne hNext]
    apply Settles.stay
    intro _ more hMore
    exact closeWildcard_of_ne (hMore ▸ hNext)

/- Bounds behind a keyword begin a wildcard. -/
theorem begins_bounded
    (relation : BoundRelation)
    {lexemes : List Lexeme}
    (hBegins :
      Begins
        (ListLexemes (fun p => p.isNamed = true) .ampersand)
        lexemes) :
    Begins (PhraseLexemes fun _ => True)
      ([.symbol .question] ++
        ([.word relation.word] ++ lexemes)) := by
  rcases hBegins with ⟨more, b, bs, hAll, hLexemes⟩
  refine ⟨more, .bounded relation b bs, ?_, trivial, ?_⟩
  · refine ⟨fun q hq => (hAll q hq).2,
      (hAll b List.mem_cons_self).1, ?_⟩
    exact (Phrase.allGrammatical_iff bs).mpr fun q hq =>
      (hAll q (List.mem_cons_of_mem b hq)).1
  · rw [Phrase.lexemes, ← hLexemes]
    rfl

/- A wildcard settles behind its question mark. -/
theorem readWildcard_settles
    (hBound :
      ∀ tokens,
        Worded tokens →
          g.Settles depth
            (Begins (PhraseLexemes fun p => p.isNamed = true))
            (fun extra => g.readBound (outer extra)) tokens
            (g.readBound inner tokens))
    (hSound :
      g.Sound depth (fun p => p.isNamed = true)
        (g.readBound inner))
    (hWorded : Worded tokens) :
    g.Settles depth
      (fun lexemes =>
        Begins (PhraseLexemes fun _ => True)
          ([.symbol .question] ++ lexemes))
      (fun extra => g.readWildcard (outer extra)) tokens
      (g.readWildcard inner tokens) := by
  have hBare :
      Begins (PhraseLexemes fun _ => True)
        ([.symbol .question] ++ []) :=
    Begins.of ⟨.bare, trivial, trivial, rfl⟩
  by_cases hNone : NoWord tokens
  · rw [readWildcard_of_noWord inner hNone]
    refine Settles.after [] (fun extra more hMore => ?_)
      (fun level => rfl)
      (closeWildcard_settles (.unbounded g.root) tokens hBare)
    exact readWildcard_of_noWord (outer extra)
      (hNone.congr hMore)
  · obtain ⟨w, hNext⟩ := exists_word_of_not_noWord hNone
    rcases exists_cons_of_nextLexeme hNext with
      ⟨position, rest, rfl⟩
    cases hWord : BoundRelation.ofWord? w with
    | none =>
        rw [readWildcard_of_ofWord?_eq_none inner hWord]
        refine Settles.refuse [] rfl hBare ?_
        intro extra more hMore
        rcases exists_cons_of_nextLexeme hMore with
          ⟨other, others, rfl⟩
        exact ⟨_, readWildcard_of_ofWord?_eq_none (outer extra)
          hWord⟩
    | some relation =>
        have hKeyword := BoundRelation.eq_word_of_ofWord? hWord
        have hRest : Worded rest :=
          hWorded.mono (List.suffix_cons _ rest)
        rw [readWildcard_of_keyword inner hWord]
        refine Settles.after [⟨.word w, position⟩]
          (fun extra more _ =>
            readWildcard_of_keyword (outer extra) hWord)
          (keepsLevel_of_ne (by simp))
          (Settles.bind
            ((readSeparated_settles .ampersand 0 (by decide)
              hBound hSound hRest (Nat.le_refl _)).mono ?_) ?_)
        · intro lexemes hBegins
          rw [hKeyword]
          exact begins_bounded relation hBegins
        · intro bounds left hRead
          rcases readSeparated_ok hSound hRest hRead with
            ⟨b, bs, hAll⟩
          refine ⟨_, hAll.consumes,
            hAll.keepsLevel (by decide), ?_⟩
          apply closeWildcard_settles
          rw [List.append_nil, hKeyword]
          apply begins_bounded relation
          exact Begins.of ⟨b, bs,
            fun q hq => ⟨hAll.grammatical q hq, hAll.kinds q hq⟩,
            rfl⟩

end Grammar

end DeclaredApi

------------------------------------------------------------
-- Types
------------------------------------------------------------

namespace DeclaredApi

namespace Grammar

variable {g : Grammar}
variable {depth : Nat}
variable {tokens : List Token}

/- A type without a question mark is a named type. -/
theorem readType_of_ne_question
    (inner : Option (Reader TypeRef))
    (hNext : nextLexeme tokens ≠ some (.symbol .question)) :
    g.readType inner tokens = g.readNamed inner tokens := by
  unfold readType
  split
  · exact absurd rfl hNext
  · rfl

/- A type settles if the types inside it do. -/
theorem readType_settles
    (hInside : g.SettlesInside depth)
    (hWorded : Worded tokens) :
    g.Settles depth (Begins (PhraseLexemes fun _ => True))
      (fun extra => g.readType (g.argumentReader (depth + extra)))
      tokens
      (g.readType (g.argumentReader depth) tokens) := by
  by_cases hNext :
      nextLexeme tokens = some (.symbol .question)
  · rcases exists_cons_of_nextLexeme hNext with
      ⟨position, rest, rfl⟩
    refine Settles.after [⟨.symbol .question, position⟩]
      (fun _ more _ => rfl) (keepsLevel_of_ne (by simp)) ?_
    apply readWildcard_settles
    · exact fun tokens hWorded =>
        readBound_settles (readNamed_settles hInside hWorded)
    · exact readBound_ok
        (readNamed_ok fun inner _ => typeReader_ok inner)
    · exact hWorded.mono (List.suffix_cons _ rest)
  · rw [readType_of_ne_question _ hNext]
    refine Settles.after []
      (fun _ more hMore =>
        readType_of_ne_question _ (hMore ▸ hNext))
      (fun level => rfl)
      ((readNamed_settles hInside hWorded).mono ?_)
    rintro lexemes ⟨rest, p, hGrammatical, _, hLexemes⟩
    exact ⟨rest, p, hGrammatical, trivial, hLexemes⟩

/-
  Reading a type settles.  The induction is on the limit: an
  argument list leaves one level less to its arguments.
-/
theorem typeReader_settles
    (hWorded : Worded tokens) :
    g.Settles depth (Begins (PhraseLexemes fun _ => True))
      (fun extra => g.typeReader (depth + extra)) tokens
      (g.typeReader depth tokens) := by
  induction depth generalizing tokens with
  | zero =>
      simp only [typeReader_eq]
      apply readType_settles _ hWorded
      intro inner hInner
      cases hInner
  | succ depth ih =>
      simp only [typeReader_eq]
      apply readType_settles _ hWorded
      intro inner hInner tokens hTokens
      cases hInner
      exact ih hTokens

end Grammar

end DeclaredApi
