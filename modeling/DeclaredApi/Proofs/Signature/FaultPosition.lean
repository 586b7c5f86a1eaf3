import DeclaredApi.Proofs.Signature.Interning
import DeclaredApi.Proofs.Signature.Refusals
import DeclaredApi.Proofs.Signature.Strays

/-
  The position of a fault.

  Lexemes are viable if some text that starts with them is
  accepted within some limit.  A text without stray characters
  that is refused is refused at the first token that makes the
  lexemes up to it impossible, be it the end, unless it is
  refused for its depth at the first mark beyond the limit.

  Main declarations:
    * `Signature.Viable`
    * `Signature.viable_iff`
    * `Signature.ImpossibleAt`
    * `Signature.ImpossibleAt.unique`
    * `Signature.fault_of_readTokens`
    * `Signature.parse_error_position`
-/

------------------------------------------------------------
-- Viable Lexemes
------------------------------------------------------------

namespace DeclaredApi

namespace Signature

/- Some lexemes start a text that is accepted at some depth. -/
def Viable
    (root : String)
    (lexemes : List Lexeme) : Prop :=
  ∃ text all r,
    Token.HasLexemes text all ∧
      lexemes <+: all ∧ Means root text r

variable {root : String}
variable {lexemes : List Lexeme}

/- What is viable starts with what is viable. -/
theorem Viable.mono
    {first : List Lexeme}
    (hViable : Viable root lexemes)
    (hPrefix : first <+: lexemes) :
    Viable root first := by
  rcases hViable with ⟨text, all, r, hAll, hStart, hMeans⟩
  exact ⟨text, all, r, hAll, hPrefix.trans hStart, hMeans⟩

/- Viable lexemes start those of a phrase. -/
theorem viable_iff :
    Viable root lexemes ↔
      ∃ p : Phrase,
        p.Grammatical ∧ lexemes <+: p.lexemes ++ [.finish] := by
  constructor
  · rintro ⟨text, all, r, hAll, hPrefix, limit, hRead⟩
    rcases read_eq_ok_iff.mp hRead with ⟨p, hDerives, _⟩
    rcases Phrase.derives_iff.mp hDerives with
      ⟨hLexemes, hGrammatical, _⟩
    rw [hAll.unique hLexemes] at hPrefix
    exact ⟨p, hGrammatical, hPrefix⟩
  · rintro ⟨p, hGrammatical, hPrefix⟩
    have hLexemes := Token.hasLexemes_text hGrammatical
    refine ⟨p.text, _, p.tree root, hLexemes, hPrefix,
      p.nesting, ?_⟩
    apply read_of_derives
    exact Phrase.derives_iff.mpr
      ⟨hLexemes, hGrammatical, Nat.le_refl _⟩

/-
  The first impossible token of some stands at a position:
  the lexemes before it are viable, but not together with it.
-/
def ImpossibleAt
    (root : String)
    (tokens : List Token)
    (position : Nat) : Prop :=
  ∃ before t after,
    tokens = before ++ t :: after ∧
      t.position = position ∧
      Viable root (before.map Token.lexeme) ∧
      ¬ Viable root ((before ++ [t]).map Token.lexeme)

/- There is at most one first impossible token. -/
theorem ImpossibleAt.unique
    {tokens : List Token}
    {position other : Nat}
    (hPosition : ImpossibleAt root tokens position)
    (hOther : ImpossibleAt root tokens other) :
    position = other := by
  rcases hPosition with
    ⟨before, t, after, rfl, rfl, hBefore, hNot⟩
  rcases hOther with
    ⟨front, u, rest, hEq, rfl, hFront, hNotToo⟩
  -- a longer front would start with an impossible token
  have hNoLonger :
      ∀ {xs ys : List Token} {x : Token} {zs : List Token},
        ¬ Viable root ((xs ++ [x]).map Token.lexeme) →
          Viable root (ys.map Token.lexeme) →
            ys = xs ++ x :: zs → False := by
    rintro xs ys x zs hImpossible hViable rfl
    apply hImpossible
    apply hViable.mono
    exact ⟨zs.map Token.lexeme, by simp⟩
  rcases List.append_eq_append_iff.mp hEq with
    ⟨more, hFrontEq, hRest⟩ | ⟨more, hBeforeEq, hRest⟩
  · cases more with
    | nil =>
        cases hRest
        rfl
    | cons x more =>
        cases hRest
        exact (hNoLonger hNot hFront hFrontEq).elim
  · cases more with
    | nil =>
        cases hRest
        rfl
    | cons x more =>
        cases hRest
        exact (hNoLonger hNotToo hBefore hBeforeEq).elim

end Signature

end DeclaredApi

------------------------------------------------------------
-- The End among Tokens
------------------------------------------------------------

namespace DeclaredApi

namespace Token

/- The end is not scanned. -/
theorem ne_finish_of_scanFrom
    {inWord : Bool}
    {position : Nat}
    {cs : List Char}
    {tokens : List Token}
    (hScan : scanFrom inWord position cs = .ok tokens) :
    ∀ t ∈ tokens, t.lexeme ≠ .finish := by
  induction cs generalizing inWord position tokens with
  | nil =>
      cases hScan
      simp
  | cons c rest ih =>
      rcases scanFrom_cons_cases hScan with
        ⟨_, _, hRest⟩ | ⟨_, _, others, hOthers, rfl⟩ |
          ⟨_, hRest⟩ | ⟨s, others, _, hOthers, rfl⟩
      · exact ih hRest
      · exact List.forall_mem_cons.mpr ⟨by simp, ih hOthers⟩
      · exact ih hRest
      · exact List.forall_mem_cons.mpr ⟨by simp, ih hOthers⟩

/- The end is put behind the tokens that are scanned. -/
theorem ofText_of_scan
    {text : String}
    {tokens : List Token}
    (hScan : scan text = .ok tokens) :
    ofText text =
      .ok (tokens ++ [⟨.finish, text.length⟩]) := by
  rw [ofText, hScan]

/- A mark beyond the limit is found in front of more tokens. -/
theorem firstTooDeep_append_of_eq_some
    {limit level position : Nat}
    {tokens : List Token}
    (more : List Token)
    (hFound : firstTooDeep limit level tokens = some position) :
    firstTooDeep limit level (tokens ++ more) =
      some position := by
  fun_induction firstTooDeep limit level tokens with
  | case1 level => cases hFound
  | case2 level other rest hLess ih =>
      rw [List.cons_append, firstTooDeep, if_pos hLess, ih hFound]
  | case3 level other rest hLess =>
      rw [List.cons_append, firstTooDeep, if_neg hLess, hFound]
  | case4 level other rest ih =>
      rw [List.cons_append, firstTooDeep, ih hFound]
  | case5 level t rest hLess hGreater ih =>
      rw [List.cons_append, firstTooDeep, ih hFound]
      · exact hLess
      · exact hGreater

end Token

namespace Phrase

/- The end is no lexeme of a phrase. -/
theorem finish_not_mem_lexemes
    {p : Phrase}
    (hGrammatical : p.Grammatical) :
    .finish ∉ p.lexemes := by
  intro hMem
  rcases Token.hasLexemes_append_finish_iff.mp
      (Token.hasLexemes_text hGrammatical) with
    ⟨tokens, hScan, hLexemes⟩
  rw [← hLexemes] at hMem
  rcases List.mem_map.mp hMem with ⟨t, ht, hFinish⟩
  exact Token.ne_finish_of_scanFrom hScan t ht hFinish

end Phrase

end DeclaredApi

------------------------------------------------------------
-- Impossible Tokens
------------------------------------------------------------

namespace DeclaredApi

namespace Grammar

variable {g : Grammar}

/- Some tokens, closed by the end at its offset. -/
def close
    (g : Grammar)
    (tokens : List Token) : List Token :=
  tokens ++ [⟨.finish, g.stop⟩]

/- The first of some tokens, or the end behind them. -/
theorem exists_close_eq_cons
    (tokens : List Token) :
    ∃ t after,
      g.close tokens = t :: after ∧
        t.position = g.position tokens ∧
        t.lexeme = (nextLexeme tokens).getD .finish := by
  cases tokens with
  | nil => exact ⟨_, _, rfl, rfl, rfl⟩
  | cons t rest => exact ⟨t, g.close rest, rfl, rfl, rfl⟩

/-
  A phrase that starts with some lexemes and the one after
  them, or that ends there, has tokens which go on alike.
-/
theorem exists_more_of_prefix
    {used left : List Token}
    {p : Phrase}
    (hFinish : ∀ t ∈ left, t.lexeme ≠ .finish)
    (hGrammatical : p.Grammatical)
    (hPrefix :
      used.map Token.lexeme ++
          [(nextLexeme left).getD .finish] <+:
        p.lexemes ++ [.finish]) :
    ∃ more : List Token,
      nextLexeme more = nextLexeme left ∧
        (used ++ more).map Token.lexeme = p.lexemes := by
  rcases List.prefix_concat_iff.mp hPrefix with hEq | hInside
  · rcases List.append_inj' hEq rfl with ⟨hUsed, hLast⟩
    injection hLast with hLast
    cases left with
    | nil => exact ⟨[], rfl, by rw [List.append_nil, hUsed]⟩
    | cons t rest =>
        exact absurd hLast (hFinish t List.mem_cons_self)
  · rcases hInside with ⟨rest, hRest⟩
    cases left with
    | nil =>
        -- the end would be a lexeme of the phrase
        apply absurd _ (Phrase.finish_not_mem_lexemes hGrammatical)
        rw [← hRest]
        simp [nextLexeme]
    | cons t others =>
        refine ⟨t :: rest.map (fun lexeme => ⟨lexeme, 0⟩), rfl,
          ?_⟩
        rw [← hRest]
        simp [nextLexeme, Function.comp_def]

/-
  A token is the first impossible one if what comes before is
  viable and every reader with a higher limit, on tokens that
  go on alike, fails or leaves some of them.
-/
theorem impossibleAt_of_refused
    (depth : Nat)
    {used left : List Token}
    (hFinish : ∀ t ∈ left, t.lexeme ≠ .finish)
    (hViable :
      Begins (PhraseLexemes fun _ => True)
        (used.map Token.lexeme))
    (hRefused :
      ∀ extra more r,
        nextLexeme more = nextLexeme left →
          g.typeReader (depth + extra) (used ++ more) ≠
            .ok (r, [])) :
    Signature.ImpossibleAt g.root (g.close (used ++ left))
      (g.position left) := by
  rcases exists_close_eq_cons (g := g) left with
    ⟨t, after, hClose, hPosition, hLexeme⟩
  refine ⟨used, t, after, ?_, hPosition, ?_, ?_⟩
  · rw [close, List.append_assoc, ← hClose]
    rfl
  · rcases hViable with ⟨more, p, hGrammatical, _, hLexemes⟩
    refine Signature.viable_iff.mpr ⟨p, hGrammatical, ?_⟩
    exact ⟨more ++ [.finish], by rw [← hLexemes]; simp⟩
  · intro hImpossible
    rcases Signature.viable_iff.mp hImpossible with
      ⟨p, hGrammatical, hPrefix⟩
    rw [List.map_append, List.map_singleton, hLexeme] at hPrefix
    rcases exists_more_of_prefix hFinish hGrammatical hPrefix
      with ⟨more, hNext, hLexemes⟩
    have hRead :=
      typeReader_takes (g := g) hGrammatical
        (Nat.le_add_left p.nesting depth) (used ++ more) []
        hLexemes (StopsAt.nil _)
    rw [List.append_nil] at hRead
    exact hRefused p.nesting more _ hNext hRead

end Grammar

namespace Signature

/-
  Tokens that are refused are refused at the first mark beyond
  the limit, or at the first impossible token.
-/
theorem fault_of_readTokens
    {g : Grammar}
    {tokens : List Token}
    {fault : ParseFault}
    (hWorded : Grammar.Worded tokens)
    (hFinish : ∀ t ∈ tokens, t.lexeme ≠ .finish)
    (hSome : tokens ≠ [])
    (hRead : readTokens g tokens = .error fault) :
    (fault.reason.isTooDeep = true →
      Token.firstTooDeep g.limit 0 tokens =
        some fault.position) ∧
      (fault.reason.isTooDeep = false →
        ImpossibleAt g.root (g.close tokens)
          fault.position) := by
  have hSettles :
      g.Settles g.limit
        (Grammar.Begins (Grammar.PhraseLexemes fun _ => True))
        (fun extra => g.typeReader (g.limit + extra)) tokens
        (g.typeReader g.limit tokens) :=
    Grammar.typeReader_settles hWorded
  have hNonempty : tokens.isEmpty = false := by
    simpa using hSome
  rw [readTokens, hNonempty] at hRead
  cases hType : g.typeReader g.limit tokens with
  | error found =>
      rw [hType] at hSettles hRead
      cases hRead
      constructor
      · intro hDeep
        have hFirst := hSettles.1 hDeep 0
        rwa [Nat.zero_add] at hFirst
      · intro hOther
        rcases hSettles.2 hOther with
          ⟨used, left, rfl, hPosition, hViable, hFails⟩
        rw [hPosition]
        apply Grammar.impossibleAt_of_refused g.limit
          (fun t ht => hFinish t (List.mem_append_right _ ht))
          hViable
        intro extra more r hNext hOk
        rcases hFails extra more hNext with ⟨e, hError⟩
        dsimp only at hError
        rw [hError] at hOk
        cases hOk
  | ok taken =>
      rcases taken with ⟨r, left⟩
      rcases Grammar.typeReader_ok _ _ _ _ hWorded hType with
        ⟨p, hReads, _⟩
      rw [hType] at hSettles hRead
      rcases hSettles with ⟨used, rfl, hReturns⟩
      dsimp only at hReturns
      cases left with
      | nil => cases hRead
      | cons t rest =>
          cases hRead
          refine ⟨fun hDeep => absurd hDeep Bool.false_ne_true,
            fun _ => ?_⟩
          apply Grammar.impossibleAt_of_refused g.limit
            (fun t ht => hFinish t (List.mem_append_right _ ht))
          · rw [hReads.consumes.map_eq]
            exact Grammar.Begins.of
              ⟨p, hReads.grammatical, trivial, rfl⟩
          · -- the token is left, so it is not the end
            intro extra more s hNext hOk
            rw [hReturns extra more hNext] at hOk
            cases hOk
            cases hNext

end Signature

end DeclaredApi

------------------------------------------------------------
-- Positions of Parse Errors
------------------------------------------------------------

namespace DeclaredApi

namespace Signature

theorem isTooDeep_iff
    {reason : ParseReason} :
    reason.isTooDeep = true ↔
      ∃ limit, reason = .tooDeep limit := by
  cases reason <;> simp [ParseReason.isTooDeep]

/- A text that is refused has a fault of the grammar. -/
theorem read_of_parse_eq_error
    {config : Config}
    {interner : Interner}
    {text : String}
    {e : ParseError}
    (hInterns : config.interns = false)
    (hRefused :
      (Interner.parse config text interner).1 = .error e) :
    read config.rootObject config.depthLimit text =
      .error e.toParseFault := by
  rw [parse_of_not_interns hInterns] at hRefused
  cases hRead :
      read config.rootObject config.depthLimit text with
  | ok r =>
      rw [hRead] at hRefused
      cases hRefused
  | error fault =>
      rw [hRead] at hRefused
      cases hRefused
      rfl

/-
  A text with a stray character is refused at the first one, a
  blank text at its start, and any other text at the first
  mark that opens too deep a level, if it is refused for its
  depth, or else at the first impossible token.
-/
theorem parse_error_position
    (config : Config)
    (interner : Interner)
    (text : String)
    (e : ParseError)
    (hInterns : config.interns = false)
    (hRefused :
      (Interner.parse config text interner).1 = .error e) :
    ((∃ offset, Token.StrayAt text.toList offset) →
      Token.StrayAt text.toList e.position ∧
        ∀ offset < e.position,
          ¬ Token.StrayAt text.toList offset) ∧
      ((∀ offset, ¬ Token.StrayAt text.toList offset) →
        (∀ c ∈ text.toList, Text.isBlank c = true) →
          e.position = 0) ∧
      ((∀ offset, ¬ Token.StrayAt text.toList offset) →
        (¬ ∀ c ∈ text.toList, Text.isBlank c = true) →
          ∃ tokens,
            Token.ofText text = .ok tokens ∧
              ((∃ limit, e.reason = .tooDeep limit) →
                Token.firstTooDeep config.depthLimit 0 tokens =
                  some e.position) ∧
              ((¬ ∃ limit, e.reason = .tooDeep limit) →
                ∀ position,
                  ImpossibleAt config.rootObject tokens
                      position ↔
                    position = e.position)) := by
  have hRead := read_of_parse_eq_error hInterns hRefused
  rcases e with ⟨fault, source⟩
  dsimp only at hRead ⊢
  unfold read at hRead
  cases hScan : Token.scan text with
  | error stray =>
      rw [hScan] at hRead
      cases hRead
      have hFirst := Token.strayAt_of_scan hScan
      exact ⟨fun _ => hFirst,
        fun hNone => absurd hFirst.1 (hNone _),
        fun hNone => absurd hFirst.1 (hNone _)⟩
  | ok tokens =>
      rw [hScan] at hRead
      refine ⟨?_, fun _ hBlank => ?_, fun _ hNotBlank => ?_⟩
      · rintro ⟨offset, hStray⟩
        exact absurd hStray
          (Token.not_strayAt_of_scan hScan offset)
      · rw [Token.scan_of_blank hBlank] at hScan
        cases hScan
        cases hRead
        rfl
      · have hSome : tokens ≠ [] := by
          rintro rfl
          exact hNotBlank (Token.isBlank_of_scanFrom_eq_nil hScan)
        rcases fault_of_readTokens (Token.worded_of_scan hScan)
            (Token.ne_finish_of_scanFrom hScan) hSome hRead with
          ⟨hDeep, hOther⟩
        refine ⟨_, Token.ofText_of_scan hScan, ?_, ?_⟩
        · intro hReason
          exact Token.firstTooDeep_append_of_eq_some _
            (hDeep (isTooDeep_iff.mpr hReason))
        · intro hReason position
          have hHere :=
            hOther (Bool.eq_false_iff.mpr
              fun hTrue => hReason (isTooDeep_iff.mp hTrue))
          constructor
          · exact fun hPosition => hPosition.unique hHere
          · rintro rfl
            exact hHere

/- A bracket that is not closed, inside an argument list. -/
theorem parse_error_position_in_arguments :
    (Interner.parse { interns := false } "Map<a, b[>" {}).1 =
        .error
          { position := 9
            reason := .unclosedBracket
            source := "Map<a, b[>" } ∧
      ∃ tokens,
        Token.ofText "Map<a, b[>" = .ok tokens ∧
          ∀ position,
            ImpossibleAt "java.lang.Object" tokens position ↔
              position = 9 := by
  have hRefused :
      (Interner.parse { interns := false } "Map<a, b[>" {}).1 =
        .error
          { position := 9
            reason := .unclosedBracket
            source := "Map<a, b[>" } := by
    decide +kernel
  have hScan : ∃ tokens, Token.scan "Map<a, b[>" = .ok tokens :=
    ⟨_, rfl⟩
  rcases hScan with ⟨scanned, hScan⟩
  have hNotBlank :
      ¬ ∀ c ∈ "Map<a, b[>".toList, Text.isBlank c = true := by
    intro hBlank
    have hLetter := hBlank 'M' (by decide)
    rw [show Text.isBlank 'M' = false by decide] at hLetter
    cases hLetter
  rcases (parse_error_position _ _ _ _ rfl hRefused).2.2
      (Token.not_strayAt_of_scan hScan) hNotBlank with
    ⟨tokens, hTokens, _, hOther⟩
  exact ⟨hRefused, tokens, hTokens, hOther (by simp)⟩

end Signature

end DeclaredApi
