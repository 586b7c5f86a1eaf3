import DeclaredApi.Proofs.Signature.Bases
import DeclaredApi.Proofs.Signature.Interning

/-
  Texts of a base with type arguments.

  The lexemes of such a text are those of the base and those
  of the arguments, so it is read exactly if the base names a
  type that takes arguments and no blank divides a word of it.

  Main declarations:
    * `Signature.applied`
    * `Token.lexes_applied_iff`
    * `Phrase.eq_named_of_lexemes`
    * `Signature.read_applied_eq_ok_iff`
    * `Interner.parse_applied_eq_ok_iff`
-/

------------------------------------------------------------
-- Texts with Arguments
------------------------------------------------------------

namespace DeclaredApi

namespace Signature

/- A base with the texts of its type arguments. -/
def applied
    (base : String)
    (arguments : List String) : String :=
  base ++ "<" ++ ", ".intercalate arguments ++ ">"

end Signature

namespace Token

variable {base : String}
variable {texts : List String}
variable {ps : List Phrase}
variable {lexemes : List Lexeme}

/- What derives a text is written by it. -/
theorem writes_of_derives
    {p : Phrase}
    {limit : Nat}
    {text : String}
    (hDerives : p.Derives limit text) :
    Writes text p := by
  intro cs lexemes hEnd hLexes
  rcases hDerives.lexemes_eq with ⟨tokens, hScan, hMap⟩
  have hText := lexes_of_scanFrom hScan
  rw [hMap] at hText
  exact (lexes_append_iff hEnd).mpr
    ⟨_, _, hText, hLexes, rfl⟩

theorem writes_of_derivesAll
    {limit : Nat}
    (hTexts :
      List.Forall₂ (fun text p => Phrase.Derives p limit text)
        texts ps) :
    List.Forall₂ Writes texts ps :=
  hTexts.imp fun _ _ => writes_of_derives

/- The lexemes of the arguments follow those of the base. -/
theorem lexes_applied_iff
    (hSome : ps ≠ [])
    (hTexts : List.Forall₂ Writes texts ps) :
    Lexes false (Signature.applied base texts).toList lexemes ↔
      ∃ first,
        Lexes false base.toList first ∧
          lexemes = first ++ Phrase.argumentLexemes ps := by
  have hChars :
      (Signature.applied base texts).toList =
        base.toList ++
          Symbol.less.char ::
            ((", ".intercalate texts).toList ++
              [Symbol.greater.char]) := by
    simp [Signature.applied, Symbol.char]
  have hEnd := EndsWord.symbol .less
    ((", ".intercalate texts).toList ++ [Symbol.greater.char])
  have hArguments :
      Lexes false
        (Symbol.less.char ::
          ((", ".intercalate texts).toList ++
            [Symbol.greater.char]))
        (Phrase.argumentLexemes ps) := by
    cases hTexts with
    | nil => exact absurd rfl hSome
    | cons hFirst hOthers =>
        have hInside :=
          lexes_intercalate separates_comma
            (List.Forall₂.cons hFirst hOthers)
            (EndsWord.symbol .greater [])
            ((Lexes.nil false).symbol .greater)
        rw [Phrase.argumentLexemes]
        exact hInside.symbol .less
  rw [hChars, lexes_append_iff hEnd]
  constructor
  · rintro ⟨first, others, hFirst, hOthers, rfl⟩
    exact ⟨first, hFirst, by rw [hOthers.unique hArguments]⟩
  · rintro ⟨first, hFirst, rfl⟩
    exact ⟨first, _, hFirst, hArguments, rfl⟩

/- A symbol is written with its character. -/
theorem char_mem_of_lexes
    {cs : List Char}
    {s : Symbol}
    (hLexes : Lexes false cs lexemes)
    (hMem : .symbol s ∈ lexemes) :
    s.char ∈ cs := by
  induction lexemes generalizing cs with
  | nil => cases hMem
  | cons lexeme lexemes ih =>
      rcases exists_gap_of_lexes hLexes with
        ⟨gap, rest, rfl, _, hRest, _⟩
      rcases List.mem_cons.mp hMem with rfl | hLater
      · simp [Lexeme.text]
      · exact List.mem_append_right _
          (List.mem_append_right _ (ih hRest hLater))

end Token

namespace Phrase

/- What stands in front of the first mark is determined. -/
theorem eq_of_append_cons_eq
    {mark : Lexeme}
    {xs ys us vs : List Lexeme}
    (hXs : mark ∉ xs)
    (hUs : mark ∉ us)
    (hEq : xs ++ mark :: ys = us ++ mark :: vs) :
    xs = us := by
  have hFront :
      ∀ front rest,
        mark ∉ front →
          (front ++ mark :: rest).takeWhile (· ≠ mark) = front := by
    intro front rest hNone
    rw [List.takeWhile_append_of_pos]
    · simp
    · intro x hx
      have hNe : x ≠ mark := by
        rintro rfl
        exact hNone hx
      simpa using hNe
  rw [← hFront xs ys hXs, hEq, hFront us vs hUs]

theorem less_not_mem_dottedLexemes
    (words : List String) :
    .symbol .less ∉ dottedLexemes words := by
  induction words with
  | nil => simp [dottedLexemes]
  | cons w words ih => simp [dottedLexemes, ih]

theorem less_not_mem_bracketLexemes
    (dimensions : Nat) :
    .symbol .less ∉ bracketLexemes dimensions := by
  induction dimensions with
  | zero => simp [bracketLexemes]
  | succ dimensions ih => simp [bracketLexemes, ih]

/-
  A phrase with an argument list behind other lexemes is the
  named one with these arguments, as long as there is no mark
  of a wildcard and no other argument list before.
-/
theorem eq_named_of_lexemes
    {p : Phrase}
    {ps : List Phrase}
    {first : List Lexeme}
    (hGrammatical : p.Grammatical)
    (hSome : ps ≠ [])
    (hArguments : ∀ q ∈ ps, q.Grammatical)
    (hQuestion : .symbol .question ∉ first)
    (hLess : .symbol .less ∉ first)
    (hLexemes : p.lexemes = first ++ argumentLexemes ps) :
    ∃ word words,
      first = .word word :: dottedLexemes words ∧
        p = .named word words ps 0 := by
  have hOpen :
      ∃ inside, argumentLexemes ps = .symbol .less :: inside := by
    cases ps with
    | nil => exact absurd rfl hSome
    | cons q qs => exact ⟨_, by rw [argumentLexemes]⟩
  rcases hOpen with ⟨inside, hOpen⟩
  have hNoMark :
      ∀ rest, p.lexemes ≠ .symbol .question :: rest := by
    intro rest hStart
    rw [hStart, hOpen] at hLexemes
    cases first with
    | nil => cases hLexemes
    | cons lexeme first =>
        injection hLexemes with hHead
        exact hQuestion (hHead ▸ List.mem_cons_self)
  cases p with
  | bare => exact absurd (by rw [lexemes]) (hNoMark [])
  | bounded relation bound bounds =>
      exact absurd (by rw [lexemes]) (hNoMark _)
  | named word words arguments dimensions =>
      have hFirst :
          first = .word word :: dottedLexemes words ∧
            arguments ≠ [] := by
        have hNone := less_not_mem_dottedLexemes words
        have hBrackets := less_not_mem_bracketLexemes dimensions
        cases arguments with
        | nil =>
            have hMem :
                .symbol .less ∈
                  (named word words [] dimensions).lexemes := by
              rw [hLexemes, hOpen]
              simp
            simp [lexemes, argumentLexemes, hNone, hBrackets]
              at hMem
        | cons a as =>
            have hName :
                .symbol .less ∉
                  .word word :: dottedLexemes words := by
              simp [hNone]
            rw [lexemes, argumentLexemes, hOpen] at hLexemes
            exact ⟨(eq_of_append_cons_eq hName hLess
              hLexemes).symm, List.cons_ne_nil a as⟩
      rcases hFirst with ⟨rfl, hTaken⟩
      refine ⟨word, words, rfl, ?_⟩
      have hParts := hGrammatical
      rw [Grammatical, allGrammatical_iff] at hParts
      apply eq_of_lexemes_eq hGrammatical
      · rw [Grammatical, allGrammatical_iff]
        exact ⟨hParts.1,
          fun hPrimitive => absurd (hParts.2.1 hPrimitive) hTaken,
          hArguments⟩
      · rw [hLexemes]
        simp [lexemes, bracketLexemes]

end Phrase

end DeclaredApi

------------------------------------------------------------
-- Reading of Applied Bases
------------------------------------------------------------

namespace DeclaredApi

namespace Signature

variable {base root : String}
variable {texts : List String}
variable {ps : List Phrase}
variable {inner limit : Nat}
variable {r : TypeRef}

/- Each argument is grammatical and within the limit. -/
theorem parts_of_derivesAll
    (hTexts :
      List.Forall₂ (fun text p => Phrase.Derives p inner text)
        texts ps) :
    ∀ p ∈ ps, p.Grammatical ∧ p.nesting ≤ inner :=
  ((List.forall₂_and_left ps texts).mp
    (hTexts.flip.imp fun _ _ hDerives =>
      ⟨⟨hDerives.grammatical, hDerives.nesting_le⟩,
        hDerives⟩)).1

/- A base that takes arguments is read with them. -/
theorem read_applied
    (root : String)
    (hTakes :
      Name.takesArguments (Text.withoutBlanks base) = true)
    (hUndivided : Name.isUndivided base = true)
    (hSome : ps ≠ [])
    (hInner : inner < limit)
    (hTexts :
      List.Forall₂ (fun text p => p.Derives inner text) texts
        ps) :
    read root limit (applied base texts) =
      .ok (.simple (Text.withoutBlanks base) 0
        (ps.map (Phrase.tree root))) := by
  rw [Name.takesArguments, Bool.and_eq_true,
    Bool.not_eq_true'] at hTakes
  have hFirst :=
    Token.lexes_base_iff.mpr
      ⟨hTakes.1, hUndivided,
        (Phrase.headD_cons_tail_words _).symm⟩
  have hText :=
    (Token.lexes_applied_iff hSome
      (Token.writes_of_derivesAll hTexts)).mpr ⟨_, hFirst, rfl⟩
  rw [read_eq_ok_iff]
  refine ⟨Phrase.ofName (Text.withoutBlanks base) ps 0,
    ⟨?_, ?_, ?_⟩, Phrase.tree_ofName root ps 0⟩
  · rcases hText 0 with ⟨tokens, hScan, hMap⟩
    refine ⟨tokens, hScan, ?_⟩
    rw [hMap, Phrase.ofName, Phrase.lexemes]
    simp [Phrase.bracketLexemes]
  · apply Phrase.grammatical_ofName 0 hTakes.1
    · intro hPrimitive
      rw [hPrimitive] at hTakes
      cases hTakes.2
    · exact fun q hq => (parts_of_derivesAll hTexts q hq).1
  · have hDeep : Phrase.nestingAll ps ≤ inner :=
      (Phrase.nestingAll_le_iff ps inner).mpr
        fun q hq => (parts_of_derivesAll hTexts q hq).2
    cases ps with
    | nil => exact absurd rfl hSome
    | cons q qs =>
        rw [Phrase.ofName, Phrase.nesting]
        omega

/-
  A base with arguments is read exactly if the base names a
  type that takes them and no blank divides a word of it.
-/
theorem read_applied_eq_ok_iff
    (hQuestion : '?' ∉ base.toList)
    (hLess : '<' ∉ base.toList)
    (hSome : ps ≠ [])
    (hInner : inner < limit)
    (hTexts :
      List.Forall₂ (fun text p => p.Derives inner text) texts
        ps) :
    read root limit (applied base texts) = .ok r ↔
      Name.takesArguments (Text.withoutBlanks base) = true ∧
        Name.isUndivided base = true ∧
        r =
          .simple (Text.withoutBlanks base) 0
            (ps.map (Phrase.tree root)) := by
  constructor
  · intro hRead
    rcases read_eq_ok_iff.mp hRead with ⟨p, hDerives, rfl⟩
    rcases hDerives.lexemes_eq with ⟨tokens, hScan, hMap⟩
    have hText := Token.lexes_of_scanFrom hScan
    rw [hMap, Token.lexes_applied_iff hSome
      (Token.writes_of_derivesAll hTexts)] at hText
    rcases hText with ⟨first, hFirst, hLexemes⟩
    rcases Phrase.eq_named_of_lexemes hDerives.grammatical hSome
        (fun q hq => (parts_of_derivesAll hTexts q hq).1)
        (fun hMem => hQuestion (Token.char_mem_of_lexes hFirst hMem))
        (fun hMem => hLess (Token.char_mem_of_lexes hFirst hMem))
        hLexemes with
      ⟨word, words, rfl, rfl⟩
    rcases Token.lexes_base_iff.mp hFirst with
      ⟨hDotted, hUndivided, hWords⟩
    have hName :
        Phrase.dotted word words = Text.withoutBlanks base := by
      rw [Phrase.dotted, ← hWords, Name.intercalate_words]
    have hGrammatical := hDerives.grammatical
    rw [Phrase.Grammatical, hName] at hGrammatical
    refine ⟨?_, hUndivided, ?_⟩
    · rw [Name.takesArguments, hDotted, Bool.true_and,
        Bool.not_eq_true']
      exact Bool.eq_false_iff.mpr fun hPrimitive =>
        hSome (hGrammatical.2.1 hPrimitive)
    · rw [Phrase.tree, hName, Phrase.treeAll_eq_map]
  · rintro ⟨hTakes, hUndivided, rfl⟩
    exact read_applied root hTakes hUndivided hSome hInner hTexts

end Signature

namespace Interner

variable {config : Config}
variable {interner : Interner}
variable {base : String}
variable {texts : List String}
variable {ps : List Phrase}
variable {inner : Nat}
variable {r : TypeRef}

/- In a sound interner it is parsed as it is read. -/
theorem parse_applied_eq_ok_iff
    (hSound : Sound config.rootObject interner)
    (hQuestion : '?' ∉ base.toList)
    (hLess : '<' ∉ base.toList)
    (hSome : ps ≠ [])
    (hInner : inner < config.depthLimit)
    (hTexts :
      List.Forall₂ (fun text p => p.Derives inner text) texts
        ps) :
    (parse config (Signature.applied base texts) interner).1 =
        .ok r ↔
      Name.takesArguments (Text.withoutBlanks base) = true ∧
        Name.isUndivided base = true ∧
        r =
          .simple (Text.withoutBlanks base) 0
            (ps.map (Phrase.tree config.rootObject)) := by
  have hKept := kept_sound config.rootObject
  constructor
  · intro hParse
    -- the text may have been stored under a higher limit
    rcases (returns_parse _ hKept interner hSound).2 r
        hParse with
      ⟨limit, hRead⟩
    have hHigher :=
      Signature.read_mono hRead
        (Nat.le_max_left limit config.depthLimit)
    exact (Signature.read_applied_eq_ok_iff hQuestion hLess hSome
      (Nat.lt_of_lt_of_le hInner (Nat.le_max_right _ _))
      hTexts).mp hHigher
  · rintro ⟨hTakes, hUndivided, rfl⟩
    have hRead :
        readText config (Signature.applied base texts) =
          .ok (.simple (Text.withoutBlanks base) 0
            (ps.map (Phrase.tree config.rootObject))) := by
      rw [readText, Signature.read_applied _ hTakes hUndivided
        hSome hInner hTexts]
    exact (gives_parse hKept hRead interner hSound).1

end Interner

end DeclaredApi
