import DeclaredApi.Proofs.Signature.Acceptance

/-
  The lexemes of texts.

  A text has the lexemes of its tokens, the end included.  A
  phrase derives a text when the lexemes of the two are the
  same, so a grammatical phrase is determined by its lexemes,
  and its canonical text has them.

  Main declarations:
    * `Token.HasLexemes`
    * `Token.hasLexemes_text`
    * `Phrase.derives_iff`
    * `Phrase.eq_of_lexemes_eq`
-/

------------------------------------------------------------
-- Lexemes of Texts
------------------------------------------------------------

namespace DeclaredApi

namespace Token

/- The lexemes of a text, closed by the end. -/
def HasLexemes
    (text : String)
    (lexemes : List Lexeme) : Prop :=
  ∃ tokens,
    ofText text = .ok tokens ∧
      tokens.map Token.lexeme = lexemes

variable {text : String}
variable {lexemes : List Lexeme}

/- A text has at most one sequence of lexemes. -/
theorem HasLexemes.unique
    {others : List Lexeme}
    (hLexemes : HasLexemes text lexemes)
    (hOthers : HasLexemes text others) :
    lexemes = others := by
  rcases hLexemes with ⟨tokens, hTokens, rfl⟩
  rcases hOthers with ⟨more, hMore, rfl⟩
  rw [hTokens] at hMore
  rw [Except.ok.inj hMore]

/- The end is put after the lexemes that are scanned. -/
theorem hasLexemes_append_finish_iff :
    HasLexemes text (lexemes ++ [.finish]) ↔
      ∃ tokens,
        scan text = .ok tokens ∧
          tokens.map Token.lexeme = lexemes := by
  unfold HasLexemes ofText
  constructor
  · rintro ⟨all, hAll, hMap⟩
    split at hAll
    · next tokens hScan =>
        rw [← Except.ok.inj hAll, List.map_append] at hMap
        exact ⟨tokens, hScan, List.append_cancel_right hMap⟩
    · cases hAll
  · rintro ⟨tokens, hScan, rfl⟩
    rw [hScan]
    exact ⟨_, rfl, by rw [List.map_append]; rfl⟩

/- The canonical text of a phrase has the lexemes of it. -/
theorem hasLexemes_text
    {p : Phrase}
    (hGrammatical : p.Grammatical) :
    HasLexemes p.text (p.lexemes ++ [.finish]) := by
  have hLexes :=
    spells_of_grammatical hGrammatical [] []
      (fun c hc => by cases hc) (Lexes.nil false)
  rw [List.append_nil, List.append_nil] at hLexes
  exact hasLexemes_append_finish_iff.mpr (hLexes 0)

end Token

end DeclaredApi

------------------------------------------------------------
-- Phrases of Lexemes
------------------------------------------------------------

namespace DeclaredApi

namespace Phrase

variable {p q : Phrase}

/- A phrase derives the texts that have its lexemes. -/
theorem derives_iff
    {limit : Nat}
    {text : String} :
    p.Derives limit text ↔
      Token.HasLexemes text (p.lexemes ++ [.finish]) ∧
        p.Grammatical ∧ p.nesting ≤ limit := by
  rw [Token.hasLexemes_append_finish_iff]
  constructor
  · intro hDerives
    exact ⟨hDerives.lexemes_eq, hDerives.grammatical,
      hDerives.nesting_le⟩
  · rintro ⟨hLexemes, hGrammatical, hNesting⟩
    exact ⟨hLexemes, hGrammatical, hNesting⟩

/- Grammatical phrases with the same lexemes are the same. -/
theorem eq_of_lexemes_eq
    (hP : p.Grammatical)
    (hQ : q.Grammatical)
    (hLexemes : p.lexemes = q.lexemes) :
    p = q := by
  have hText := Token.hasLexemes_text hP
  have hDerivesP : p.Derives (max p.nesting q.nesting) p.text :=
    derives_iff.mpr ⟨hText, hP, Nat.le_max_left _ _⟩
  rw [hLexemes] at hText
  have hDerivesQ : q.Derives (max p.nesting q.nesting) p.text :=
    derives_iff.mpr ⟨hText, hQ, Nat.le_max_right _ _⟩
  exact Signature.derives_unique hDerivesP hDerivesQ

end Phrase

end DeclaredApi
