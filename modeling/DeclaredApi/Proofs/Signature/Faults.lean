import DeclaredApi.Proofs.Signature.Levels
import DeclaredApi.Proofs.Signature.Soundness

/-
  Where readers fail.

  What becomes of some tokens is settled by the tokens that
  are taken and by the lexeme of the next one.  If a value is
  returned, it is returned whatever else follows.  If the
  reading fails, what was taken can still be completed, but
  nothing that goes on with the same lexeme is read; or else
  the depth limit is reached at the first mark beyond it.
  The other tokens are read with a higher limit, so that a
  failure for another reason does not depend on the limit.

  Main declarations:
    * `ParseReason.isTooDeep`
    * `Grammar.Settles`
    * `Grammar.Settles.prepend`
    * `Grammar.Settles.bind`
    * `Grammar.Begins`
    * `Grammar.Begins.inside`
-/

------------------------------------------------------------
-- Settled Results
------------------------------------------------------------

namespace DeclaredApi

/- The reason is the depth limit. -/
def ParseReason.isTooDeep : ParseReason → Bool
| .tooDeep _ => true
| _ => false

namespace Grammar

variable {α : Type}

/-
  A value is returned by each reader of a family wherever the
  tokens that were taken are followed by the same lexeme.
-/
def Returns
    (other : Nat → Reader α)
    (tokens : List Token)
    (a : α)
    (left : List Token) : Prop :=
  ∃ used,
    tokens = used ++ left ∧
      ∀ extra more,
        nextLexeme more = nextLexeme left →
          other extra (used ++ more) = .ok (a, more)

/-
  A token is refused at a position: the lexemes before it are
  viable, and each reader of a family fails wherever they are
  followed by the same lexeme.
-/
def Refuses
    (g : Grammar)
    (viable : List Lexeme → Prop)
    (other : Nat → Reader α)
    (tokens : List Token)
    (position : Nat) : Prop :=
  ∃ used left,
    tokens = used ++ left ∧
      position = g.position left ∧
      viable (used.map Token.lexeme) ∧
      ∀ extra more,
        nextLexeme more = nextLexeme left →
          ∃ e, other extra (used ++ more) = .error e

/-
  A fault of reading some tokens with `depth` more levels: the
  mark that opens the first level beyond the limit, or else a
  token that `other` refuses as well.
-/
def Fails
    (g : Grammar)
    (depth : Nat)
    (viable : List Lexeme → Prop)
    (other : Nat → Reader α)
    (tokens : List Token)
    (fault : ParseFault) : Prop :=
  (fault.reason.isTooDeep = true →
    ∀ level,
      Token.firstTooDeep (level + depth) level tokens =
        some fault.position) ∧
    (fault.reason.isTooDeep = false →
      g.Refuses viable other tokens fault.position)

/- A result is settled, be it a value or a fault. -/
def Settles
    (g : Grammar)
    (depth : Nat)
    (viable : List Lexeme → Prop)
    (other : Nat → Reader α)
    (tokens : List Token) :
    Except ParseFault (α × List Token) → Prop
| .ok taken => Returns other tokens taken.1 taken.2
| .error fault => g.Fails depth viable other tokens fault

/- Some lexemes open no level, and stay within the limit. -/
def KeepsLevel
    (depth : Nat)
    (lexemes : List Lexeme) : Prop :=
  ∀ level,
    Lexeme.levelWithin (level + depth) level lexemes =
      some level

end Grammar

end DeclaredApi

------------------------------------------------------------
-- Rules for Settled Results
------------------------------------------------------------

namespace DeclaredApi

namespace Grammar

variable {α β : Type}
variable {g : Grammar}
variable {depth : Nat}
variable {viable : List Lexeme → Prop}
variable {other : Nat → Reader α}
variable {tokens : List Token}

/- No token is taken. -/
theorem Settles.stay
    {a : α}
    (hOther :
      ∀ extra more,
        nextLexeme more = nextLexeme tokens →
          other extra more = .ok (a, more)) :
    g.Settles depth viable other tokens (.ok (a, tokens)) :=
  ⟨[], rfl, hOther⟩

/- The next token is refused, behind some that were taken. -/
theorem Settles.refuse
    {reason : ParseReason}
    (used : List Token)
    (hReason : reason.isTooDeep = false)
    (hViable : viable (used.map Token.lexeme))
    (hOther :
      ∀ extra more,
        nextLexeme more = nextLexeme tokens →
          ∃ e, other extra (used ++ more) = .error e) :
    g.Settles depth viable other (used ++ tokens)
      (g.refuse reason tokens) := by
  constructor
  · intro hDeep
    rw [hReason] at hDeep
    cases hDeep
  · intro _
    exact ⟨used, tokens, rfl, rfl, hViable, hOther⟩

/- What is viable may be more. -/
theorem Settles.mono
    {viableToo : List Lexeme → Prop}
    {result : Except ParseFault (α × List Token)}
    (hSettles : g.Settles depth viable other tokens result)
    (hViable : ∀ lexemes, viable lexemes → viableToo lexemes) :
    g.Settles depth viableToo other tokens result := by
  cases result with
  | ok taken => exact hSettles
  | error fault =>
      refine ⟨hSettles.1, fun hOther => ?_⟩
      rcases hSettles.2 hOther with
        ⟨used, left, hTokens, hPosition, hUsed, hFails⟩
      exact ⟨used, left, hTokens, hPosition, hViable _ hUsed,
        hFails⟩

/- What follows tokens in front follows them with more. -/
theorem nextLexeme_append_congr
    {left more : List Token}
    (used : List Token)
    (hNext : nextLexeme more = nextLexeme left) :
    nextLexeme (used ++ more) = nextLexeme (used ++ left) := by
  cases used with
  | nil => exact hNext
  | cons t used => rfl

/-
  Tokens are taken before others.  They may open levels, as
  long as the levels that remain are those inside.
-/
theorem Settles.prepend
    {inner : Nat}
    {next : Nat → Reader α}
    {result : Except ParseFault (α × List Token)}
    (used : List Token)
    (hOther :
      ∀ extra more,
        nextLexeme more = nextLexeme tokens →
          other extra (used ++ more) = next extra more)
    (hLevel :
      ∀ level, ∃ opened,
        Lexeme.levelWithin (level + depth) level
              (used.map Token.lexeme) =
            some opened ∧
          opened + inner = level + depth)
    (hSettles :
      g.Settles inner
        (fun lexemes =>
          viable (used.map Token.lexeme ++ lexemes))
        next tokens result) :
    g.Settles depth viable other (used ++ tokens) result := by
  cases result with
  | ok taken =>
      rcases hSettles with ⟨further, hTokens, hReturns⟩
      refine ⟨used ++ further, by rw [hTokens]; simp, ?_⟩
      intro extra more hNext
      rw [List.append_assoc, hOther]
      · exact hReturns extra more hNext
      · rw [hTokens]
        exact nextLexeme_append_congr further hNext
  | error fault =>
      constructor
      · intro hDeep level
        rcases hLevel level with ⟨opened, hUsed, hInner⟩
        rw [Token.firstTooDeep_append tokens hUsed, ← hInner]
        exact hSettles.1 hDeep opened
      · intro hOtherwise
        rcases hSettles.2 hOtherwise with
          ⟨further, left, hTokens, hPosition, hViable, hFails⟩
        refine ⟨used ++ further, left, by rw [hTokens]; simp,
          hPosition, by simpa using hViable, ?_⟩
        intro extra more hNext
        rw [List.append_assoc, hOther]
        · exact hFails extra more hNext
        · rw [hTokens]
          exact nextLexeme_append_congr further hNext

/- Tokens are taken before others that open no level. -/
theorem Settles.after
    {next : Nat → Reader α}
    {result : Except ParseFault (α × List Token)}
    (used : List Token)
    (hOther :
      ∀ extra more,
        nextLexeme more = nextLexeme tokens →
          other extra (used ++ more) = next extra more)
    (hLevel : KeepsLevel depth (used.map Token.lexeme))
    (hSettles :
      g.Settles depth
        (fun lexemes =>
          viable (used.map Token.lexeme ++ lexemes))
        next tokens result) :
    g.Settles depth viable other (used ++ tokens) result :=
  hSettles.prepend used hOther
    fun level => ⟨level, hLevel level, rfl⟩

/- A fault is one of every reader that fails with it. -/
theorem Fails.lift
    {outer : Nat → Reader β}
    {fault : ParseFault}
    (hOuter :
      ∀ extra more e,
        other extra more = .error e →
          ∃ e, outer extra more = .error e)
    (hFails : g.Fails depth viable other tokens fault) :
    g.Fails depth viable outer tokens fault := by
  refine ⟨hFails.1, fun hOther => ?_⟩
  rcases hFails.2 hOther with
    ⟨used, left, hTokens, hPosition, hViable, hRefused⟩
  refine ⟨used, left, hTokens, hPosition, hViable, ?_⟩
  intro extra more hMore
  rcases hRefused extra more hMore with ⟨e, hError⟩
  exact hOuter extra _ e hError

/- A fault of a first step is one of both. -/
theorem Fails.bind
    {fault : ParseFault}
    (next :
      Nat → α × List Token → Except ParseFault (β × List Token))
    (hFails : g.Fails depth viable other tokens fault) :
    g.Fails depth viable
      (fun extra more => other extra more >>= next extra)
      tokens fault := by
  apply hFails.lift
  intro extra more e hError
  exact ⟨e, by rw [hError]; rfl⟩

/-
  Two steps settle if the first does and the second does on
  what the first leaves.
-/
theorem Settles.bind
    {first : Except ParseFault (α × List Token)}
    {step :
      α × List Token → Except ParseFault (β × List Token)}
    {next :
      Nat → α × List Token → Except ParseFault (β × List Token)}
    (hFirst : g.Settles depth viable other tokens first)
    (hNext :
      ∀ a left,
        first = .ok (a, left) →
          ∃ lexemes,
            Consumes lexemes tokens left ∧
              KeepsLevel depth lexemes ∧
              g.Settles depth
                (fun more => viable (lexemes ++ more))
                (fun extra more => next extra (a, more)) left
                (step (a, left))) :
    g.Settles depth viable
      (fun extra more => other extra more >>= next extra)
      tokens (first >>= step) := by
  cases first with
  | ok taken =>
      rcases taken with ⟨a, left⟩
      rcases hNext a left rfl with
        ⟨lexemes, hConsumes, hLevel, hSettles⟩
      rcases hFirst with ⟨used, rfl, hReturns⟩
      rcases hConsumes with ⟨front, rfl, hFront⟩
      cases List.append_cancel_right hFront
      refine hSettles.after used ?_ hLevel
      intro extra more hMore
      rw [hReturns extra more hMore]
      rfl
  | error fault => exact Fails.bind next hFirst

/- What is put together last takes no token. -/
theorem Settles.map
    {first : Except ParseFault (α × List Token)}
    (f : α → β)
    (hFirst : g.Settles depth viable other tokens first) :
    g.Settles depth viable
      (fun extra more => other extra more >>= fun taken =>
        pure (f taken.1, taken.2))
      tokens
      (first >>= fun taken => pure (f taken.1, taken.2)) := by
  cases first with
  | ok taken =>
      rcases hFirst with ⟨used, hTokens, hReturns⟩
      refine ⟨used, hTokens, ?_⟩
      intro extra more hMore
      dsimp only
      rw [hReturns extra more hMore]
      rfl
  | error fault => exact Fails.bind _ hFirst

end Grammar

end DeclaredApi

------------------------------------------------------------
-- Completions
------------------------------------------------------------

namespace DeclaredApi

namespace Grammar

/- Some lexemes can be completed to a sequence of a kind. -/
def Begins
    (goal : List Lexeme → Prop)
    (lexemes : List Lexeme) : Prop :=
  ∃ more, goal (lexemes ++ more)

variable {goal whole : List Lexeme → Prop}

/- A sequence of the kind needs no completion. -/
theorem Begins.of
    {lexemes : List Lexeme}
    (hGoal : goal lexemes) :
    Begins goal lexemes :=
  ⟨[], by rwa [List.append_nil]⟩

/-
  What begins a part begins the whole, behind what stands in
  front of the part.
-/
theorem Begins.inside
    (front : List Lexeme)
    (hPart :
      ∀ part, goal part → Begins whole (front ++ part)) :
    ∀ lexemes,
      Begins goal lexemes → Begins whole (front ++ lexemes) := by
  rintro lexemes ⟨more, hGoal⟩
  rcases hPart _ hGoal with ⟨rest, hWhole⟩
  exact ⟨more ++ rest, by simpa using hWhole⟩

end Grammar

end DeclaredApi
