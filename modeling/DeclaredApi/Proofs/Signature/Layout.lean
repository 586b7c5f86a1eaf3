import DeclaredApi.Proofs.Signature.Bases
import DeclaredApi.Proofs.Signature.FaultPosition
import DeclaredApi.Proofs.Signature.WholeWords
import Mathlib.Data.List.Chain

/-
  The layout of tokens in a text.

  A text is laid out as blanks, symbols and words that do not
  go on, up to its end.  Scanning succeeds exactly with the
  tokens of such a layout, and these are the tokens that stand
  at their positions in the text, one after the other, with
  nothing but blanks in between.

  Main declarations:
    * `Token.LaidOut`
    * `Token.ofText_eq_ok_iff_laidOut`
    * `Token.Tokenizes`
    * `Token.LaidOut.tokenizes`
    * `Token.Tokenizes.laidOut`
    * `Token.ofText_eq_error_iff`
    * `Token.ofText_accounts_for_text`
-/

------------------------------------------------------------
-- Layouts
------------------------------------------------------------

namespace DeclaredApi

namespace Token

/-
  Characters from an offset on are laid out as tokens, the
  end included.
-/
inductive LaidOut : Nat → List Char → List Token → Prop
| finish
    {offset : Nat} :
    LaidOut offset [] [⟨.finish, offset⟩]
| blank
    {offset : Nat}
    {c : Char}
    {cs : List Char}
    {tokens : List Token}
    (hBlank : Text.isBlank c = true)
    (hRest : LaidOut (offset + 1) cs tokens) :
    LaidOut offset (c :: cs) tokens
| symbol
    {offset : Nat}
    {s : Symbol}
    {cs : List Char}
    {tokens : List Token}
    (hRest : LaidOut (offset + 1) cs tokens) :
    LaidOut offset (s.char :: cs)
      (⟨.symbol s, offset⟩ :: tokens)
| word
    {offset : Nat}
    {w : String}
    {cs : List Char}
    {tokens : List Token}
    (hWord : Name.isWord w.toList = true)
    (hEnd : EndsWord cs)
    (hRest : LaidOut (offset + w.length) cs tokens) :
    LaidOut offset (w.toList ++ cs)
      (⟨.word w, offset⟩ :: tokens)

variable {offset : Nat}
variable {cs : List Char}
variable {tokens : List Token}

/- Blanks are laid out in front of anything. -/
theorem LaidOut.skip
    {gap : List Char}
    (hGap : ∀ c ∈ gap, Text.isBlank c = true)
    (hRest : LaidOut (offset + gap.length) cs tokens) :
    LaidOut offset (gap ++ cs) tokens := by
  induction gap generalizing offset with
  | nil => exact hRest
  | cons c gap ih =>
      rw [List.forall_mem_cons] at hGap
      apply LaidOut.blank hGap.1
      apply ih hGap.2
      rw [List.length_cons, Nat.add_comm gap.length,
        ← Nat.add_assoc] at hRest
      exact hRest

/-
  What is scanned is laid out.  A word takes more than one
  character at a time, so the induction is on the length.
-/
theorem laidOut_of_scanFrom
    {stop : Nat}
    (hStop : offset + cs.length = stop)
    (hScan : scanFrom false offset cs = .ok tokens) :
    LaidOut offset cs (tokens ++ [⟨.finish, stop⟩]) := by
  induction hLength : cs.length using Nat.strong_induction_on
    generalizing offset cs tokens with
  | _ length ih =>
      cases cs with
      | nil =>
          cases hScan
          cases hStop
          exact .finish
      | cons c cs =>
          rw [List.length_cons] at hStop hLength
          rcases scanFrom_cons_cases hScan with
            ⟨hIn, _⟩ | ⟨_, hStart, others, hOthers, rfl⟩ |
              ⟨hBlank, hRest⟩ | ⟨s, others, hSymbol, hOthers, rfl⟩
          · cases hIn
          · rw [scanFrom_inWord] at hOthers
            generalize hPart : cs.takeWhile Name.isWordPart = part
              at hOthers ⊢
            generalize hRest : cs.dropWhile Name.isWordPart = rest
              at hOthers
            have hSplit : cs = part ++ rest := by
              rw [← hPart, ← hRest, List.takeWhile_append_dropWhile]
            have hSum := congrArg List.length hSplit
            rw [List.length_append] at hSum
            have hLaid :=
              ih rest.length (by omega) (by omega) hOthers rfl
            have hWord :
                LaidOut offset
                  ((String.ofList (c :: part)).toList ++ rest)
                  (⟨.word (String.ofList (c :: part)), offset⟩ ::
                    (others ++ [⟨.finish, stop⟩])) := by
              apply LaidOut.word
              · rw [String.toList_ofList, Name.isWord, hStart,
                  Bool.true_and, List.all_eq_true, ← hPart]
                exact fun d hd => List.mem_takeWhile_imp hd
              · rw [← hRest]
                exact endsWord_dropWhile cs
              · rw [String.length_ofList, List.length_cons,
                  Nat.add_comm part.length, ← Nat.add_assoc]
                exact hLaid
            rwa [String.toList_ofList, List.cons_append,
              ← hSplit] at hWord
          · exact .blank hBlank
              (ih cs.length (by omega) (by omega) hRest rfl)
          · rw [← char_of_ofChar? hSymbol]
            exact .symbol
              (ih cs.length (by omega) (by omega) hOthers rfl)

/- And what is laid out is scanned. -/
theorem LaidOut.exists_scanFrom
    (hLaid : LaidOut offset cs tokens) :
    ∃ others,
      scanFrom false offset cs = .ok others ∧
        tokens = others ++ [⟨.finish, offset + cs.length⟩] := by
  induction hLaid with
  | finish => exact ⟨[], rfl, rfl⟩
  | blank hBlank _ ih =>
      rcases ih with ⟨others, hScan, rfl⟩
      refine ⟨others, ?_, ?_⟩
      · simp [scanFrom, Name.isWordStart_of_isBlank hBlank,
          hBlank, hScan]
      · rw [List.length_cons, Nat.add_assoc, Nat.add_comm 1]
  | @symbol _ s _ _ _ ih =>
      rcases ih with ⟨others, hScan, rfl⟩
      refine ⟨_, scanFrom_symbol s hScan, ?_⟩
      rw [List.cons_append, List.length_cons, Nat.add_assoc,
        Nat.add_comm 1]
  | word hWord hEnd _ ih =>
      rcases ih with ⟨others, hScan, rfl⟩
      refine ⟨_, scanFrom_word hWord hEnd hScan, ?_⟩
      rw [List.cons_append, List.length_append,
        String.length_toList, Nat.add_assoc]

variable {text : String}

/- The tokens of a text are those that it is laid out as. -/
theorem ofText_eq_ok_iff_laidOut :
    ofText text = .ok tokens ↔
      LaidOut 0 text.toList tokens := by
  rw [ofText, scan]
  constructor
  · intro hText
    split at hText
    · next others hScan =>
        cases hText
        exact laidOut_of_scanFrom
          (by rw [Nat.zero_add, String.length_toList]) hScan
    · cases hText
  · intro hLaid
    rcases hLaid.exists_scanFrom with ⟨others, hScan, rfl⟩
    rw [hScan, Nat.zero_add, String.length_toList]

end Token

end DeclaredApi

------------------------------------------------------------
-- Tokens in Their Places
------------------------------------------------------------

namespace DeclaredApi

namespace Token

/- The offset behind the text of a token. -/
def stop (t : Token) : Nat :=
  t.position + t.lexeme.text.length

/- A symbol is written as one character. -/
theorem stop_symbol
    (s : Symbol)
    (position : Nat) :
    stop ⟨.symbol s, position⟩ = position + 1 := by
  simp [stop, Lexeme.text]

/-
  The text of a token stands at its position, and a word there
  is a whole one, which no character of words follows.
-/
def WrittenIn
    (t : Token)
    (cs : List Char) : Prop :=
  ∃ front rest,
    cs = front ++ (t.lexeme.text.toList ++ rest) ∧
      front.length = t.position ∧
      ∀ w,
        t.lexeme = .word w →
          WholeWord front w.toList rest ∧ EndsWord rest

/- From one offset to another there are only blanks. -/
def BlankBetween
    (cs : List Char)
    (start stop : Nat) : Prop :=
  ∃ front gap rest,
    cs = front ++ (gap ++ rest) ∧
      front.length = start ∧
      start + gap.length = stop ∧
      ∀ c ∈ gap, Text.isBlank c = true

/-
  Tokens account for some characters from an offset on.  They
  are written at increasing positions, with only blanks before
  the first and between any two in a row, and the end is the
  last of them and no other.
-/
structure Tokenizes
    (cs : List Char)
    (start : Nat)
    (tokens : List Token) : Prop where
  increasing :
    tokens.Pairwise (fun t u => t.position < u.position)
  written : ∀ t ∈ tokens, t.WrittenIn cs
  blankBefore :
    ∀ t ∈ tokens.head?, BlankBetween cs start t.position
  blankBetween :
    tokens.IsChain
      (fun t u => BlankBetween cs t.stop u.position)
  closed :
    ∃ others,
      tokens = others ++ [⟨.finish, cs.length⟩] ∧
        ∀ t ∈ others, t.lexeme ≠ .finish

variable {t : Token}
variable {front cs : List Char}
variable {start offset : Nat}
variable {tokens : List Token}

/- Tokens other than the end have a text. -/
theorem WrittenIn.position_lt_stop
    (hWritten : t.WrittenIn cs)
    (hOpen : t.lexeme ≠ .finish) :
    t.position < t.stop := by
  rcases t with ⟨lexeme, position⟩
  rcases hWritten with ⟨before, rest, _, _, hWhole⟩
  cases lexeme with
  | word w =>
      have hNonempty :=
        Name.ne_nil_of_isWord (hWhole w rfl).1.isWord
      have hPositive := List.length_pos_of_ne_nil hNonempty
      rw [String.length_toList] at hPositive
      exact Nat.lt_add_of_pos_right hPositive
  | symbol s =>
      rw [stop_symbol]
      exact Nat.lt_succ_self position
  | finish => exact absurd rfl hOpen

theorem BlankBetween.le
    {stop : Nat}
    (hBlank : BlankBetween cs start stop) :
    start ≤ stop := by
  rcases hBlank with ⟨_, gap, _, _, _, hStop, _⟩
  omega

/- No token stands before the start. -/
theorem Tokenizes.start_le
    (hTokens : Tokenizes cs start tokens) :
    ∀ t ∈ tokens, start ≤ t.position := by
  cases tokens with
  | nil => simp
  | cons t ts =>
      have hFirst := (hTokens.blankBefore t rfl).le
      rw [List.forall_mem_cons]
      refine ⟨hFirst, fun u hu => Nat.le_trans hFirst ?_⟩
      exact Nat.le_of_lt
        (List.rel_of_pairwise_cons hTokens.increasing hu)

/- The end alone accounts for no characters. -/
theorem tokenizes_finish
    (cs : List Char) :
    Tokenizes cs cs.length [⟨.finish, cs.length⟩] where
  increasing := List.pairwise_singleton _ _
  written := by
    rw [List.forall_mem_singleton]
    exact ⟨cs, [], by simp [Lexeme.text], rfl,
      fun w hWord => by cases hWord⟩
  blankBefore := by
    rintro t ⟨⟩
    exact ⟨cs, [], [], by simp, rfl, rfl, by simp⟩
  blankBetween := List.isChain_singleton _
  closed := ⟨[], rfl, by simp⟩

/- A blank may stand before the first token. -/
theorem Tokenizes.blank
    {c : Char}
    (hBlank : Text.isBlank c = true)
    (hRest : Tokenizes (front ++ c :: cs) (front.length + 1) tokens) :
    Tokenizes (front ++ c :: cs) front.length tokens where
  increasing := hRest.increasing
  written := hRest.written
  blankBefore := by
    intro t ht
    rcases hRest.blankBefore t ht with
      ⟨before, gap, rest, hEq, hStart, hStop, hGap⟩
    have hSplit : front ++ [c] = before ∧ cs = gap ++ rest := by
      apply List.append_inj
      · rw [← hEq, List.append_assoc, List.singleton_append]
      · rw [List.length_append, hStart, List.length_singleton]
    refine ⟨front, c :: gap, rest, ?_, rfl, ?_,
      List.forall_mem_cons.mpr ⟨hBlank, hGap⟩⟩
    · rw [hSplit.2, List.cons_append]
    · rw [List.length_cons]
      omega
  blankBetween := hRest.blankBetween
  closed := hRest.closed

/- A token stands before the others. -/
theorem Tokenizes.cons
    (hWritten : t.WrittenIn cs)
    (hOpen : t.lexeme ≠ .finish)
    (hRest : Tokenizes cs t.stop tokens) :
    Tokenizes cs t.position (t :: tokens) where
  increasing := by
    rw [List.pairwise_cons]
    refine ⟨fun u hu => ?_, hRest.increasing⟩
    exact Nat.lt_of_lt_of_le (hWritten.position_lt_stop hOpen)
      (hRest.start_le u hu)
  written := List.forall_mem_cons.mpr ⟨hWritten, hRest.written⟩
  blankBefore := by
    rintro u ⟨⟩
    rcases hWritten with ⟨front, rest, hEq, hPosition, _⟩
    exact ⟨front, [], _, hEq, hPosition, rfl, by simp⟩
  blankBetween :=
    List.isChain_cons.mpr ⟨hRest.blankBefore, hRest.blankBetween⟩
  closed := by
    rcases hRest.closed with ⟨others, rfl, hOthers⟩
    exact ⟨t :: others, rfl,
      List.forall_mem_cons.mpr ⟨hOpen, hOthers⟩⟩

end Token

end DeclaredApi

------------------------------------------------------------
-- Layouts and Places
------------------------------------------------------------

namespace DeclaredApi

namespace Token

variable {front cs : List Char}
variable {offset : Nat}
variable {tokens : List Token}

/-
  The tokens of a layout stand in their places, whatever is in
  front, unless a word there goes on.
-/
theorem LaidOut.tokenizes
    (hLaid : LaidOut offset cs tokens)
    (hOffset : front.length = offset)
    (hEdge : EndsInWord front → EndsWord cs) :
    Tokenizes (front ++ cs) offset tokens := by
  induction hLaid generalizing front with
  | finish =>
      rw [← hOffset, List.append_nil]
      exact tokenizes_finish front
  | @blank offset c cs tokens hBlank _ ih =>
      have hPart := Name.isWordPart_of_isBlank hBlank
      have hRest :
          Tokenizes (front ++ [c] ++ cs) (offset + 1) tokens :=
        ih (by rw [List.length_append, hOffset]; rfl)
          (fun hEnds => absurd hEnds (not_endsInWord_append hPart))
      rw [List.append_assoc, List.singleton_append] at hRest
      subst hOffset
      exact hRest.blank hBlank
  | @symbol offset s cs tokens _ ih =>
      have hPart : Name.isWordPart s.char = false := by
        cases s <;> decide
      have hRest :
          Tokenizes (front ++ [s.char] ++ cs) (offset + 1)
            tokens :=
        ih (by rw [List.length_append, hOffset]; rfl)
          (fun hEnds => absurd hEnds (not_endsInWord_append hPart))
      rw [List.append_assoc, List.singleton_append] at hRest
      rw [← stop_symbol s offset] at hRest
      have hWritten :
          WrittenIn ⟨.symbol s, offset⟩ (front ++ s.char :: cs) :=
        ⟨front, cs, by simp [Lexeme.text], hOffset,
          fun w hWord => by cases hWord⟩
      exact Tokenizes.cons hWritten (by simp) hRest
  | @word offset w cs tokens hWord hEnd _ ih =>
      have hStarts : ¬ EndsInWord front := by
        intro hEnds
        have hNonempty := Name.ne_nil_of_isWord hWord
        rcases List.exists_cons_of_ne_nil hNonempty with
          ⟨c, part, hChars⟩
        have hPart :=
          Name.isWordPart_of_mem (c := c) hWord (by simp [hChars])
        rw [hEdge hEnds c (by simp [hChars])] at hPart
        cases hPart
      have hRest :
          Tokenizes (front ++ w.toList ++ cs)
            (offset + w.length) tokens :=
        ih (by rw [List.length_append, hOffset,
          String.length_toList]) (fun _ => hEnd)
      rw [List.append_assoc] at hRest
      have hWritten :
          WrittenIn ⟨.word w, offset⟩
            (front ++ (w.toList ++ cs)) := by
        refine ⟨front, cs, rfl, hOffset, ?_⟩
        intro v hText
        cases hText
        exact ⟨wholeWord_iff.mpr ⟨hWord, hStarts, hEnd⟩, hEnd⟩
      exact Tokenizes.cons hWritten (by simp) hRest

/- The tokens after the first one stand in their places. -/
theorem Tokenizes.tail
    {t : Token}
    (hTokens : Tokenizes cs offset (t :: tokens))
    (hOpen : t.lexeme ≠ .finish) :
    Tokenizes cs t.stop tokens where
  increasing := hTokens.increasing.of_cons
  written := (List.forall_mem_cons.mp hTokens.written).2
  blankBefore := (List.isChain_cons.mp hTokens.blankBetween).1
  blankBetween := (List.isChain_cons.mp hTokens.blankBetween).2
  closed := by
    rcases hTokens.closed with ⟨others, hEq, hOthers⟩
    cases others with
    | nil =>
        cases hEq
        exact absurd rfl hOpen
    | cons u others =>
        cases hEq
        exact ⟨others, rfl, (List.forall_mem_cons.mp hOthers).2⟩

/- Nothing stands behind the end. -/
theorem Tokenizes.eq_finish
    {t : Token}
    (hTokens : Tokenizes cs offset (t :: tokens))
    (hFinish : t.lexeme = .finish) :
    t = ⟨.finish, cs.length⟩ ∧ tokens = [] := by
  rcases hTokens.closed with ⟨others, hEq, hOthers⟩
  cases others with
  | nil =>
      cases hEq
      exact ⟨rfl, rfl⟩
  | cons u others =>
      cases hEq
      exact absurd hFinish (hOthers t List.mem_cons_self)

/-
  Tokens in their places are those of a layout.  The tokens
  after the first one start where it stops, so the induction
  is on the tokens, with all that is passed in front.
-/
theorem Tokenizes.laidOut
    (hTokens : Tokenizes (front ++ cs) front.length tokens) :
    LaidOut front.length cs tokens := by
  induction tokens generalizing front cs with
  | nil =>
      rcases hTokens.closed with ⟨others, hEq, _⟩
      simp at hEq
  | cons t ts ih =>
      rcases hTokens.blankBefore t rfl with
        ⟨passed, gap, rest, hEq, hStart, hStop, hGap⟩
      rcases List.append_inj hEq hStart.symm with ⟨rfl, rfl⟩
      apply LaidOut.skip hGap
      rw [hStop]
      rcases hTokens.written t List.mem_cons_self with
        ⟨before, after, hWritten, hPosition, hWhole⟩
      have hHere :
          front ++ gap = before ∧
            rest = t.lexeme.text.toList ++ after := by
        apply List.append_inj
        · rw [List.append_assoc, hWritten]
        · rw [List.length_append, hStop, hPosition]
      rcases hHere with ⟨rfl, rfl⟩
      have hRest :
          t.lexeme ≠ .finish → LaidOut t.stop after ts := by
        intro hOpen
        have hTail := hTokens.tail hOpen
        have hLength :
            (front ++ gap ++ t.lexeme.text.toList).length =
              t.stop := by
          rw [List.length_append, hPosition, String.length_toList,
            stop]
        rw [hWritten, ← List.append_assoc, ← hLength] at hTail
        rw [← hLength]
        exact ih hTail
      rcases t with ⟨lexeme, position⟩
      cases lexeme with
      | word w =>
          have hWord := (hWhole w rfl).1.isWord
          exact .word hWord (hWhole w rfl).2
            (hRest (by simp))
      | symbol s =>
          have hOthers := hRest (by simp)
          rw [stop_symbol] at hOthers
          have hSymbol :
              (Lexeme.symbol s).text.toList ++ after =
                s.char :: after := by
            simp [Lexeme.text]
          rw [hSymbol]
          exact .symbol hOthers
      | finish =>
          rcases hTokens.eq_finish rfl with ⟨hLast, rfl⟩
          -- the end stands where the text stops
          have hNone : after = [] := by
            have hAll := congrArg Token.position hLast
            simp only [List.length_append] at hAll hPosition
            exact List.eq_nil_of_length_eq_zero (by omega)
          rw [hNone]
          exact .finish

variable {text : String}

/-
  The tokens of a text are exactly those that account for all
  of it.
-/
theorem ofText_eq_ok_iff :
    ofText text = .ok tokens ↔
      Tokenizes text.toList 0 tokens := by
  rw [ofText_eq_ok_iff_laidOut]
  constructor
  · intro hLaid
    have hEdge : EndsInWord [] → EndsWord text.toList :=
      fun hEnds => absurd hEnds not_endsInWord_nil
    exact hLaid.tokenizes rfl hEdge
  · intro hTokens
    have hLaid : LaidOut [].length text.toList tokens :=
      hTokens.laidOut
    exact hLaid

end Token

end DeclaredApi

------------------------------------------------------------
-- Accounts of Texts
------------------------------------------------------------

namespace DeclaredApi

namespace Token

variable {text : String}

/- A text has tokens if no character is out of place. -/
theorem exists_ofText_iff :
    (∃ tokens, ofText text = .ok tokens) ↔
      ∀ offset, ¬ OutOfPlace text.toList offset := by
  simp only [outOfPlace_iff_strayAt]
  cases hScan : scan text with
  | ok tokens =>
      exact iff_of_true ⟨_, ofText_of_scan hScan⟩
        (not_strayAt_of_scan hScan)
  | error stray =>
      apply iff_of_false
      · rintro ⟨tokens, hText⟩
        rw [ofText, hScan] at hText
        cases hText
      · exact fun hNone =>
          hNone _ (strayAt_of_scan hScan).1

/- An error reports the first character out of place. -/
theorem firstOutOfPlace_of_ofText
    {stray : Stray}
    (hText : ofText text = .error stray) :
    OutOfPlace text.toList stray.position ∧
      text.toList[stray.position]? = some stray.char ∧
      ∀ offset < stray.position,
        ¬ OutOfPlace text.toList offset := by
  simp only [outOfPlace_iff_strayAt]
  cases hScan : scan text with
  | ok tokens =>
      rw [ofText, hScan] at hText
      cases hText
  | error found =>
      rw [ofText, hScan] at hText
      cases hText
      have hFirst := strayAt_of_scan hScan
      have hFinds := finds_scan text
      rw [hScan] at hFinds
      rcases hFinds with ⟨inside, after, hEq, hPosition, _⟩
      rw [List.length_nil, Nat.zero_add] at hPosition
      refine ⟨hFirst.1, ?_, hFirst.2⟩
      rw [hEq, hPosition]
      simp

/- And the first one is always reported. -/
theorem ofText_eq_error_iff
    {stray : Stray} :
    ofText text = .error stray ↔
      OutOfPlace text.toList stray.position ∧
        text.toList[stray.position]? = some stray.char ∧
        ∀ offset < stray.position,
          ¬ OutOfPlace text.toList offset := by
  refine ⟨firstOutOfPlace_of_ofText, ?_⟩
  rintro ⟨hHere, hChar, hEarlier⟩
  cases hText : ofText text with
  | ok tokens =>
      exact absurd hHere
        (exists_ofText_iff.mp ⟨tokens, hText⟩ _)
  | error found =>
      rcases firstOutOfPlace_of_ofText hText with
        ⟨hFound, hFoundChar, hNone⟩
      have hPosition : found.position = stray.position := by
        apply Nat.le_antisymm
        · exact Nat.le_of_not_lt fun hLt => hNone _ hLt hHere
        · exact Nat.le_of_not_lt fun hLt => hEarlier _ hLt hFound
      rw [hPosition, hChar] at hFoundChar
      rcases found with ⟨position, c⟩
      cases hPosition
      cases hFoundChar
      rfl

/-
  Scanning accounts for the whole text.  A text has tokens
  exactly if every character outside of whole words is a blank
  or a symbol, and otherwise the first other character is
  reported.  Its tokens are exactly those that are written at
  increasing positions, a word as a whole one, with nothing
  but blanks around them and the end behind the text.
-/
theorem ofText_accounts_for_text
    (text : String) :
    ((∃ tokens, ofText text = .ok tokens) ↔
        ∀ offset, ¬ OutOfPlace text.toList offset) ∧
      (∀ stray,
        ofText text = .error stray ↔
          OutOfPlace text.toList stray.position ∧
            text.toList[stray.position]? = some stray.char ∧
            ∀ offset < stray.position,
              ¬ OutOfPlace text.toList offset) ∧
      ∀ tokens,
        ofText text = .ok tokens ↔
          Tokenizes text.toList 0 tokens :=
  ⟨exists_ofText_iff, fun _ => ofText_eq_error_iff,
    fun _ => ofText_eq_ok_iff⟩

/-
  A digit is part of a word that starts before it and out of
  place after a blank.
-/
theorem ofText_accounts_for_text_digits :
    Tokenizes " a1.$b<\t?>".toList 0
        [⟨.word "a1", 1⟩, ⟨.symbol .dot, 3⟩, ⟨.word "$b", 4⟩,
          ⟨.symbol .less, 6⟩, ⟨.symbol .question, 8⟩,
          ⟨.symbol .greater, 9⟩, ⟨.finish, 10⟩] ∧
      OutOfPlace "a1 2b".toList 3 ∧
        ∀ offset < 3, ¬ OutOfPlace "a1 2b".toList offset := by
  have hTokens :
      ofText " a1.$b<\t?>" =
        .ok
          [⟨.word "a1", 1⟩, ⟨.symbol .dot, 3⟩, ⟨.word "$b", 4⟩,
            ⟨.symbol .less, 6⟩, ⟨.symbol .question, 8⟩,
            ⟨.symbol .greater, 9⟩, ⟨.finish, 10⟩] := by
    decide +kernel
  have hStray : ofText "a1 2b" = .error ⟨3, '2'⟩ := by
    decide +kernel
  rcases (ofText_accounts_for_text "a1 2b").2.1 _ |>.mp hStray with
    ⟨hHere, _, hEarlier⟩
  exact ⟨((ofText_accounts_for_text _).2.2 _).mp hTokens, hHere,
    hEarlier⟩

end Token

end DeclaredApi
