import DeclaredApi.Proofs.Name.Blanks
import DeclaredApi.Proofs.Signature.Lexemes

/-
  Stray characters.

  A character is stray if it neither starts a token, nor goes
  on with the identifier before it, nor is a blank.  A text is
  scanned exactly if it has no stray character, and otherwise
  the first one is reported.

  Main declarations:
    * `Token.EndsInWord`
    * `Token.IsStray`
    * `Token.StrayAt`
    * `Token.scanFrom_spec`
    * `Token.not_strayAt_of_scan`
    * `Token.strayAt_of_scan`
    * `Token.scan_of_blank`
-/

------------------------------------------------------------
-- Symbols and Words
------------------------------------------------------------

namespace DeclaredApi

/- No symbol belongs to a word. -/
theorem Name.isWordPart_of_symbol
    {c : Char}
    {s : Symbol}
    (hSymbol : Symbol.ofChar? c = some s) :
    Name.isWordPart c = false := by
  rw [← Token.char_of_ofChar? hSymbol]
  cases s <;> decide

end DeclaredApi

------------------------------------------------------------
-- Stray Characters
------------------------------------------------------------

namespace DeclaredApi

namespace Token

/- Some characters end with an identifier. -/
def EndsInWord (before : List Char) : Prop :=
  ∃ word, word <:+ before ∧ Name.isWord word = true

/-
  A character that neither starts a token, nor is a blank,
  nor goes on with the identifier before it.
-/
structure IsStray
    (before : List Char)
    (c : Char) : Prop where
  startsNoWord : Name.isWordStart c = false
  isNoSymbol : Symbol.ofChar? c = none
  isNoBlank : Text.isBlank c = false
  continuesNoWord :
    ¬ (EndsInWord before ∧ Name.isWordPart c = true)

/- There is a stray character at an offset. -/
def StrayAt
    (cs : List Char)
    (offset : Nat) : Prop :=
  ∃ before c after,
    cs = before ++ c :: after ∧
      before.length = offset ∧ IsStray before c

/- None of some characters is stray after others. -/
def Clean
    (before cs : List Char) : Prop :=
  ∀ inside c after,
    cs = inside ++ c :: after → ¬ IsStray (before ++ inside) c

variable {before cs : List Char}
variable {c : Char}

theorem clean_nil
    (before : List Char) :
    Clean before [] := by
  intro inside c after hEq
  cases inside <;> cases hEq

theorem clean_cons_iff :
    Clean before (c :: cs) ↔
      ¬ IsStray before c ∧ Clean (before ++ [c]) cs := by
  constructor
  · intro hClean
    constructor
    · simpa using hClean [] c cs rfl
    · intro inside d after hEq
      have hHere := hClean (c :: inside) d after (by rw [hEq]; rfl)
      simpa using hHere
  · rintro ⟨hHead, hTail⟩ inside d after hEq
    cases inside with
    | nil =>
        cases hEq
        simpa using hHead
    | cons e inside =>
        cases hEq
        have hHere := hTail inside d after rfl
        simpa using hHere

end Token

end DeclaredApi

------------------------------------------------------------
-- Identifiers at the End
------------------------------------------------------------

namespace DeclaredApi

namespace Token

variable {before : List Char}
variable {c : Char}

theorem not_endsInWord_nil :
    ¬ EndsInWord [] := by
  rintro ⟨word, hSuffix, hWord⟩
  exact Name.ne_nil_of_isWord hWord (List.suffix_nil.mp hSuffix)

/- The last character starts an identifier or goes on. -/
theorem endsInWord_append_iff :
    EndsInWord (before ++ [c]) ↔
      Name.isWordStart c = true ∨
        (EndsInWord before ∧ Name.isWordPart c = true) := by
  constructor
  · rintro ⟨word, ⟨front, hEq⟩, hWord⟩
    rcases List.eq_nil_or_concat word with rfl | ⟨part, d, rfl⟩
    · cases hWord
    · rw [List.concat_eq_append] at hEq hWord
      rw [← List.append_assoc] at hEq
      rcases List.append_inj' hEq rfl with ⟨rfl, hLast⟩
      cases hLast
      cases part with
      | nil =>
          left
          simpa [Name.isWord] using hWord
      | cons e part =>
          rw [Name.isWord_append_iff (List.cons_ne_nil e part)]
            at hWord
          exact Or.inr
            ⟨⟨e :: part, List.suffix_append front _, hWord.1⟩,
              hWord.2 c (List.mem_singleton_self c)⟩
  · rintro (hStart | ⟨⟨word, ⟨front, rfl⟩, hWord⟩, hPart⟩)
    · exact ⟨[c], List.suffix_append before [c],
        by simp [Name.isWord, hStart]⟩
    · refine ⟨word ++ [c], ⟨front, by simp⟩, ?_⟩
      rw [Name.isWord_append_iff (Name.ne_nil_of_isWord hWord)]
      exact ⟨hWord, by simpa using hPart⟩

/- An identifier goes on. -/
theorem EndsInWord.append
    (hEnds : EndsInWord before)
    (hPart : Name.isWordPart c = true) :
    EndsInWord (before ++ [c]) :=
  endsInWord_append_iff.mpr (Or.inr ⟨hEnds, hPart⟩)

/- An identifier starts. -/
theorem endsInWord_append_start
    (before : List Char)
    (hStart : Name.isWordStart c = true) :
    EndsInWord (before ++ [c]) :=
  endsInWord_append_iff.mpr (Or.inl hStart)

/- Other characters end no identifier. -/
theorem not_endsInWord_append
    (hPart : Name.isWordPart c = false) :
    ¬ EndsInWord (before ++ [c]) := by
  rw [endsInWord_append_iff]
  rintro (hStart | ⟨_, hGoesOn⟩)
  · rw [Name.isWordPart_of_isWordStart hStart] at hPart
    cases hPart
  · rw [hGoesOn] at hPart
    cases hPart

end Token

end DeclaredApi

------------------------------------------------------------
-- Scanning
------------------------------------------------------------

namespace DeclaredApi

namespace Token

variable {before cs : List Char}
variable {inWord : Bool}

/-
  What scanning some characters after others finds: no stray
  character, or the first one.
-/
def Finds
    (before cs : List Char) :
    Except Stray (List Token) → Prop
| .ok _ => Clean before cs
| .error stray =>
    ∃ inside after,
      cs = inside ++ stray.char :: after ∧
        stray.position = before.length + inside.length ∧
        Clean before inside ∧
        IsStray (before ++ inside) stray.char

/- A token in front changes nothing of what is found. -/
theorem finds_before_iff
    {token : Token}
    {result : Except Stray (List Token)} :
    Finds before cs (Token.before token result) ↔
      Finds before cs result := by
  cases result <;> rfl

/- A character that is not stray is passed over. -/
theorem Finds.cons
    {c : Char}
    {result : Except Stray (List Token)}
    (hHead : ¬ IsStray before c)
    (hFinds : Finds (before ++ [c]) cs result) :
    Finds before (c :: cs) result := by
  cases result with
  | ok tokens => exact clean_cons_iff.mpr ⟨hHead, hFinds⟩
  | error stray =>
      rcases hFinds with
        ⟨inside, after, rfl, hPosition, hClean, hStray⟩
      refine ⟨c :: inside, after, rfl, ?_,
        clean_cons_iff.mpr ⟨hHead, hClean⟩, ?_⟩
      · rw [hPosition, List.length_append, List.length_cons,
          List.length_cons, List.length_nil]
        omega
      · simpa using hStray

/-
  Scanning finds the first stray character.  The flag tells
  whether an identifier goes on; as it is set exactly after
  an identifier, what it lets pass is what goes on with one.
-/
theorem scanFrom_spec
    (hFlag : inWord = true ↔ EndsInWord before) :
    Finds before cs (scanFrom inWord before.length cs) := by
  induction cs generalizing before inWord with
  | nil => exact clean_nil before
  | cons c cs ih =>
      have hNext :
          ∀ flag : Bool,
            (flag = true ↔ EndsInWord (before ++ [c])) →
              Finds (before ++ [c]) cs
                (scanFrom flag (before.length + 1) cs) := by
        intro flag hFlag
        have hRest := ih hFlag
        rwa [List.length_append] at hRest
      unfold scanFrom
      split
      · next hInside =>
          rw [Bool.and_eq_true] at hInside
          have hEnds := hFlag.mp hInside.1
          apply Finds.cons
          · exact fun hStray =>
              hStray.continuesNoWord ⟨hEnds, hInside.2⟩
          · exact hNext true
              (iff_of_true rfl (hEnds.append hInside.2))
      · next hOutside =>
          split
          · next hStart =>
              rw [finds_before_iff]
              apply Finds.cons
              · intro hStray
                rw [hStray.startsNoWord] at hStart
                cases hStart
              · exact hNext true
                  (iff_of_true rfl
                    (endsInWord_append_start before hStart))
          · next hNoStart =>
              split
              · next hBlank =>
                  have hPart := Name.isWordPart_of_isBlank hBlank
                  apply Finds.cons
                  · intro hStray
                    rw [hStray.isNoBlank] at hBlank
                    cases hBlank
                  · exact hNext false
                      (iff_of_false Bool.false_ne_true
                        (not_endsInWord_append hPart))
              · next hNoBlank =>
                  split
                  · next s hSymbol =>
                      have hPart :=
                        Name.isWordPart_of_symbol hSymbol
                      rw [finds_before_iff]
                      apply Finds.cons
                      · intro hStray
                        rw [hStray.isNoSymbol] at hSymbol
                        cases hSymbol
                      · exact hNext false
                          (iff_of_false Bool.false_ne_true
                            (not_endsInWord_append hPart))
                  · next hNoSymbol =>
                      refine ⟨[], cs, rfl, rfl, clean_nil before,
                        ?_⟩
                      rw [List.append_nil]
                      refine ⟨by simpa using hNoStart, hNoSymbol,
                        by simpa using hNoBlank, ?_⟩
                      rintro ⟨hEnds, hPart⟩
                      rw [hFlag.mpr hEnds, hPart] at hOutside
                      exact hOutside rfl

variable {text : String}

theorem finds_scan
    (text : String) :
    Finds [] text.toList (scan text) := by
  have hNone : false = true ↔ EndsInWord [] :=
    iff_of_false Bool.false_ne_true not_endsInWord_nil
  exact scanFrom_spec hNone

theorem Clean.not_strayAt
    (hClean : Clean [] cs)
    (offset : Nat) :
    ¬ StrayAt cs offset := by
  rintro ⟨before, c, after, hEq, _, hStray⟩
  exact hClean before c after hEq hStray

/- A text that is scanned has no stray character. -/
theorem not_strayAt_of_scan
    {tokens : List Token}
    (hScan : scan text = .ok tokens)
    (offset : Nat) :
    ¬ StrayAt text.toList offset := by
  have hFinds := finds_scan text
  rw [hScan] at hFinds
  exact hFinds.not_strayAt offset

/- Otherwise its first stray character is reported. -/
theorem strayAt_of_scan
    {stray : Stray}
    (hScan : scan text = .error stray) :
    StrayAt text.toList stray.position ∧
      ∀ offset < stray.position,
        ¬ StrayAt text.toList offset := by
  have hFinds := finds_scan text
  rw [hScan] at hFinds
  rcases hFinds with
    ⟨inside, after, hEq, hPosition, hClean, hStray⟩
  rw [List.length_nil, Nat.zero_add] at hPosition
  refine ⟨⟨inside, stray.char, after, hEq, hPosition.symm,
    hStray⟩, ?_⟩
  rintro offset hBefore ⟨front, c, rest, hSplit, rfl, hOther⟩
  rw [hPosition] at hBefore
  -- a shorter front is all among the characters passed over
  rw [hSplit] at hEq
  have hPrefix : front ++ [c] <+: inside := by
    have hFront :
        front ++ [c] <+: inside ++ stray.char :: after :=
      ⟨rest, by rw [← hEq]; simp⟩
    exact List.prefix_of_prefix_length_le hFront
      (List.prefix_append inside _)
      (by rw [List.length_append, List.length_singleton]; omega)
  rcases hPrefix with ⟨others, rfl⟩
  exact hClean front c others (by simp) hOther

/- Blanks have no tokens. -/
theorem scanFrom_of_blank
    {position : Nat}
    (hBlank : ∀ c ∈ cs, Text.isBlank c = true) :
    scanFrom inWord position cs = .ok [] := by
  induction cs generalizing inWord position with
  | nil => rfl
  | cons c cs ih =>
      rw [List.forall_mem_cons] at hBlank
      have hPart := Name.isWordPart_of_isBlank hBlank.1
      have hStart := Name.isWordStart_of_isBlank hBlank.1
      simp only [scanFrom, hPart, hStart, hBlank.1,
        Bool.and_false, Bool.false_eq_true, if_false, if_true]
      exact ih hBlank.2

/- A text without tokens is blank. -/
theorem isBlank_of_scanFrom_eq_nil
    {position : Nat}
    {cs : List Char}
    (hScan : scanFrom false position cs = .ok []) :
    ∀ c ∈ cs, Text.isBlank c = true := by
  induction cs generalizing position with
  | nil => simp
  | cons c rest ih =>
      rcases scanFrom_cons_cases hScan with
        ⟨hIn, _⟩ | ⟨_, _, others, _, hNil⟩ | ⟨hBlank, hRest⟩ |
          ⟨s, others, _, _, hNil⟩
      · cases hIn
      · cases hNil
      · exact List.forall_mem_cons.mpr ⟨hBlank, ih hRest⟩
      · cases hNil

theorem scan_of_blank
    (hBlank : ∀ c ∈ text.toList, Text.isBlank c = true) :
    scan text = .ok [] :=
  scanFrom_of_blank hBlank

end Token

end DeclaredApi
