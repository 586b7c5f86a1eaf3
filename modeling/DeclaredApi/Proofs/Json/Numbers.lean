import Mathlib.Data.Nat.Digits.Defs
import DeclaredApi.Proofs.Json.Texts

/-
  Reading of integers.

  An integer is read back from its digits where a value may
  end.  There no fraction and no exponent follows, so that
  the whole number is taken and is no float.  An integer with
  too many digits is refused.

  Main declarations:
    * `Json.Ends`
    * `Json.wholeDigits_toDigits`
    * `Json.readNumber_toString`
    * `Json.takes_toString`
-/

------------------------------------------------------------
-- Ends of Values
------------------------------------------------------------

namespace DeclaredApi

namespace Json

variable {rest : List Char}

/- A value may end here: a comma, a line end or nothing. -/
def Ends (rest : List Char) : Prop :=
  ∀ c ∈ rest.head?, c = ',' ∨ c = '\n'

theorem ends_nil : Ends [] :=
  fun _ hMem => nomatch hMem

theorem ends_comma (rest : List Char) :
    Ends (',' :: rest) :=
  fun _ hMem => Or.inl (Option.mem_some.mp hMem).symm

theorem ends_line (rest : List Char) :
    Ends ('\n' :: rest) :=
  fun _ hMem => Or.inr (Option.mem_some.mp hMem).symm

/- No digit stands where a value ends. -/
theorem Ends.takeWhile_isDigit
    (hEnds : Ends rest) :
    rest.takeWhile Char.isDigit = [] := by
  cases rest with
  | nil => rfl
  | cons c rest =>
      rcases hEnds c rfl with rfl | rfl <;> rfl

theorem Ends.fractionDigits
    (hEnds : Ends rest) :
    fractionDigits rest = [] := by
  cases rest with
  | nil => rfl
  | cons c rest =>
      rcases hEnds c rfl with rfl | rfl <;> rfl

theorem Ends.exponentPart?
    (hEnds : Ends rest) :
    exponentPart? rest = none := by
  cases rest with
  | nil => rfl
  | cons c rest =>
      rcases hEnds c rfl with rfl | rfl <;> rfl

end Json

end DeclaredApi

------------------------------------------------------------
-- Digits
------------------------------------------------------------

namespace DeclaredApi

namespace Json

variable {n : Nat}
variable {rest : List Char}

/- Only zero starts with the digit zero. -/
theorem head?_toDigits_ne_zero
    (hPos : 0 < n) :
    (Nat.toDigits 10 n).head? ≠ some '0' := by
  induction n using Nat.strongRecOn with
  | ind n ih =>
      rw [Nat.toDigits_eq_if (by decide)]
      have hDigit :
          ∀ m < 10, 0 < m → some m.digitChar ≠ some '0' := by
        decide
      by_cases hSmall : n < 10
      · rw [if_pos hSmall, List.head?_cons]
        exact hDigit n hSmall hPos
      · rw [if_neg hSmall,
          List.head?_append_of_ne_nil _ Nat.toDigits_ne_nil]
        exact ih (n / 10) (by omega) (by omega)

theorem isDigit_of_mem_toDigits
    {c : Char}
    (hMem : c ∈ Nat.toDigits 10 n) :
    c.isDigit = true :=
  Nat.isDigit_of_mem_toDigits (by decide) (by decide) hMem

theorem toDigits_eq_cons (n : Nat) :
    ∃ c cs, Nat.toDigits 10 n = c :: cs ∧ c.isDigit = true := by
  cases hDigits : Nat.toDigits 10 n with
  | nil => exact absurd hDigits Nat.toDigits_ne_nil
  | cons c cs =>
      exact ⟨c, cs, rfl, isDigit_of_mem_toDigits
        (hDigits ▸ List.mem_cons_self)⟩

theorem digitsValue_toDigits (n : Nat) :
    digitsValue (Nat.toDigits 10 n) = n := by
  have hValue :=
    Nat.ofDigitChars_toDigits (b := 10) (n := n) (by decide)
      (by decide)
  rw [Nat.ofDigitChars_eq_foldl] at hValue
  simpa only [digitsValue, Nat.mul_comm] using hValue

/- The digits of a number are taken up to its end. -/
theorem wholeDigits_toDigits
    (n : Nat)
    (hEnds : Ends rest) :
    wholeDigits (Nat.toDigits 10 n ++ rest) =
      Nat.toDigits 10 n := by
  rcases Nat.eq_zero_or_pos n with rfl | hPos
  · rfl
  · have hHead := head?_toDigits_ne_zero hPos
    have hTaken :
        (Nat.toDigits 10 n ++ rest).takeWhile Char.isDigit =
          Nat.toDigits 10 n := by
      rw [List.takeWhile_append_of_pos
        (fun _ => isDigit_of_mem_toDigits),
        hEnds.takeWhile_isDigit, List.append_nil]
    cases hDigits : Nat.toDigits 10 n with
    | nil => exact absurd hDigits Nat.toDigits_ne_nil
    | cons c cs =>
        rw [hDigits] at hHead hTaken
        rw [List.cons_append, wholeDigits]
        · exact hTaken
        · intro tail hEq
          exact hHead (congrArg some (List.cons.inj hEq).1)

/- A number has too many digits if it is too large. -/
theorem digitLimit_lt_length_iff :
    digitLimit < (Nat.toDigits 10 n).length ↔
      10 ^ digitLimit ≤ n := by
  rw [← not_le, Nat.length_toDigits_le_iff (by decide)
    (by decide), not_lt]

end Json

end DeclaredApi

------------------------------------------------------------
-- Integers
------------------------------------------------------------

namespace DeclaredApi

namespace Json

variable {n : Int}
variable {rest : List Char}

/- The sign of an integer and the digits of its size. -/
theorem toList_toString_cases (n : Int) :
    (0 ≤ n ∧
      (toString n).toList = Nat.toDigits 10 n.natAbs) ∨
      (n < 0 ∧
        (toString n).toList = '-' :: Nat.toDigits 10 n.natAbs) := by
  cases n with
  | ofNat m => exact Or.inl ⟨Int.natCast_nonneg m, Nat.toList_repr⟩
  | negSucc m =>
      refine Or.inr ⟨Int.negSucc_lt_zero m, ?_⟩
      exact (String.toList_append).trans
        (congrArg (['-'] ++ ·) Nat.toList_repr)

/- An integer starts with its sign or with a digit. -/
theorem toList_toString_eq_cons (n : Int) :
    ∃ c cs,
      (toString n).toList = c :: cs ∧
        (c = '-' ∨ c.isDigit = true) := by
  rcases toList_toString_cases n with ⟨_, hText⟩ | ⟨_, hText⟩
  · rcases toDigits_eq_cons n.natAbs with
      ⟨c, cs, hDigits, hDigit⟩
    exact ⟨c, cs, hText.trans hDigits, Or.inr hDigit⟩
  · exact ⟨'-', _, hText, Or.inl rfl⟩

/- Digits up to the end of a number make an integer. -/
theorem readNumber_of_digits
    {c body : Cursor}
    {m : Nat}
    (hBody :
      (if c.peek? = some '-' then c.advance 1 else c) = body)
    (hDigits : body.rest = Nat.toDigits 10 m ++ rest)
    (hEnds : Ends rest) :
    readNumber c =
      if 10 ^ digitLimit ≤ m then
        .error ⟨c.position, .longInteger⟩
      else
        .ok (.int (if c.peek? = some '-' then -m else m),
          ⟨body.position + (Nat.toDigits 10 m).length, rest⟩) := by
  have hWhole := wholeDigits_toDigits m hEnds
  have hSome : (Nat.toDigits 10 m).isEmpty = false :=
    List.isEmpty_eq_false_iff.mpr Nat.toDigits_ne_nil
  have hAfter :
      body.advance (Nat.toDigits 10 m).length =
        ⟨body.position + (Nat.toDigits 10 m).length, rest⟩ := by
    rw [Cursor.advance, hDigits, List.drop_left]
  simp only [readNumber, hBody, hDigits, hWhole, hSome,
    Bool.false_eq_true, if_false, hAfter, hEnds.fractionDigits,
    List.isEmpty_nil, if_true, hEnds.exponentPart?,
    digitLimit_lt_length_iff, digitsValue_toDigits]
  rfl

/- An integer is read back unless it is too long. -/
theorem readNumber_toString
    (n : Int)
    (position : Nat)
    (hEnds : Ends rest) :
    readNumber ⟨position, (toString n).toList ++ rest⟩ =
      if 10 ^ digitLimit ≤ n.natAbs then
        .error ⟨position, .longInteger⟩
      else
        .ok (.int n,
          ⟨position + (toString n).toList.length, rest⟩) := by
  rcases toList_toString_cases n with
    ⟨hSign, hText⟩ | ⟨hSign, hText⟩
  · rcases toDigits_eq_cons n.natAbs with
      ⟨c, cs, hDigits, hDigit⟩
    have hHead :
        (⟨position, (toString n).toList ++ rest⟩ :
          Cursor).peek? ≠ some '-' := by
      rw [hText, hDigits]
      rintro ⟨⟩
      cases hDigit
    rw [readNumber_of_digits (if_neg hHead) (by rw [hText]) hEnds,
      if_neg hHead, hText, Int.natAbs_of_nonneg hSign]
  · have hHead :
        (⟨position, (toString n).toList ++ rest⟩ :
          Cursor).peek? = some '-' := by
      rw [hText]
      rfl
    have hBody :
        (⟨position, (toString n).toList ++ rest⟩ :
            Cursor).advance 1 =
          ⟨position + 1, Nat.toDigits 10 n.natAbs ++ rest⟩ := by
      rw [hText]
      rfl
    rw [readNumber_of_digits ((if_pos hHead).trans hBody) rfl
      hEnds, if_pos hHead, hText,
      Int.ofNat_natAbs_of_nonpos hSign.le, neg_neg,
      List.length_cons, Nat.add_assoc, Nat.add_comm 1]

theorem takes_toString
    (hShort : n.natAbs < 10 ^ digitLimit)
    (hEnds : Ends rest) :
    Takes readNumber (toString n).toList (.int n) rest :=
  fun position =>
    ⟨_, (readNumber_toString n position hEnds).trans
      (if_neg (Nat.not_le.mpr hShort))⟩

/- No named value starts like an integer. -/
theorem namedValue?_toString
    (n : Int)
    (position : Nat)
    (rest : List Char) :
    namedValue? ⟨position, (toString n).toList ++ rest⟩ =
      none := by
  rcases toDigits_eq_cons n.natAbs with
    ⟨c, cs, hDigits, hDigit⟩
  have hOther :
      ∀ d, d.isDigit = false → (d == c) = false := by
    intro d hLetter
    exact beq_eq_false_iff_ne.mpr
      (fun hSame => by simp [hSame, hDigit] at hLetter)
  have hN := hOther 'n' rfl
  have hT := hOther 't' rfl
  have hF := hOther 'f' rfl
  have hNaN := hOther 'N' rfl
  have hI := hOther 'I' rfl
  have hMinus := hOther '-' rfl
  rcases toList_toString_cases n with ⟨_, hText⟩ | ⟨_, hText⟩
  all_goals
    rw [hText, hDigits]
    simp [namedValue?, namedValues, List.isPrefixOf, hN, hT, hF,
      hNaN, hI, hMinus]

end Json

end DeclaredApi
