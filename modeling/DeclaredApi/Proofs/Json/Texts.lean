import Mathlib.Data.List.Basic
import DeclaredApi.Json.Printer
import DeclaredApi.Json.Reader
import DeclaredApi.Proofs.Result

/-
  Reading of quoted texts.

  A reader takes a text if it turns it into a result and
  stops behind it, wherever it stands and whatever follows.
  Each character of a quoted text is read back from the form
  that it is written in, escapes included, and so the whole
  text is.

  Main declarations:
    * `Json.Takes`
    * `Json.hexCode?_hexDigits`
    * `Json.readTextBody_encodeChar`
    * `Json.takes_encodeText`
-/

------------------------------------------------------------
-- Readers
------------------------------------------------------------

namespace DeclaredApi

namespace Json

variable {α : Type}

/-
  A reader turns a text into a result and stops before the
  rest.
-/
def Takes
    (reader : Cursor → Except ReadFault (α × Cursor))
    (text : List Char)
    (result : α)
    (rest : List Char) : Prop :=
  ∀ position,
    ∃ stop,
      reader ⟨position, text ++ rest⟩ =
        .ok (result, ⟨stop, rest⟩)

end Json

end DeclaredApi

------------------------------------------------------------
-- Escapes
------------------------------------------------------------

namespace DeclaredApi

namespace Json

theorem hexValue?_hexDigit
    {value : Nat}
    (hSmall : value < 16) :
    hexValue? (Text.hexDigit value) = some value := by
  decide +revert

/- An escape of one letter is read as its character. -/
theorem readEscape_of_letter
    {letter c : Char}
    (start position : Nat)
    (rest : List Char)
    (hEscape : letterEscape? letter = some c) :
    readEscape start ⟨position, '\\' :: letter :: rest⟩ =
      .ok (c, ⟨position + 2, rest⟩) := by
  have hLetter : letter ≠ 'u' := by
    rintro rfl
    cases hEscape
  simp only [readEscape, Cursor.advance, Cursor.peek?,
    List.drop_succ_cons, List.drop_zero, List.head?_cons,
    hEscape]

/- Four hexadecimal digits write a number below `16 ^ 4`. -/
theorem hexCode?_hexDigits
    {code : Nat}
    (hSmall : code < 0x10000)
    (rest : List Char) :
    hexCode? (Text.hexDigits 4 code ++ rest) = some code := by
  have hDigit :
      ∀ n,
        hexValue? (Text.hexDigit (n % 16)) = some (n % 16) :=
    fun n => hexValue?_hexDigit (Nat.mod_lt n (by decide))
  simp only [Text.hexDigits, List.nil_append, List.cons_append,
    hexCode?, hDigit, Option.bind_eq_bind, Option.bind_some,
    Option.pure_def, Option.some.injEq]
  omega

/-
  A control character is read from its code.  The reader asks
  for one more character behind the digits; a closing quote
  is always there.
-/
theorem readCode_hexDigits
    {c : Char}
    {rest : List Char}
    (position : Nat)
    (hControl : c.toNat < 0x20)
    (hMore : rest ≠ []) :
    readCode
        ⟨position, 'u' :: Text.hexDigits 4 c.toNat ++ rest⟩ =
      .ok (c, ⟨position + 5, rest⟩) := by
  have hCode := hexCode?_hexDigits
    (Nat.lt_trans hControl (by decide)) rest
  have hHigh : Text.isHighHalf c.toNat = false := by
    simp [Text.isHighHalf]; omega
  have hLow : Text.isLowHalf c.toNat = false := by
    simp [Text.isLowHalf]; omega
  have hMore :
      ((Text.hexDigits 4 c.toNat ++ rest).drop 4).isEmpty =
        false := by
    simpa [Text.hexDigits] using hMore
  simp only [readCode, List.cons_append, List.drop_succ_cons,
    List.drop_zero, hMore, Bool.false_eq_true, if_false, hCode,
    hHigh, hLow, Char.ofNat_toNat]
  rfl

end Json

end DeclaredApi

------------------------------------------------------------
-- Characters
------------------------------------------------------------

namespace DeclaredApi

namespace Json

theorem encodeChar_ne_nil (c : Char) :
    encodeChar c ≠ [] := by
  unfold encodeChar
  split_ifs <;> exact List.cons_ne_nil _ _

/- A character that needs no escape stands for itself. -/
theorem encodeChar_cases (c : Char) :
    (∃ letter,
      encodeChar c = ['\\', letter] ∧
        letterEscape? letter = some c) ∨
      (encodeChar c = '\\' :: 'u' :: Text.hexDigits 4 c.toNat ∧
        c.toNat < 0x20) ∨
      (encodeChar c = [c] ∧ c ≠ '"' ∧ c ≠ '\\' ∧
        ¬ c.toNat < 0x20) := by
  unfold encodeChar
  split_ifs with hQuote hSlash hLine hReturn hTab hPage hBack
    hControl
  · exact Or.inl ⟨'"', rfl, congrArg some hQuote.symm⟩
  · exact Or.inl ⟨'\\', rfl, congrArg some hSlash.symm⟩
  · exact Or.inl ⟨'n', rfl, congrArg some hLine.symm⟩
  · exact Or.inl ⟨'r', rfl, congrArg some hReturn.symm⟩
  · exact Or.inl ⟨'t', rfl, congrArg some hTab.symm⟩
  · exact Or.inl ⟨'f', rfl, congrArg some hPage.symm⟩
  · exact Or.inl ⟨'b', rfl, congrArg some hBack.symm⟩
  · exact Or.inr (Or.inl ⟨rfl, hControl⟩)
  · exact Or.inr (Or.inr ⟨rfl, hQuote, hSlash, hControl⟩)

/- An escape is read as the first character of a text. -/
theorem readTextBody_of_escape
    {c : Char}
    {form chars : List Char}
    {middle after : Cursor}
    {start fuel position : Nat}
    (hEscape :
      readEscape start ⟨position, '\\' :: form⟩ =
        .ok (c, middle))
    (hRest :
      readTextBody start fuel middle = .ok (chars, after)) :
    readTextBody start (fuel + 1) ⟨position, '\\' :: form⟩ =
      .ok (c :: chars, after) := by
  simp only [readTextBody, Cursor.peek?, List.head?_cons,
    (by decide : '\\' ≠ '"'), if_false, if_true]
  exact Result.bind_eq_ok_iff.mpr ⟨_, hEscape,
    Result.bind_eq_ok_iff.mpr ⟨_, hRest, rfl⟩⟩

/- A written character is read as the first of a text. -/
theorem readTextBody_encodeChar
    {c : Char}
    {chars rest : List Char}
    {after : Cursor}
    {start fuel position : Nat}
    (hMore : rest ≠ [])
    (hRest :
      readTextBody start fuel
          ⟨position + (encodeChar c).length, rest⟩ =
        .ok (chars, after)) :
    readTextBody start (fuel + 1)
        ⟨position, encodeChar c ++ rest⟩ =
      .ok (c :: chars, after) := by
  rcases encodeChar_cases c with
    ⟨letter, hForm, hEscape⟩ | ⟨hForm, hControl⟩ |
      ⟨hForm, hQuote, hSlash, hControl⟩
  · rw [hForm] at hRest ⊢
    exact readTextBody_of_escape
      (readEscape_of_letter start position rest hEscape) hRest
  · have hRead :
        readEscape start
            ⟨position,
              '\\' :: 'u' :: Text.hexDigits 4 c.toNat ++ rest⟩ =
          .ok (c, ⟨position + 6, rest⟩) :=
      readCode_hexDigits (position + 1) hControl hMore
    rw [hForm] at hRest ⊢
    exact readTextBody_of_escape hRead hRest
  · rw [hForm] at hRest ⊢
    simp only [List.cons_append, List.nil_append,
      readTextBody, Cursor.peek?, List.head?_cons, hQuote,
      hSlash, hControl, if_false]
    exact Result.bind_eq_ok_iff.mpr ⟨_, hRest, rfl⟩

end Json

end DeclaredApi

------------------------------------------------------------
-- Texts
------------------------------------------------------------

namespace DeclaredApi

namespace Json

/- Written characters are read up to the closing quote. -/
theorem takes_textBody
    {chars : List Char}
    {fuel : Nat}
    (start : Nat)
    (rest : List Char)
    (hFuel : (chars.flatMap encodeChar).length < fuel) :
    Takes (readTextBody start fuel)
      (chars.flatMap encodeChar ++ ['"']) chars rest := by
  intro position
  induction chars generalizing fuel position with
  | nil =>
      cases fuel with
      | zero => exact absurd hFuel (Nat.not_lt_zero _)
      | succ fuel => exact ⟨position + 1, rfl⟩
  | cons c chars ih =>
      have hForm : 0 < (encodeChar c).length :=
        List.length_pos_iff.mpr (encodeChar_ne_nil c)
      rw [List.flatMap_cons, List.length_append] at hFuel
      cases fuel with
      | zero => exact absurd hFuel (Nat.not_lt_zero _)
      | succ fuel =>
          have hLess :
              (chars.flatMap encodeChar).length < fuel := by
            omega
          have hMore :
              chars.flatMap encodeChar ++ ['"'] ++ rest ≠
                [] := by
            simp
          rcases ih hLess (position + (encodeChar c).length) with
            ⟨stop, hRest⟩
          refine ⟨stop, ?_⟩
          rw [List.flatMap_cons, List.append_assoc,
            List.append_assoc]
          rw [List.append_assoc] at hMore hRest
          exact readTextBody_encodeChar hMore hRest

theorem toList_encodeText (s : String) :
    (encodeText s).toList =
      '"' :: (s.toList.flatMap encodeChar ++ ['"']) := by
  rw [encodeText, String.toList_ofList, List.cons_append]

/- A text is read back from its quoted form. -/
theorem takes_encodeText
    (s : String)
    (rest : List Char) :
    Takes readText (encodeText s).toList s rest := by
  intro position
  have hFuel :
      (s.toList.flatMap encodeChar).length <
        ((encodeText s).toList ++ rest).length := by
    simp only [toList_encodeText, List.length_cons,
      List.length_append]
    omega
  rcases takes_textBody position rest hFuel (position + 1) with
    ⟨stop, hBody⟩
  rw [toList_encodeText] at hBody ⊢
  refine ⟨stop, Result.bind_eq_ok_iff.mpr ⟨_, hBody, ?_⟩⟩
  simp only [String.ofList_toList]
  rfl

end Json

end DeclaredApi
