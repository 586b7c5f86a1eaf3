import DeclaredApi.Proofs.Name.Dimensions
import DeclaredApi.Proofs.Signature.Scanning

/-
  Identifiers of source files.

  Source files may use letters beyond ASCII, so an identifier
  is a word or has a character that no signature can contain.

  Main declarations:
    * `Name.isIdentifier`
    * `Identifier`
    * `Name.isBase_of_isIdentifier`
    * `Name.exists_unscanned`
-/

------------------------------------------------------------
-- Identifiers
------------------------------------------------------------

namespace DeclaredApi

namespace Name

/- A character that may stand in an identifier. -/
def isIdentifierPart (c : Char) : Bool :=
  !Text.isBlank c && (Symbol.ofChar? c).isNone

/- The text of an identifier. -/
def isIdentifier (text : String) : Bool :=
  match text.toList with
  | [] => false
  | c :: cs => !c.isDigit && (c :: cs).all isIdentifierPart

end Name

/- An identifier in a source file. -/
structure Identifier where
  text : String
  proper : Name.isIdentifier text = true

end DeclaredApi

------------------------------------------------------------
-- Identifiers and Words
------------------------------------------------------------

namespace DeclaredApi

namespace Name

variable {text : String}

theorem isIdentifierPart_of_mem
    {c : Char}
    (hIdentifier : isIdentifier text = true)
    (hMem : c ∈ text.toList) :
    isIdentifierPart c = true := by
  unfold isIdentifier at hIdentifier
  split at hIdentifier
  · cases hIdentifier
  · next d ds hText =>
      rw [hText] at hMem
      rw [Bool.and_eq_true, List.all_eq_true] at hIdentifier
      exact hIdentifier.2 c hMem

/- An identifier is a base just if it is a word. -/
theorem isBase_of_isIdentifier
    (hIdentifier : isIdentifier text = true) :
    isBase text = isWord text.toList := by
  have hSymbol :
      ∀ s : Symbol, s.char ∉ text.toList := by
    intro s hMem
    have hPart := isIdentifierPart_of_mem hIdentifier hMem
    revert hPart
    cases s <;> decide
  have hClose : ']' ∉ text.toList.reverse := by
    rw [List.mem_reverse]
    exact hSymbol .closeBracket
  have hName : (splitDimensions text).1 = text := by
    simp [splitDimensions, takeBrackets_of_not_mem hClose]
  rw [isBase, hName, isDotted,
    splitAtDots_of_no_dot (hSymbol .dot)]
  simp

/-
  An identifier that is no word has a character that starts
  no token: it does not start with a digit, so what keeps it
  from being a word cannot continue one either.
-/
theorem exists_unscanned
    (hIdentifier : isIdentifier text = true)
    (hWord : isWord text.toList = false) :
    ∃ c ∈ text.toList, Token.isScanned c = false := by
  have hOther :
      ∃ c ∈ text.toList, isWordPart c = false := by
    unfold isIdentifier at hIdentifier
    split at hIdentifier
    · cases hIdentifier
    · next c cs hText =>
        rw [Bool.and_eq_true, Bool.not_eq_true'] at hIdentifier
        rw [hText] at hWord ⊢
        rw [isWord, Bool.and_eq_false_iff] at hWord
        rcases hWord with hStart | hRest
        · refine ⟨c, List.mem_cons_self, ?_⟩
          simp only [isWordStart, Bool.or_eq_false_iff]
            at hStart
          simp only [isWordPart, Char.isAlphanum, hStart,
            hIdentifier.1, Bool.or_false]
        · rcases List.all_eq_false.mp hRest with ⟨d, hd, hPart⟩
          exact ⟨d, List.mem_cons_of_mem c hd,
            by simpa using hPart⟩
  rcases hOther with ⟨c, hMem, hPart⟩
  have hIdentifierPart :=
    isIdentifierPart_of_mem hIdentifier hMem
  rw [isIdentifierPart, Bool.and_eq_true, Bool.not_eq_true',
    Option.isNone_iff_eq_none] at hIdentifierPart
  refine ⟨c, hMem, ?_⟩
  rw [Token.isScanned, hPart, hIdentifierPart.1,
    hIdentifierPart.2]
  rfl

end Name

end DeclaredApi
