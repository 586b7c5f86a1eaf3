import DeclaredApi.Proofs.Name.Dimensions
import DeclaredApi.Signature.Token
import DeclaredApi.TypeRef.Basic

/-
  Phrases of the signature grammar.

  A phrase is a derivation of

      Type  := "?" [("extends" | "super") Named ("&" Named)*]
             | Named
      Named := Word ("." Word)* ["<" Type ("," Type)* ">"]
               ("[" "]")*

  with one constructor for each production.  It yields a
  sequence of lexemes, it is written in one canonical way,
  and it means a type reference.

  Key definitions include:
    * `Phrase`
    * `Phrase.lexemes`
    * `Phrase.text`
    * `Phrase.tree`
    * `Phrase.nesting`
    * `Phrase.Grammatical`
    * `Phrase.ofName`
    * `Phrase.addDimensions`
-/

------------------------------------------------------------
-- Phrases
------------------------------------------------------------

namespace DeclaredApi

/-
  A bare question mark, a question mark with a keyword and
  bounds, or a named type.  No arguments stand for a missing
  argument list.
-/
inductive Phrase where
| bare
| bounded
    (relation : BoundRelation)
    (bound : Phrase)
    (bounds : List Phrase)
| named
    (word : String)
    (words : List String)
    (arguments : List Phrase)
    (dimensions : Nat)

namespace Phrase

/- Induction with the hypothesis for each part of a phrase. -/
@[elab_as_elim, induction_eliminator]
theorem inductionOnParts
    {motive : Phrase → Prop}
    (bare : motive .bare)
    (bounded :
      ∀ relation bound bounds,
        motive bound →
          (∀ b ∈ bounds, motive b) →
            motive (.bounded relation bound bounds))
    (named :
      ∀ word words arguments dimensions,
        (∀ a ∈ arguments, motive a) →
          motive (.named word words arguments dimensions))
    (p : Phrase) :
    motive p :=
  @Phrase.rec motive (fun ps => ∀ p ∈ ps, motive p)
    bare bounded named
    (fun _ h => absurd h List.not_mem_nil)
    (fun _ _ hHead hTail _ hMem =>
      (List.mem_cons.mp hMem).elim
        (fun hEq => hEq ▸ hHead) (hTail _)) p

/- A phrase of the production for named types. -/
def isNamed : Phrase → Bool
| .named _ _ _ _ => true
| _ => false

/- The dotted name of a first word and the words after it. -/
def dotted
    (word : String)
    (words : List String) : String :=
  ".".intercalate (word :: words)

end Phrase

end DeclaredApi

------------------------------------------------------------
-- Lexemes
------------------------------------------------------------

namespace DeclaredApi

namespace Phrase

/- The lexemes of words that follow dots. -/
def dottedLexemes : List String → List Lexeme
| [] => []
| w :: ws => .symbol .dot :: .word w :: dottedLexemes ws

/- The lexemes of bracket pairs. -/
def bracketLexemes : Nat → List Lexeme
| 0 => []
| dimensions + 1 =>
    .symbol .openBracket :: .symbol .closeBracket ::
      bracketLexemes dimensions

mutual

/- The sequence of lexemes that a phrase derives. -/
def lexemes : Phrase → List Lexeme
| .bare => [.symbol .question]
| .bounded relation bound bounds =>
    .symbol .question :: .word relation.word ::
      (lexemes bound ++ lexemesAfter .ampersand bounds)
| .named word words arguments dimensions =>
    .word word :: (dottedLexemes words ++
      (argumentLexemes arguments ++
        bracketLexemes dimensions))

/- The lexemes of phrases that each follow a mark. -/
def lexemesAfter
    (mark : Symbol) : List Phrase → List Lexeme
| [] => []
| p :: ps =>
    .symbol mark :: (lexemes p ++ lexemesAfter mark ps)

/- The lexemes of an argument list, which may be missing. -/
def argumentLexemes : List Phrase → List Lexeme
| [] => []
| a :: as =>
    .symbol .less ::
      (lexemes a ++
        (lexemesAfter .comma as ++ [.symbol .greater]))

end

end Phrase

end DeclaredApi

------------------------------------------------------------
-- Canonical Text
------------------------------------------------------------

namespace DeclaredApi

namespace Phrase

mutual

/- The canonical text of a phrase. -/
def text : Phrase → String
| .bare => "?"
| .bounded relation bound bounds =>
    "? " ++ relation.word ++ " " ++
      " & ".intercalate (text bound :: textAll bounds)
| .named word words [] dimensions =>
    dotted word words ++ Name.brackets dimensions
| .named word words (a :: as) dimensions =>
    dotted word words ++ "<" ++
      ", ".intercalate (textAll (a :: as)) ++
      ">" ++ Name.brackets dimensions

/- The canonical texts of a list of phrases. -/
def textAll : List Phrase → List String
| [] => []
| p :: ps => text p :: textAll ps

end

end Phrase

end DeclaredApi

------------------------------------------------------------
-- Meaning and Nesting
------------------------------------------------------------

namespace DeclaredApi

namespace Phrase

mutual

/-
  The reference that a phrase means: brackets count the
  dimensions of a name, and a bare question mark is bounded
  by the root object type.
-/
def tree
    (root : String) : Phrase → TypeRef
| .bare => .unbounded root
| .bounded relation bound bounds =>
    .wildcard relation (tree root bound :: treeAll root bounds)
| .named word words arguments dimensions =>
    .simple (dotted word words) dimensions
      (treeAll root arguments)

/- The references that a list of phrases means. -/
def treeAll
    (root : String) : List Phrase → List TypeRef
| [] => []
| p :: ps => tree root p :: treeAll root ps

end

mutual

/- How deep argument lists are nested in a phrase. -/
def nesting : Phrase → Nat
| .bare => 0
| .bounded _ bound bounds =>
    max (nesting bound) (nestingAll bounds)
| .named _ _ [] _ => 0
| .named _ _ (a :: as) _ => 1 + nestingAll (a :: as)

/- The deepest nesting in a list of phrases. -/
def nestingAll : List Phrase → Nat
| [] => 0
| p :: ps => max (nesting p) (nestingAll ps)

end

mutual

/-
  What the productions ask of the parts of a phrase: words
  are identifiers, bounds are named types, and a primitive
  name has no argument list.
-/
def Grammatical : Phrase → Prop
| .bare => True
| .bounded _ bound bounds =>
    (∀ b ∈ bound :: bounds, b.isNamed = true) ∧
      Grammatical bound ∧ AllGrammatical bounds
| .named word words arguments _ =>
    (∀ w ∈ word :: words, Name.isWord w.toList = true) ∧
      (Name.isPrimitive (dotted word words) = true →
        arguments = []) ∧
      AllGrammatical arguments

/- Every phrase of a list is grammatical. -/
def AllGrammatical : List Phrase → Prop
| [] => True
| p :: ps => Grammatical p ∧ AllGrammatical ps

end

end Phrase

end DeclaredApi

------------------------------------------------------------
-- Lists of Phrases
------------------------------------------------------------

namespace DeclaredApi

namespace Phrase

theorem textAll_eq_map
    (ps : List Phrase) :
    textAll ps = ps.map text := by
  induction ps with
  | nil => rfl
  | cons p ps ih => simp [textAll, ih]

theorem treeAll_eq_map
    (root : String)
    (ps : List Phrase) :
    treeAll root ps = ps.map (tree root) := by
  induction ps with
  | nil => rfl
  | cons p ps ih => simp [treeAll, ih]

theorem allGrammatical_iff
    (ps : List Phrase) :
    AllGrammatical ps ↔ ∀ p ∈ ps, Grammatical p := by
  induction ps with
  | nil => simp [AllGrammatical]
  | cons p ps ih => simp [AllGrammatical, ih]

/- Nesting is bounded when it is in every phrase of a list. -/
theorem nestingAll_le_iff
    (ps : List Phrase)
    (depth : Nat) :
    nestingAll ps ≤ depth ↔ ∀ p ∈ ps, nesting p ≤ depth := by
  induction ps with
  | nil => simp [nestingAll]
  | cons p ps ih =>
      rw [nestingAll, Nat.max_le, ih, List.forall_mem_cons]

/- The phrases after marks are no more than the lexemes. -/
theorem length_le_length_lexemesAfter
    (mark : Symbol)
    (ps : List Phrase) :
    ps.length ≤ (lexemesAfter mark ps).length := by
  induction ps with
  | nil => simp
  | cons p ps ih =>
      simp only [lexemesAfter, List.length_cons,
        List.length_append]
      omega

/- A phrase derives at least one lexeme. -/
theorem lexemes_ne_nil
    (p : Phrase) :
    lexemes p ≠ [] := by
  cases p <;> simp [lexemes]

/- No phrase starts with a closing mark. -/
theorem head_lexemes_ne_greater
    (p : Phrase) :
    p.lexemes.head? ≠ some (.symbol .greater) := by
  cases p <;> simp [lexemes]

/- A named phrase starts with a word. -/
theorem lexemes_of_isNamed
    {p : Phrase}
    (hNamed : p.isNamed = true) :
    ∃ w rest, p.lexemes = .word w :: rest := by
  cases p with
  | bare => simp [isNamed] at hNamed
  | bounded relation bound bounds => simp [isNamed] at hNamed
  | named word words arguments dimensions =>
      exact ⟨word, _, by rw [lexemes]⟩

/- The tree of a named phrase is no wildcard. -/
theorem isWildcard_tree_of_isNamed
    (root : String)
    {p : Phrase}
    (hNamed : p.isNamed = true) :
    (p.tree root).isWildcard = false := by
  cases p with
  | bare => simp [isNamed] at hNamed
  | bounded relation bound bounds => simp [isNamed] at hNamed
  | named word words arguments dimensions =>
      simp [tree, TypeRef.isWildcard]

end Phrase

end DeclaredApi

------------------------------------------------------------
-- Phrases of Dotted Names
------------------------------------------------------------

namespace DeclaredApi

namespace Phrase

/- The phrase of a dotted name, argument list and brackets. -/
def ofName
    (element : String)
    (arguments : List Phrase)
    (dimensions : Nat) : Phrase :=
  .named ((Name.words element).headD "")
    (Name.words element).tail arguments dimensions

variable {element : String}

theorem headD_cons_tail_words
    (element : String) :
    (Name.words element).headD "" ::
        (Name.words element).tail =
      Name.words element := by
  cases hName : Name.words element with
  | nil => exact absurd hName (Name.words_ne_nil element)
  | cons word words => rfl

/- The words of a name are joined again. -/
theorem dotted_words
    (element : String) :
    dotted ((Name.words element).headD "")
      (Name.words element).tail = element := by
  rw [dotted, headD_cons_tail_words, Name.intercalate_words]

@[simp] theorem isNamed_ofName
    (arguments : List Phrase)
    (dimensions : Nat) :
    (ofName element arguments dimensions).isNamed = true := by
  rw [ofName, isNamed]

theorem tree_ofName
    (root : String)
    (arguments : List Phrase)
    (dimensions : Nat) :
    (ofName element arguments dimensions).tree root =
      .simple element dimensions
        (arguments.map (tree root)) := by
  rw [ofName, tree, dotted_words, treeAll_eq_map]

theorem text_ofName_nil
    (dimensions : Nat) :
    (ofName element [] dimensions).text =
      element ++ Name.brackets dimensions := by
  rw [ofName, text, dotted_words]

theorem text_ofName_cons
    (argument : Phrase)
    (arguments : List Phrase)
    (dimensions : Nat) :
    (ofName element (argument :: arguments) dimensions).text =
      element ++ "<" ++
        ", ".intercalate ((argument :: arguments).map text) ++
        ">" ++ Name.brackets dimensions := by
  rw [ofName, text, dotted_words, textAll_eq_map]

/- What a grammatical phrase asks of a name it is made of. -/
theorem grammatical_ofName
    {arguments : List Phrase}
    (dimensions : Nat)
    (hDotted : Name.isDotted element = true)
    (hPrimitive :
      Name.isPrimitive element = true → arguments = [])
    (hArguments : ∀ a ∈ arguments, a.Grammatical) :
    (ofName element arguments dimensions).Grammatical := by
  rw [ofName, Grammatical, allGrammatical_iff, dotted_words,
    headD_cons_tail_words]
  exact ⟨(Name.isDotted_iff element).mp hDotted, hPrimitive,
    hArguments⟩

end Phrase

end DeclaredApi

------------------------------------------------------------
-- Phrases with More Dimensions
------------------------------------------------------------

namespace DeclaredApi

namespace Phrase

/- A named phrase with more brackets; others have none. -/
def addDimensions
    (count : Nat) : Phrase → Phrase
| .bare => .bare
| .bounded relation bound bounds =>
    .bounded relation bound bounds
| .named word words arguments dimensions =>
    .named word words arguments (dimensions + count)

variable {p : Phrase}

theorem isNamed_addDimensions
    (count : Nat) :
    (p.addDimensions count).isNamed = p.isNamed := by
  cases p with
  | bare => rfl
  | bounded relation bound bounds => rfl
  | named word words arguments dimensions => rfl

theorem tree_addDimensions
    (root : String)
    (count : Nat) :
    (p.addDimensions count).tree root =
      (p.tree root).addDimensions count := by
  cases p with
  | bare =>
      rw [addDimensions, tree]
      rfl
  | bounded relation bound bounds =>
      rw [addDimensions, tree]
      rfl
  | named word words arguments dimensions =>
      rw [addDimensions, tree, tree]
      rfl

theorem text_addDimensions
    (count : Nat)
    (hNamed : p.isNamed = true) :
    (p.addDimensions count).text =
      p.text ++ Name.brackets count := by
  cases p with
  | bare => simp [isNamed] at hNamed
  | bounded relation bound bounds => simp [isNamed] at hNamed
  | named word words arguments dimensions =>
      cases arguments with
      | nil =>
          rw [addDimensions, text, text, Name.brackets_add,
            String.append_assoc]
      | cons a as =>
          rw [addDimensions, text, text, Name.brackets_add]
          simp only [String.append_assoc]

theorem nesting_addDimensions
    (count : Nat) :
    (p.addDimensions count).nesting = p.nesting := by
  cases p with
  | bare => rfl
  | bounded relation bound bounds => rfl
  | named word words arguments dimensions =>
      cases arguments with
      | nil => rw [addDimensions, nesting, nesting]
      | cons a as => rw [addDimensions, nesting, nesting]

theorem Grammatical.addDimensions
    (count : Nat)
    (hGrammatical : p.Grammatical) :
    (p.addDimensions count).Grammatical := by
  cases p with
  | bare => exact hGrammatical
  | bounded relation bound bounds => exact hGrammatical
  | named word words arguments dimensions =>
      rw [Grammatical] at hGrammatical
      rw [Phrase.addDimensions, Grammatical]
      exact hGrammatical

end Phrase

end DeclaredApi
