import DeclaredApi.Proofs.Declaration.Spelling
import DeclaredApi.Proofs.Source.Reading

/-
  What the types that source files write mean.

  The declared type that a node is read as has the spelling
  and the nesting of what the node writes, and its variables
  are identifiers in scope.

  Main declarations:
    * `DeclaredType.SpelledAs`
    * `DeclaredType.AllSpelledAs`
    * `WrittenType.spelledAs_declared`
-/

------------------------------------------------------------
-- Declared Types with a Spelling
------------------------------------------------------------

namespace DeclaredApi

namespace DeclaredType

variable {scope : List String}

/-
  A declared type that is spelled as a text of some nesting;
  the variables in it are identifiers in scope.
-/
structure SpelledAs
    (scope : List String)
    (text : String)
    (depth : Nat)
    (t : DeclaredType) : Prop where
  spelling_eq : t.spelling = text
  spellable : t.Spellable
  nesting_eq : t.nesting = depth
  within :
    ∀ v ∈ t.readVariables,
      v ∈ scope ∧ Name.isIdentifier v = true

/- Declared types that are spelled as some texts. -/
structure AllSpelledAs
    (scope : List String)
    (texts : List String)
    (depth : Nat)
    (ts : List DeclaredType) : Prop where
  spelling_eq : spellingAll ts = texts
  spellable : AllSpellable ts
  nesting_eq : nestingAll ts = depth
  within :
    ∀ v ∈ readVariablesAll ts,
      v ∈ scope ∧ Name.isIdentifier v = true

namespace AllSpelledAs

theorem nil : AllSpelledAs scope [] 0 [] where
  spelling_eq := by rw [spellingAll]
  spellable := by rw [AllSpellable]; trivial
  nesting_eq := by rw [nestingAll]
  within := by simp [readVariablesAll]

theorem cons
    {text : String}
    {texts : List String}
    {depth depths : Nat}
    {t : DeclaredType}
    {ts : List DeclaredType}
    (hFirst : t.SpelledAs scope text depth)
    (hRest : AllSpelledAs scope texts depths ts) :
    AllSpelledAs scope (text :: texts) (max depth depths)
      (t :: ts) where
  spelling_eq := by
    rw [spellingAll, hFirst.spelling_eq, hRest.spelling_eq]
  spellable := by
    rw [AllSpellable]
    exact ⟨hFirst.spellable, hRest.spellable⟩
  nesting_eq := by
    rw [nestingAll, hFirst.nesting_eq, hRest.nesting_eq]
  within := by
    intro v hv
    rw [readVariablesAll, List.mem_append] at hv
    rcases hv with hHead | hTail
    · exact hFirst.within v hHead
    · exact hRest.within v hTail

end AllSpelledAs

namespace SpelledAs

variable {text : String} {depth : Nat} {t : DeclaredType}

/- A class by name is spelled by the name. -/
theorem ofName
    {name : String}
    (hDotted : Name.isDotted name = true) :
    (DeclaredType.ofName name).SpelledAs scope name 0 where
  spelling_eq := by
    rw [DeclaredType.ofName, spelling, Name.brackets,
      String.append_empty]
  spellable := by
    rw [DeclaredType.ofName, Spellable]
    exact hDotted
  nesting_eq := by rw [DeclaredType.ofName, nesting]
  within := by simp [DeclaredType.ofName, readVariables]

/- A variable in scope is spelled by its name. -/
theorem typeVariable
    {name : String}
    (hScope : name ∈ scope)
    (hIdentifier : Name.isIdentifier name = true) :
    (DeclaredType.typeVariable name).SpelledAs scope name 0 where
  spelling_eq := by rw [spelling]
  spellable := by rw [Spellable]; trivial
  nesting_eq := by rw [nesting]
  within := by simp [readVariables, hScope, hIdentifier]

/- Arguments are spelled between angle brackets. -/
theorem applied
    {name : String}
    {texts : List String}
    {ts : List DeclaredType}
    (hDotted : Name.isDotted name = true)
    (hReference : Name.isPrimitive name = false)
    (hSome : ts ≠ [])
    (hArguments : AllSpelledAs scope texts depth ts) :
    (DeclaredType.applied name 0 [] ts).SpelledAs scope
      (name ++ "<" ++ ", ".intercalate texts ++ ">")
      (1 + depth) where
  spelling_eq := by
    rw [spelling, hArguments.spelling_eq, Name.brackets,
      String.append_empty]
  spellable := by
    rw [Spellable]
    exact ⟨hDotted, hReference, hSome, hArguments.spellable⟩
  nesting_eq := by rw [nesting, hArguments.nesting_eq]
  within := by
    rw [readVariables]
    exact hArguments.within

/- Dimensions are spelled after the type. -/
theorem addDimensions
    (count : Nat)
    (hType : t.SpelledAs scope text depth)
    (hPlain : t.isWildcard = false) :
    (t.addDimensions count).SpelledAs scope
      (text ++ Name.brackets count) depth where
  spelling_eq := by
    rw [spelling_addDimensions, hType.spelling_eq]
  spellable := (hType.spellable.addDimensions count hPlain).1
  nesting_eq := by
    rw [nesting_addDimensions, hType.nesting_eq]
  within := by
    rw [readVariables_addDimensions]
    exact hType.within

theorem anything :
    (DeclaredType.wildcard [] []).SpelledAs scope "?" 0 where
  spelling_eq := by rw [spelling]
  spellable := by rw [Spellable]; trivial
  nesting_eq := by rw [nesting]
  within := by simp [readVariables]

/- A wildcard is spelled with its bound after the keyword. -/
theorem bounded
    (relation : BoundRelation)
    (hBound : t.SpelledAs scope text depth)
    (hPlain : t.isWildcard = false) :
    (t.boundedBy relation).SpelledAs scope
      ("? " ++ relation.word ++ " " ++ text) depth := by
  have hAll := AllSpelledAs.cons hBound AllSpelledAs.nil
  have hTexts : " & ".intercalate (spellingAll [t]) = text := by
    rw [hAll.spelling_eq]
    rfl
  have hDepth : nestingAll [t] = depth := by
    rw [hAll.nesting_eq, Nat.max_zero]
  have hBounds : ∀ b ∈ [t], b.isWildcard = false := by
    simpa using hPlain
  cases relation with
  | upper =>
      refine ⟨?_, ?_, ?_, ?_⟩
      · rw [boundedBy, spelling, hTexts]
        rfl
      · rw [boundedBy, Spellable]
        exact ⟨hBounds, hAll.spellable⟩
      · rw [boundedBy, nesting, hDepth]
      · rw [boundedBy, readVariables]
        exact hAll.within
  | lower =>
      refine ⟨?_, ?_, ?_, ?_⟩
      · rw [boundedBy, spelling, hTexts]
        rfl
      · rw [boundedBy, Spellable]
        exact ⟨hBounds, hAll.spellable⟩
      · rw [boundedBy, nesting, hDepth]
      · rw [boundedBy, readVariables]
        exact hAll.within

end SpelledAs

end DeclaredType

end DeclaredApi

------------------------------------------------------------
-- Spellings of Written Types
------------------------------------------------------------

namespace DeclaredApi

open DeclaredType

variable {f : SourceFile} {scope : List String}

/- A type is declared with its own spelling. -/
def WrittenType.KeepsSpelling
    (f : SourceFile)
    (scope : List String)
    (e : WrittenType) : Prop :=
  e.Qualifies f scope →
    (e.declared f scope).SpelledAs scope (e.spelling f scope)
        e.nesting ∧
      (e.declared f scope).isWildcard = false

/- An argument is declared with its own spelling. -/
def WrittenArgument.KeepsSpelling
    (f : SourceFile)
    (scope : List String)
    (a : WrittenArgument) : Prop :=
  a.Qualifies f scope →
    (a.declared f scope).SpelledAs scope (a.spelling f scope)
      a.nesting

namespace WrittenArgument

theorem allSpelledAs_declaredAll
    {rest : List WrittenArgument}
    (hEach : ∀ a ∈ rest, a.KeepsSpelling f scope)
    (hQualify : AllQualify f scope rest) :
    AllSpelledAs scope (spellingAll f scope rest)
      (nestingAll rest) (declaredAll f scope rest) := by
  induction rest with
  | nil => exact AllSpelledAs.nil
  | cons a rest ih =>
      rw [List.forall_mem_cons] at hEach
      exact AllSpelledAs.cons (hEach.1 hQualify.1)
        (ih hEach.2 hQualify.2)

end WrittenArgument

namespace WrittenType

/- Primitive names are words. -/
theorem isDotted_of_isPrimitive
    {name : String}
    (hPrimitive : Name.isPrimitive name = true) :
    Name.isDotted name = true := by
  have hEach :
      ∀ n ∈ Name.primitives, Name.isDotted n = true := by
    decide +kernel
  exact hEach name (List.contains_iff_mem.mp hPrimitive)

/- A name in scope is an identifier. -/
theorem head_of_isVariable
    {name : WrittenName}
    (hVariable : name.isVariable scope = true) :
    name.head ∈ scope ∧ Name.isIdentifier name.head = true := by
  cases name with
  | simple word =>
      exact ⟨List.contains_iff_mem.mp hVariable, word.proper⟩
  | inside outer word => cases hVariable

/- A name is declared with its own spelling. -/
theorem keepsSpelling_named
    (name : WrittenName) :
    KeepsSpelling f scope (.named name) := by
  intro hQualifies
  rw [Qualifies] at hQualifies
  rw [declared, spelling, nesting, WrittenName.spelling]
  cases hVariable : name.isVariable scope with
  | true =>
      have hHead := head_of_isVariable hVariable
      exact ⟨SpelledAs.typeVariable hHead.1 hHead.2, rfl⟩
  | false =>
      exact ⟨SpelledAs.ofName (hQualifies hVariable).1, rfl⟩

theorem keepsSpelling :
    (∀ e : WrittenType, e.KeepsSpelling f scope) ∧
      ∀ a : WrittenArgument, a.KeepsSpelling f scope := by
  apply inductionOnParts
  case primitive =>
    intro name known hQualifies
    exact ⟨SpelledAs.ofName (isDotted_of_isPrimitive known),
      rfl⟩
  case named => exact keepsSpelling_named
  case applied =>
    intro name first rest hEach hQualifies
    rw [Qualifies] at hQualifies
    rcases hQualifies with
      ⟨hRaw, hClass, hFirst, hRest⟩
    have hAll :=
      WrittenArgument.allSpelledAs_declaredAll hEach
        ⟨hFirst, hRest⟩
    have hApplied :=
      SpelledAs.applied hClass.1 hClass.2
        (List.cons_ne_nil _ _) hAll
    rw [declared, spelling, nesting, WrittenName.spelling,
      hRaw]
    exact ⟨hApplied, rfl⟩
  case array =>
    intro element dimensions hElement hQualifies
    rw [Qualifies] at hQualifies
    rcases hElement hQualifies with ⟨hSpelled, hPlain⟩
    rw [declared, spelling, nesting]
    exact ⟨hSpelled.addDimensions dimensions hPlain,
      (hSpelled.spellable.addDimensions dimensions hPlain).2⟩
  case annotated =>
    intro e hType hQualifies
    exact hType hQualifies
  case type =>
    intro e hType hQualifies
    exact (hType hQualifies).1
  case anything => exact fun _ => SpelledAs.anything
  case bounded =>
    intro relation bound hBound hQualifies
    rcases hBound hQualifies with ⟨hSpelled, hPlain⟩
    exact SpelledAs.bounded relation hSpelled hPlain

/- What a type is read as is spelled as the type. -/
theorem spelledAs_declared
    {e : WrittenType}
    (hQualifies : e.Qualifies f scope) :
    (e.declared f scope).SpelledAs scope (e.spelling f scope)
      e.nesting :=
  (keepsSpelling.1 e hQualifies).1

end WrittenType

end DeclaredApi
