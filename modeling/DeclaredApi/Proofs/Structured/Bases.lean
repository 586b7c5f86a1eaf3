import DeclaredApi.Proofs.Signature.Nesting
import DeclaredApi.Proofs.Structured.RoundTrip

/-
  Bases of structured forms.

  The base of a named type loses its spaces and no other
  blanks.  So a base with texts for its arguments is read
  exactly if it names a type that takes arguments once its
  spaces are taken out.

  Main declarations:
    * `Structured.applied`
    * `Structured.readBase_of_not_mem`
    * `Structured.readNode_applied_eq_ok_iff`
-/

------------------------------------------------------------
-- Bases without Brackets
------------------------------------------------------------

namespace DeclaredApi

/- Without an opening bracket there are no dimensions. -/
theorem Name.splitDimensions_of_not_mem
    {base : String}
    (hBracket : '[' ∉ base.toList) :
    Name.splitDimensions base = (base, 0) := by
  have hNone :
      Name.takeBrackets base.toList.reverse =
        (base.toList.reverse, 0) := by
    unfold Name.takeBrackets
    split
    · next rest hReverse =>
        have hMem : '[' ∈ base.toList.reverse := by
          rw [hReverse]
          simp
        exact absurd (List.mem_reverse.mp hMem) hBracket
    · rfl
  rw [Name.splitDimensions, hNone]
  simp

namespace Structured

/- The form of a base with texts for its type arguments. -/
def applied
    (base : String)
    (texts : List String) : Json :=
  .object (namedFields base (texts.map .str))

/- Nor are there any when the spaces are taken out. -/
theorem splitDimensions_withoutSpaces
    {base : String}
    (hBracket : '[' ∉ base.toList) :
    Name.splitDimensions (Text.withoutSpaces base) =
      (Text.withoutSpaces base, 0) := by
  apply Name.splitDimensions_of_not_mem
  rw [Text.withoutSpaces, String.toList_ofList, List.mem_filter]
  exact fun hMem => hBracket hMem.1

/- A base without brackets is a name without its spaces. -/
theorem readBase_of_not_mem
    {base : String}
    (path : String)
    (hBracket : '[' ∉ base.toList) :
    readBase path base =
      if Name.isDotted (Text.withoutSpaces base) then
        pure (Text.withoutSpaces base)
      else
        refuse path baseKey "dotted type name"
          (.str (Text.withoutSpaces base)) := by
  simp only [readBase, Name.isBase,
    splitDimensions_withoutSpaces hBracket]

end Structured

end DeclaredApi

------------------------------------------------------------
-- Applied Bases
------------------------------------------------------------

namespace DeclaredApi

namespace Structured

open Interner

variable {config : Config}
variable {inv : Interner → Prop}
variable {base : String}
variable {texts : List String}
variable {rs : List TypeRef}

/- Arguments that are read make a named type. -/
theorem wellFormed_applied
    {name : String}
    (hTakes : Name.takesArguments name = true)
    (hTexts :
      List.Forall₂ (fun text r => readText config text = .ok r)
        texts rs) :
    (TypeRef.simple name 0 rs).WellFormed := by
  rw [Name.takesArguments, Bool.and_eq_true,
    Bool.not_eq_true'] at hTakes
  rw [TypeRef.WellFormed, TypeRef.allWellFormed_iff, hTakes.2]
  refine ⟨hTakes.1, fun h => absurd h Bool.false_ne_true, ?_⟩
  exact ((List.forall₂_and_left rs texts).mp
    (hTexts.flip.imp fun _ _ hRead =>
      ⟨(nests_of_readText hRead).1, hRead⟩)).1

/- A base that takes arguments is read with them. -/
theorem gives_readNode_applied
    (path : String)
    (hKept : Kept config.rootObject inv)
    (hQuestion : '?' ∉ base.toList)
    (hBracket : '[' ∉ base.toList)
    (hTakes :
      Name.takesArguments (Text.withoutSpaces base) = true)
    (hTexts :
      List.Forall₂ (fun text r => readText config text = .ok r)
        texts rs) :
    Action.Gives inv
      (.ok (.simple (Text.withoutSpaces base) 0 rs))
      (readNode config path (applied base texts)) := by
  have hRead :
      Action.Gives inv (.ok rs)
        (readItems config (keyPath path parametersKey) false 0
          (texts.map Json.str)) := by
    apply gives_readItems _ false 0
      (fun h => absurd h Bool.false_ne_true)
    rw [List.forall₂_map_left_iff]
    apply hTexts.imp
    intro text r hText path
    rw [readNode]
    exact gives_readSignature hKept hText
  have hWellFormed := wellFormed_applied hTakes hTexts
  have hSplit := splitDimensions_withoutSpaces hBracket
  rw [Name.takesArguments, Bool.and_eq_true,
    Bool.not_eq_true'] at hTakes
  have hBuilt :
      TypeRef.ofBase (Text.withoutSpaces base) rs =
        .ok (.simple (Text.withoutSpaces base) 0 rs) := by
    rw [TypeRef.ofBase_eq_ok_iff, hSplit]
    exact ⟨hTakes.1, by simp [hTakes.2], rfl⟩
  rw [applied, readNode_namedFields path
      (trimBlanks_ne hQuestion),
    readBase_of_not_mem path hBracket, if_pos hTakes.1,
    pure_bind, Name.isPrimitiveFamily, hSplit, hTakes.2,
    Bool.and_false, if_neg Bool.false_ne_true]
  exact hRead.bind_ok
    (gives_internRead hKept hBuilt hWellFormed)

/- Any other base is refused with them. -/
theorem readNode_applied_of_not_takes
    {r : TypeRef}
    (path : String)
    (interner : Interner)
    (hQuestion : '?' ∉ base.toList)
    (hBracket : '[' ∉ base.toList)
    (hSome : texts ≠ [])
    (hTakes :
      Name.takesArguments (Text.withoutSpaces base) = false) :
    (readNode config path (applied base texts) interner).1 ≠
      .ok r := by
  have hItems : (texts.map Json.str).isEmpty = false := by
    simpa using hSome
  rw [applied, readNode_namedFields path
      (trimBlanks_ne hQuestion),
    readBase_of_not_mem path hBracket, hItems]
  rw [Name.takesArguments, Bool.and_eq_false_iff,
    Bool.not_eq_false'] at hTakes
  cases hDotted : Name.isDotted (Text.withoutSpaces base) with
  | false =>
      rw [if_neg Bool.false_ne_true]
      intro hOk
      cases hOk
  | true =>
      rw [hDotted] at hTakes
      have hPrimitive := hTakes.resolve_left (by decide)
      rw [if_pos rfl, pure_bind, Name.isPrimitiveFamily,
        splitDimensions_withoutSpaces hBracket, hPrimitive,
        Bool.not_false, Bool.and_self, if_pos rfl]
      intro hOk
      cases hOk

/-
  In a sound interner, a base with arguments is read exactly
  if it names a type that takes them without its spaces.
-/
theorem readNode_applied_eq_ok_iff
    {r : TypeRef}
    (path : String)
    (interner : Interner)
    (hSound : Sound config.rootObject interner)
    (hQuestion : '?' ∉ base.toList)
    (hBracket : '[' ∉ base.toList)
    (hSome : texts ≠ [])
    (hTexts :
      List.Forall₂ (fun text r => readText config text = .ok r)
        texts rs) :
    (readNode config path (applied base texts) interner).1 =
        .ok r ↔
      Name.takesArguments (Text.withoutSpaces base) = true ∧
        r = .simple (Text.withoutSpaces base) 0 rs := by
  cases hTakes :
      Name.takesArguments (Text.withoutSpaces base) with
  | false =>
      refine iff_of_false ?_ (by simp)
      exact readNode_applied_of_not_takes path interner hQuestion
        hBracket hSome hTakes
  | true =>
      rw [(gives_readNode_applied path (kept_sound _) hQuestion
        hBracket hTakes hTexts interner hSound).1]
      simp [eq_comm]

end Structured

end DeclaredApi
