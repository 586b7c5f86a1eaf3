import DeclaredApi.Proofs.Declaration.Classes
import DeclaredApi.Proofs.Resolution.Erasure
import DeclaredApi.Proofs.TypeRef.Leaves

/-
  Leaves of resolved types.

  A leaf of the reference of a declared type is the root, a
  class that the type names, or a variable that is declared
  where the type is resolved.  With erasure no variable is
  left, but a class may be named by the bound of a variable.

  Main declarations:
    * `Resolution.NamesClass`
    * `Resolution.Supplies`
    * `Resolution.supplies_of_reference`
-/

------------------------------------------------------------
-- Leaves of Named Types
------------------------------------------------------------

namespace DeclaredApi

theorem TypeRef.leaves_addDimensions
    (r : TypeRef)
    (count : Nat) :
    (r.addDimensions count).leaves = r.leaves := by
  rcases r with ⟨element, dimensions, arguments⟩ | _
  · cases arguments with
    | nil => rfl
    | cons a as => rw [addDimensions, leaves, leaves]
  · rfl

namespace ResolveScope

/- A named type is a leaf, or has those of its arguments. -/
theorem mem_leaves_of_ofBase
    {base e : String}
    {arguments : List TypeRef}
    {r : TypeRef}
    (hOk : ofBase base arguments = .ok r)
    (hLeaf : e ∈ r.leaves) :
    e = (Name.splitDimensions base).1 ∨
      ∃ a ∈ arguments, e ∈ a.leaves := by
  rw [eq_simple_of_ofBase hOk] at hLeaf
  cases arguments with
  | nil =>
      rw [TypeRef.leaves] at hLeaf
      exact Or.inl (List.mem_singleton.mp hLeaf)
  | cons a as =>
      rw [TypeRef.leaves] at hLeaf
      exact Or.inr (TypeRef.mem_leavesAll.mp hLeaf)

/-
  An erasure is the root, or the class of a first bound of a
  parameter on the chain.
-/
theorem ErasesTo.mem_leaves
    {s : ResolveScope}
    {siblings : List TypeParameter}
    {seen : List String}
    {p : TypeParameter}
    {r : TypeRef}
    {e : String}
    (hErases : s.ErasesTo siblings seen p r)
    (hLeaf : e ∈ r.leaves) :
    e = s.root ∨
      ∃ q base,
        (q = p ∨ q ∈ siblings ∨
            ∃ name,
              s.registry.findVariable s.scope s.member name =
                some q) ∧
          base ∈ q.classBases ∧
            e = (Name.splitDimensions base).1 := by
  induction hErases with
  | again _ =>
      left
      simpa [TypeRef.named, TypeRef.leaves] using hLeaf
  | unbounded _ _ =>
      left
      rw [TypeRef.leaves_addDimensions] at hLeaf
      simpa [TypeRef.named, TypeRef.leaves] using hLeaf
  | @className seen p base layers r _ hTip hBase =>
      right
      rw [TypeRef.leaves_addDimensions] at hLeaf
      refine ⟨p, base, Or.inl rfl, ?_, ?_⟩
      · apply TypeParameter.mem_classBases_of_tip
        rw [hTip]
      · rcases mem_leaves_of_ofBase hBase hLeaf with
          hElement | ⟨a, ha, _⟩
        · exact hElement
        · exact absurd ha List.not_mem_nil
  | @variableName seen p q next layers r _ _ hFound _ ih =>
      rw [TypeRef.leaves_addDimensions] at hLeaf
      rcases ih hLeaf with hRoot | ⟨o, base, hWhere, hClass⟩
      · exact Or.inl hRoot
      · refine Or.inr ⟨o, base, Or.inr ?_, hClass⟩
        rcases hWhere with rfl | hElse
        · rcases mem_or_findVariable hFound with
            hSibling | hScope
          · exact Or.inl hSibling
          · exact Or.inr ⟨next, hScope⟩
        · exact hElse

end ResolveScope

end DeclaredApi

------------------------------------------------------------
-- Leaves of References
------------------------------------------------------------

namespace DeclaredApi

namespace Resolution

/-
  A class is named by a type, or with erasure by a bound of
  a variable in scope.
-/
inductive NamesClass
    (r : Resolution)
    (t : DeclaredType)
    (base : String) : Prop
| inType (hBase : base ∈ t.classBases) : NamesClass r t base
| inBound
    {name : String}
    {q : TypeParameter}
    (hErases : r.erases = true)
    (hFound :
      r.registry.findVariable r.scope r.member name = some q)
    (hBase : base ∈ q.classBases) :
    NamesClass r t base

/- Where the name of a leaf can come from. -/
inductive Supplies
    (r : Resolution)
    (t : DeclaredType) : String → Prop
| root : Supplies r t r.config.rootObject
| className
    {base : String}
    (hNamed : r.NamesClass t base) :
    Supplies r t (Name.splitDimensions base).1
| variableName
    {v : String}
    (hSymbolic : r.erases = false)
    (hMention : v ∈ t.mentions)
    (hDeclared :
      r.registry.declares r.scope r.member v = true) :
    Supplies r t (Name.splitDimensions v).1

variable {r : Resolution}

/- A larger type supplies what a part of it does. -/
theorem Supplies.mono
    {t u : DeclaredType}
    {e : String}
    (hSupplies : r.Supplies u e)
    (hClasses : u.classBases ⊆ t.classBases)
    (hMentions : u.mentions ⊆ t.mentions) :
    r.Supplies t e := by
  cases hSupplies with
  | root => exact .root
  | className hNamed =>
      cases hNamed with
      | inType hBase => exact .className (.inType (hClasses hBase))
      | inBound hErases hFound hBase =>
          exact .className (.inBound hErases hFound hBase)
  | variableName hSymbolic hMention hDeclared =>
      exact .variableName hSymbolic (hMentions hMention)
        hDeclared

/- A type supplies what each type of a list in it does. -/
theorem Supplies.of_mem
    {t u : DeclaredType}
    {ts : List DeclaredType}
    {e : String}
    (hSupplies : r.Supplies u e)
    (hMem : u ∈ ts)
    (hClasses :
      DeclaredType.classBasesAll ts ⊆ t.classBases)
    (hMentions : DeclaredType.mentionsAll ts ⊆ t.mentions) :
    r.Supplies t e :=
  hSupplies.mono
    (fun _ hBase => hClasses
      (DeclaredType.mem_classBasesAll.mpr ⟨u, hMem, hBase⟩))
    (fun _ hMention => hMentions
      (DeclaredType.mem_mentionsAll.mpr ⟨u, hMem, hMention⟩))

/- A variable that is not erased is declared. -/
theorem symbolicVariable_of_eq_ok
    {v : String}
    {reference : TypeRef}
    (hSymbolic : r.erases = false)
    (hOk : r.variableRef v = .ok reference) :
    r.registry.declares r.scope r.member v = true ∧
      ResolveScope.ofBase v [] = .ok reference := by
  rcases Result.bind_eq_ok_iff.mp hOk with ⟨p, hRequire, hOk⟩
  rw [hSymbolic, if_neg Bool.false_ne_true] at hOk
  refine ⟨?_, hOk⟩
  simp only [ResolveScope.require, Registry.requireVariable,
    toScope] at hRequire
  unfold Registry.declares
  cases hFind : r.registry.findVariable r.scope r.member v with
  | some q => rfl
  | none =>
      rw [hFind] at hRequire
      cases hRequire

/- The leaf of a variable is its name or its erasure. -/
theorem supplies_of_variableRef
    {v e : String}
    {reference : TypeRef}
    (hOk : r.variableRef v = .ok reference)
    (hLeaf : e ∈ reference.leaves) :
    r.Supplies (.typeVariable v) e := by
  cases hErases : r.erases with
  | false =>
      rcases symbolicVariable_of_eq_ok hErases hOk with
        ⟨hDeclared, hBase⟩
      rcases ResolveScope.mem_leaves_of_ofBase hBase hLeaf with
        rfl | ⟨a, ha, _⟩
      · apply Supplies.variableName hErases _ hDeclared
        rw [DeclaredType.mentions]
        exact List.mem_singleton_self v
      · exact absurd ha List.not_mem_nil
  | true =>
      have hReference :
          r.reference (.typeVariable v) = .ok reference := by
        rw [Resolution.reference]
        exact hOk
      rcases (erasedVariable_eq_ok_iff hErases).mp hReference
        with ⟨p, hFound, hChain⟩
      rcases hChain.mem_leaves hLeaf with
        rfl | ⟨q, base, hWhere, hBase, rfl⟩
      · exact .root
      · apply Supplies.className
        rcases hWhere with rfl | hSibling | ⟨name, hScope⟩
        · exact .inBound hErases hFound hBase
        · exact absurd hSibling List.not_mem_nil
        · exact .inBound hErases hScope hBase

/- The leaves of a class are its name or erased parameters. -/
theorem supplies_of_namedRef
    {name e : String}
    {dimensions : Nat}
    {parameters : List TypeParameter}
    {reference : TypeRef}
    (hOk :
      r.namedRef name dimensions parameters = .ok reference)
    (hLeaf : e ∈ reference.leaves) :
    r.Supplies (.named name dimensions parameters) e := by
  have hElement :
      r.Supplies (.named name dimensions parameters)
        (Name.splitDimensions
          (name ++ Name.brackets dimensions)).1 := by
    apply Supplies.className
    apply NamesClass.inType
    rw [DeclaredType.classBases]
    exact List.mem_cons_self
  unfold namedRef at hOk
  split at hOk
  · next hErases =>
      rcases Result.bind_eq_ok_iff.mp hOk with
        ⟨arguments, hArguments, hBase⟩
      rcases ResolveScope.mem_leaves_of_ofBase hBase hLeaf with
        rfl | ⟨a, ha, hLeaf⟩
      · exact hElement
      · rcases ResolveScope.exists_of_mem_eraseAll hArguments ha
          with ⟨p, hp, hErase⟩
        have hCarried :
            ∀ q ∈ parameters, ∀ base ∈ q.classBases,
              r.NamesClass (.named name dimensions parameters)
                base := by
          intro q hq base hBase
          apply NamesClass.inType
          rw [DeclaredType.classBases]
          apply List.mem_cons_of_mem
          exact TypeParameter.mem_classBasesAll.mpr
            ⟨q, hq, hBase⟩
        rcases (ResolveScope.erase_eq_ok_iff.mp
            hErase).mem_leaves hLeaf with
          rfl | ⟨q, base, hWhere, hBase, rfl⟩
        · exact .root
        · apply Supplies.className
          rcases hWhere with rfl | hSibling | ⟨name, hScope⟩
          · exact hCarried q hp base hBase
          · exact hCarried q hSibling base hBase
          · exact .inBound hErases hScope hBase
  · rcases Result.bind_eq_ok_iff.mp hOk with
      ⟨arguments, hArguments, hBase⟩
    cases hArguments
    rcases ResolveScope.mem_leaves_of_ofBase hBase hLeaf with
      rfl | ⟨a, ha, _⟩
    · exact hElement
    · exact absurd ha List.not_mem_nil

/- Each leaf of a reference is supplied by the type. -/
theorem supplies_of_reference
    {t : DeclaredType}
    {reference : TypeRef}
    {e : String}
    (hOk : r.reference t = .ok reference)
    (hLeaf : e ∈ reference.leaves) :
    r.Supplies t e := by
  induction t using DeclaredType.inductionOnRead
    generalizing reference with
  | named name dimensions parameters =>
      rw [Resolution.reference] at hOk
      exact supplies_of_namedRef hOk hLeaf
  | applied name dimensions parameters arguments ih =>
      rcases reference_applied_eq_ok_iff.mp hOk with
        ⟨references, hArguments, hBase⟩
      rcases ResolveScope.mem_leaves_of_ofBase hBase hLeaf with
        rfl | ⟨a, ha, hLeaf⟩
      · apply Supplies.className
        apply NamesClass.inType
        rw [DeclaredType.classBases]
        exact List.mem_cons_self
      · rcases Result.exists_of_mem_mapM hArguments ha with
          ⟨u, hu, hReference⟩
        apply (ih u hu hReference hLeaf).of_mem hu
        · rw [DeclaredType.classBases]
          exact List.subset_cons_of_subset _
            (List.subset_append_right _ _)
        · rw [DeclaredType.mentions]
          exact List.subset_append_right _ _
  | arrayOf component ih =>
      rcases reference_arrayOf_eq_ok_iff.mp hOk with
        ⟨element, hElement, _, rfl⟩
      rw [TypeRef.leaves_addDimensions] at hLeaf
      apply (ih hElement hLeaf).mono
      · rw [DeclaredType.classBases]
        exact List.Subset.refl _
      · rw [DeclaredType.mentions]
        exact List.Subset.refl _
  | unbounded =>
      rw [Resolution.reference] at hOk
      cases hOk
      have hRoot : e = r.config.rootObject := by
        simpa [TypeRef.unbounded, TypeRef.named,
          TypeRef.leaves, TypeRef.leavesAll] using hLeaf
      exact hRoot ▸ .root
  | bounded hReads ih =>
      rcases (reference_wildcard_eq_ok_iff hReads).mp hOk with
        ⟨bounds, hBounds, rfl⟩
      rw [TypeRef.leaves] at hLeaf
      rcases TypeRef.mem_leavesAll.mp hLeaf with ⟨b, hb, hLeaf⟩
      rcases Result.exists_of_mem_mapM hBounds hb with
        ⟨u, hu, hBound⟩
      have hReference := (boundReference_eq_ok_iff.mp hBound).1
      exact (ih u hu hReference hLeaf).of_mem hu
        hReads.classBases_subset hReads.mentions_subset
  | typeVariable name =>
      rw [Resolution.reference] at hOk
      exact supplies_of_variableRef hOk hLeaf
  | unsupported =>
      rw [Resolution.reference] at hOk
      cases hOk

end Resolution

end DeclaredApi
