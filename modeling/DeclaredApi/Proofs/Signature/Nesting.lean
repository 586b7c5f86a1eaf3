import DeclaredApi.Proofs.Signature.Interning

/-
  The nesting of texts and of what is stored under them.

  The argument lists of a text nest to one depth, whatever
  the limit and the root object type are.  The reference that
  is read from the text nests as deep, and so does every
  reference that is ever stored under it.

  Main declarations:
    * `Phrase.nesting_tree`
    * `Signature.Nests`
    * `Signature.nests_of_read`
    * `Signature.nests_compact`
    * `Interner.Levelled`
    * `Interner.intern_levelled`
    * `Interner.parse_levelled`
-/

------------------------------------------------------------
-- Texts
------------------------------------------------------------

namespace DeclaredApi

namespace Phrase

variable {root : String}

theorem nestingAll_treeAll
    {ps : List Phrase}
    (hEach : ∀ p ∈ ps, (p.tree root).nesting = p.nesting) :
    TypeRef.nestingAll (treeAll root ps) = nestingAll ps := by
  induction ps with
  | nil => rfl
  | cons p ps ih =>
      rw [treeAll, TypeRef.nestingAll, nestingAll,
        hEach p List.mem_cons_self,
        ih fun q hq => hEach q (List.mem_cons_of_mem p hq)]

/- The tree of a phrase nests as deep as the phrase. -/
theorem nesting_tree
    (root : String)
    (p : Phrase) :
    (p.tree root).nesting = p.nesting := by
  induction p with
  | bare => rfl
  | bounded relation bound bounds ihBound ihBounds =>
      rw [tree, TypeRef.nesting, TypeRef.nestingAll, nesting,
        ihBound, nestingAll_treeAll ihBounds]
  | named word words arguments dimensions ih =>
      cases arguments with
      | nil => rfl
      | cons a as =>
          rw [tree, treeAll, TypeRef.nesting, ← treeAll, nesting,
            nestingAll_treeAll ih]

end Phrase

namespace Signature

/- The argument lists of a text nest to a depth. -/
def Nests
    (text : String)
    (depth : Nat) : Prop :=
  ∃ (p : Phrase) (limit : Nat),
    p.Derives limit text ∧ p.nesting = depth

/- A text nests to one depth only. -/
theorem Nests.unique
    {text : String}
    {depth other : Nat}
    (hDepth : Nests text depth)
    (hOther : Nests text other) :
    depth = other := by
  rcases hDepth with ⟨p, limit, hP, rfl⟩
  rcases hOther with ⟨q, more, hQ, rfl⟩
  rw [derives_unique
    (derives_mono hP (Nat.le_max_left limit more))
    (derives_mono hQ (Nat.le_max_right limit more))]

/- What is read nests as the text does, within the limit. -/
theorem nests_of_read
    {root text : String}
    {limit : Nat}
    {r : TypeRef}
    (hRead : read root limit text = .ok r) :
    Nests text r.nesting ∧ r.nesting ≤ limit := by
  rcases read_eq_ok_iff.mp hRead with ⟨p, hDerives, rfl⟩
  rw [Phrase.nesting_tree]
  exact ⟨⟨p, limit, hDerives, rfl⟩, hDerives.nesting_le⟩

/- The canonical text of a reference nests as deep as it. -/
theorem nests_compact
    {r : TypeRef}
    (root : String)
    (hWellFormed : r.WellFormed) :
    Nests (r.compact root) r.nesting :=
  (nests_of_read
    (TypeRef.read_compact hWellFormed (Nat.le_refl _))).1

end Signature

end DeclaredApi

------------------------------------------------------------
-- Stored References
------------------------------------------------------------

namespace DeclaredApi

namespace Interner

open Signature

/-
  Whatever is stored is well formed and nests as deep as its
  text, to a depth with some property.
-/
def Levelled
    (good : Nat → Prop)
    (interner : Interner) : Prop :=
  ∀ text r,
    (text, r) ∈ interner.entries →
      r.WellFormed ∧ Nests text r.nesting ∧ good r.nesting

theorem levelled_empty
    (good : Nat → Prop) :
    Levelled good {} :=
  fun _ _ hMem => absurd hMem List.not_mem_nil

variable {good : Nat → Prop}
variable {interner : Interner}
variable {config : Config}
variable {text : String}
variable {r : TypeRef}

theorem Levelled.find?
    (hLevelled : Levelled good interner)
    (hFind : interner.find? text = some r) :
    r.WellFormed ∧ Nests text r.nesting ∧ good r.nesting := by
  rcases List.lookup_eq_some_iff.mp hFind with
    ⟨before, after, hEntries, _⟩
  apply hLevelled
  rw [hEntries]
  exact List.mem_append_right _ List.mem_cons_self

/- What is returned nests as deep as what was to be stored. -/
theorem putIfAbsent_levelled
    (hLevelled : Levelled good interner)
    (hWellFormed : r.WellFormed)
    (hNests : Nests text r.nesting)
    (hGood : good r.nesting) :
    let stored := Memo.putIfAbsent text r interner
    (stored.1.WellFormed ∧ stored.1.nesting = r.nesting) ∧
      Levelled good stored.2 := by
  unfold Memo.putIfAbsent
  split
  · next stored hFind =>
      rcases hLevelled.find? hFind with ⟨hStored, hDepth, _⟩
      exact ⟨⟨hStored, hDepth.unique hNests⟩, hLevelled⟩
  · refine ⟨⟨hWellFormed, rfl⟩, ?_⟩
    intro key s hMem
    rcases List.mem_append.mp hMem with hOld | hNew
    · exact hLevelled key s hOld
    · cases List.mem_singleton.mp hNew
      exact ⟨hWellFormed, hNests, hGood⟩

theorem intern_levelled
    (config : Config)
    (hLevelled : Levelled good interner)
    (hWellFormed : r.WellFormed)
    (hGood : good r.nesting) :
    let stored := intern config r interner
    (stored.1.WellFormed ∧ stored.1.nesting = r.nesting) ∧
      Levelled good stored.2 := by
  unfold intern
  split
  · exact putIfAbsent_levelled hLevelled hWellFormed
      (nests_compact config.rootObject hWellFormed) hGood
  · exact ⟨⟨hWellFormed, rfl⟩, hLevelled⟩

/- What the grammar reads is within the limit. -/
theorem nests_of_readText
    (hRead : readText config text = .ok r) :
    r.WellFormed ∧
      Nests text r.nesting ∧ r.nesting ≤ config.depthLimit := by
  unfold readText at hRead
  split at hRead
  · next s hSignature =>
      injection hRead with hEq
      subst hEq
      exact ⟨wellFormed_of_read config.rootObject_isDotted
        hSignature, nests_of_read hSignature⟩
  · cases hRead

/- So is what is read and interned. -/
theorem readInterned_levelled
    (text : String)
    (hLevelled : Levelled good interner)
    (hGood : ∀ depth, depth ≤ config.depthLimit → good depth) :
    Levelled good (readInterned config text interner).2 ∧
      ∀ r,
        (readInterned config text interner).1 = .ok r →
          r.WellFormed ∧
            Nests text r.nesting ∧
              r.nesting ≤ config.depthLimit := by
  unfold readInterned
  cases hRead : readText config text with
  | error e =>
      refine ⟨hLevelled, ?_⟩
      intro r hOk
      cases hOk
  | ok read =>
      rcases nests_of_readText hRead with
        ⟨hWellFormed, hNests, hLimit⟩
      rcases intern_levelled config hLevelled
          hWellFormed (hGood _ hLimit) with
        ⟨⟨hStored, hDepth⟩, hAfter⟩
      refine ⟨hAfter, ?_⟩
      intro r hOk
      have hEq : (intern config read interner).1 = r :=
        Except.ok.inj hOk
      rw [← hEq, hDepth]
      exact ⟨hStored, hNests, hLimit⟩

/-
  What is parsed nests as deep as its text.  It is within the
  limit unless the text was stored before.
-/
theorem parse_levelled
    (config : Config)
    (text : String)
    (hLevelled : Levelled good interner)
    (hGood : ∀ depth, depth ≤ config.depthLimit → good depth) :
    Levelled good (parse config text interner).2 ∧
      ∀ r,
        (parse config text interner).1 = .ok r →
          (r.WellFormed ∧ Nests text r.nesting) ∧
            (r.nesting ≤ config.depthLimit ∨
              config.interns = true ∧
                interner.find? text = some r) := by
  unfold parse
  split
  · next hInterns =>
      unfold Memo.getOrCompute
      split
      · next stored hFind =>
          refine ⟨hLevelled, ?_⟩
          intro r hOk
          cases Except.ok.inj hOk
          rcases hLevelled.find? hFind with
            ⟨hWellFormed, hNests, _⟩
          exact ⟨⟨hWellFormed, hNests⟩, .inr ⟨hInterns, hFind⟩⟩
      · have hMissed : Levelled good interner.countMiss :=
          hLevelled
        have hRun :=
          readInterned_levelled text hMissed hGood
        revert hRun
        rcases readInterned config text interner.countMiss with
          ⟨result, after⟩
        rintro ⟨hAfter, hRead⟩
        cases result with
        | error e =>
            refine ⟨hAfter, ?_⟩
            intro r hOk
            cases hOk
        | ok read =>
            rcases hRead read rfl with
              ⟨hWellFormed, hNests, hLimit⟩
            rcases putIfAbsent_levelled hAfter hWellFormed hNests
                (hGood _ hLimit) with
              ⟨⟨hStored, hDepth⟩, hKept⟩
            refine ⟨hKept, ?_⟩
            intro r hOk
            have hEq :
                (Memo.putIfAbsent text read after).1 = r :=
              Except.ok.inj hOk
            rw [← hEq, hDepth]
            exact ⟨⟨hStored, hNests⟩, .inl hLimit⟩
  · refine ⟨hLevelled, ?_⟩
    intro r hOk
    rcases nests_of_readText hOk with
      ⟨hWellFormed, hNests, hLimit⟩
    exact ⟨⟨hWellFormed, hNests⟩, .inl hLimit⟩

/- Under any configuration all stored references do so. -/
theorem stores_levelled
    (config : Config) :
    Stores config (Levelled (fun _ => True)) where
  intern := by
    intro interner r hWellFormed hLevelled
    rcases intern_levelled config hLevelled
        hWellFormed trivial with
      ⟨⟨hStored, _⟩, hAfter⟩
    exact ⟨hStored, hAfter⟩
  parse := by
    intro text interner hLevelled
    rcases parse_levelled config text hLevelled
        (fun _ _ => trivial) with
      ⟨hAfter, hParsed⟩
    exact ⟨hAfter, fun r hOk => (hParsed r hOk).1.1⟩

end Interner

end DeclaredApi
