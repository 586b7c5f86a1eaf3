import DeclaredApi.Proofs.Signature.Interning

/-
  References without wildcards.

  Only wildcards are written in a way that depends on the
  root object type.  The canonical text of a reference that
  has none is the same under every root, so nothing else is
  ever stored under it, whatever roots are configured while
  references are stored.

  Main declarations:
    * `TypeRef.WildcardFree`
    * `TypeRef.compact_eq_of_wildcardFree`
    * `Interner.Unmistaken`
    * `Interner.stores_unmistaken`
    * `Interner.intern_of_wildcardFree`
-/

------------------------------------------------------------
-- Canonical Texts
------------------------------------------------------------

namespace DeclaredApi

namespace TypeRef

mutual

/- No wildcard stands anywhere in a reference. -/
def WildcardFree : TypeRef → Prop
| .simple _ _ arguments => AllWildcardFree arguments
| .wildcard _ _ => False

/- No wildcard stands anywhere in a list of references. -/
def AllWildcardFree : List TypeRef → Prop
| [] => True
| r :: rs => WildcardFree r ∧ AllWildcardFree rs

end

theorem allWildcardFree_iff
    (rs : List TypeRef) :
    AllWildcardFree rs ↔ ∀ r ∈ rs, r.WildcardFree := by
  induction rs with
  | nil => simp [AllWildcardFree]
  | cons r rs ih => simp [AllWildcardFree, ih]

/- The canonical texts of a list are those of its elements. -/
theorem compactAll_congr
    {root other : String}
    {rs : List TypeRef}
    (hEach : ∀ r ∈ rs, r.compact root = r.compact other) :
    compactAll root rs = compactAll other rs := by
  induction rs with
  | nil => rfl
  | cons r rs ih =>
      rw [List.forall_mem_cons] at hEach
      rw [compactAll, compactAll, hEach.1, ih hEach.2]

/- Without wildcards the text does not depend on the root. -/
theorem compact_eq_of_wildcardFree
    {r : TypeRef}
    (root other : String)
    (hFree : r.WildcardFree) :
    r.compact root = r.compact other := by
  induction r with
  | simple element dimensions arguments ih =>
      rw [WildcardFree, allWildcardFree_iff] at hFree
      cases arguments with
      | nil => rw [compact, compact]
      | cons a as =>
          have hArguments :
              compactAll root (a :: as) =
                compactAll other (a :: as) :=
            compactAll_congr fun b hb => ih b hb (hFree b hb)
          rw [compact, compact, hArguments]
  | wildcard relation bounds _ => exact hFree.elim

end TypeRef

end DeclaredApi

------------------------------------------------------------
-- Stored References
------------------------------------------------------------

namespace DeclaredApi

namespace Interner

open Signature

/-
  Everything that is stored is well formed, and the text of a
  reference without wildcards has no other reference.
-/
structure Unmistaken (interner : Interner) : Prop where
  wellFormed :
    ∀ {text : String} {stored : TypeRef},
      interner.find? text = some stored → stored.WellFormed
  eq_of_find? :
    ∀ {root : String} {r stored : TypeRef},
      r.WellFormed →
        r.WildcardFree →
          interner.find? (r.compact root) = some stored →
            stored = r

theorem unmistaken_empty :
    Unmistaken {} where
  wellFormed := nofun
  eq_of_find? := nofun

variable {config : Config}
variable {interner : Interner}
variable {r : TypeRef}

/-
  A reference may be stored under a text that is not the text
  of any other reference without wildcards.
-/
theorem Unmistaken.putIfAbsent
    {text : String}
    (hUnmistaken : Unmistaken interner)
    (hWellFormed : r.WellFormed)
    (hOwn :
      ∀ {root : String} {s : TypeRef},
        s.WellFormed →
          s.WildcardFree → s.compact root = text → r = s) :
    Unmistaken (Memo.putIfAbsent text r interner).2 where
  wellFormed := by
    intro other stored hFind
    rcases Memo.find?_of_find?_putIfAbsent hFind with
      hOld | ⟨_, rfl⟩
    · exact hUnmistaken.wellFormed hOld
    · exact hWellFormed
  eq_of_find? := by
    intro root s stored hS hFree hFind
    rcases Memo.find?_of_find?_putIfAbsent hFind with
      hOld | ⟨hText, rfl⟩
    · exact hUnmistaken.eq_of_find? hS hFree hOld
    · exact hOwn hS hFree hText

/- What is interned comes back well formed. -/
theorem Unmistaken.intern
    (config : Config)
    (hUnmistaken : Unmistaken interner)
    (hWellFormed : r.WellFormed) :
    (intern config r interner).1.WellFormed ∧
      Unmistaken (intern config r interner).2 := by
  unfold Interner.intern
  split
  · refine ⟨?_, hUnmistaken.putIfAbsent hWellFormed ?_⟩
    · rw [Memo.fst_putIfAbsent]
      cases hFind :
          interner.find? (r.compact config.rootObject) with
      | none => exact hWellFormed
      | some stored => exact hUnmistaken.wellFormed hFind
    · intro root s hS hFree hText
      rw [TypeRef.compact_eq_of_wildcardFree root
        config.rootObject hFree] at hText
      exact TypeRef.compact_injective hWellFormed hS hText.symm
  · exact ⟨hWellFormed, hUnmistaken⟩

/- A reference without wildcards is interned as it is. -/
theorem intern_of_wildcardFree
    (config : Config)
    (hUnmistaken : Unmistaken interner)
    (hWellFormed : r.WellFormed)
    (hFree : r.WildcardFree) :
    (intern config r interner).1 = r := by
  unfold intern
  split
  · rw [Memo.fst_putIfAbsent]
    cases hFind :
        interner.find? (r.compact config.rootObject) with
    | none => rfl
    | some stored =>
        exact hUnmistaken.eq_of_find? hWellFormed hFree hFind
  · rfl

/-
  What a text is read and interned as is what the text means,
  if it is the text of a reference without wildcards.
-/
theorem Unmistaken.readInterned
    (config : Config)
    (text : String)
    (hUnmistaken : Unmistaken interner) :
    Unmistaken (readInterned config text interner).2 ∧
      ∀ stored,
        (Interner.readInterned config text interner).1 =
            .ok stored →
          stored.WellFormed ∧
            ∀ {root : String} {s : TypeRef},
              s.WellFormed →
                s.WildcardFree →
                  s.compact root = text → stored = s := by
  unfold Interner.readInterned
  cases hRead : readText config text with
  | error e => exact ⟨hUnmistaken, nofun⟩
  | ok read =>
      have hMeans := means_of_readText hRead
      have hWellFormed :=
        hMeans.wellFormed config.rootObject_isDotted
      rcases hUnmistaken.intern config hWellFormed with
        ⟨hStored, hAfter⟩
      refine ⟨hAfter, ?_⟩
      rintro stored hOk
      cases Except.ok.inj hOk
      refine ⟨hStored, ?_⟩
      intro root s hS hFree hText
      have hCanonical := means_compact config.rootObject hS
      rw [TypeRef.compact_eq_of_wildcardFree _ root hFree,
        hText] at hCanonical
      cases hMeans.unique hCanonical
      exact intern_of_wildcardFree config hUnmistaken hS hFree

/- What is parsed is stored under the text as well. -/
theorem Unmistaken.parse
    (config : Config)
    (text : String)
    (hUnmistaken : Unmistaken interner) :
    Unmistaken (parse config text interner).2 ∧
      ∀ stored,
        (Interner.parse config text interner).1 = .ok stored →
          stored.WellFormed := by
  unfold Interner.parse
  split
  · unfold Memo.getOrCompute
    split
    · next found hFind =>
        refine ⟨⟨hUnmistaken.wellFormed, hUnmistaken.eq_of_find?⟩,
          ?_⟩
        intro stored hOk
        exact Except.ok.inj hOk ▸ hUnmistaken.wellFormed hFind
    · have hMissed : Unmistaken interner.countMiss :=
        ⟨hUnmistaken.wellFormed, hUnmistaken.eq_of_find?⟩
      have hRun := hMissed.readInterned config text
      revert hRun
      rcases Interner.readInterned config text
          interner.countMiss with
        ⟨result, after⟩
      rintro ⟨hAfter, hRead⟩
      cases result with
      | error e => exact ⟨hAfter, nofun⟩
      | ok read =>
          rcases hRead read rfl with ⟨hWellFormed, hOwn⟩
          have hKept := hAfter.putIfAbsent hWellFormed hOwn
          refine ⟨hKept, ?_⟩
          intro stored hOk
          apply hKept.wellFormed
          rw [Memo.find?_putIfAbsent_self]
          exact congrArg some (Except.ok.inj hOk)
  · refine ⟨hUnmistaken, ?_⟩
    intro stored hOk
    exact (means_of_readText hOk).wellFormed
      config.rootObject_isDotted

/- So it is kept under any configuration. -/
theorem stores_unmistaken
    (config : Config) :
    Stores config Unmistaken where
  intern := fun hWellFormed hUnmistaken =>
    hUnmistaken.intern config hWellFormed
  parse := fun text _ hUnmistaken =>
    hUnmistaken.parse config text

end Interner

end DeclaredApi
