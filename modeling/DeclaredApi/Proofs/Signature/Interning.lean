import DeclaredApi.Proofs.Action
import DeclaredApi.Proofs.Memo
import DeclaredApi.Proofs.Signature.Acceptance
import DeclaredApi.Proofs.TypeRef.RoundTrip

/-
  Soundness of the interner.

  A text means a reference if it is read as the reference
  within some limit.  In a sound interner every reference is
  stored under a text that means it, so interning returns the
  reference that was given, and parsing one that is meant.
  So does every invariant that is kept by what the two store.

  Main declarations:
    * `Signature.Means`
    * `Signature.Means.unique`
    * `Signature.means_compact`
    * `Interner.Sound`
    * `Interner.intern_of_sound`
    * `Interner.Kept`
    * `Interner.returns_parse`
    * `Interner.gives_parse`
    * `Interner.Stores`
-/

------------------------------------------------------------
-- Meanings of Texts
------------------------------------------------------------

namespace DeclaredApi

namespace Signature

/- A text is read as a reference within some limit. -/
def Means
    (root text : String)
    (r : TypeRef) : Prop :=
  ∃ limit, read root limit text = .ok r

/- What derives a text does so within a higher limit. -/
theorem derives_mono
    {p : Phrase}
    {limit more : Nat}
    {text : String}
    (hDerives : p.Derives limit text)
    (hLe : limit ≤ more) :
    p.Derives more text where
  lexemes_eq := hDerives.lexemes_eq
  grammatical := hDerives.grammatical
  nesting_le := Nat.le_trans hDerives.nesting_le hLe

/- A text that is read is read alike within a higher limit. -/
theorem read_mono
    {root : String}
    {limit more : Nat}
    {text : String}
    {r : TypeRef}
    (hRead : read root limit text = .ok r)
    (hLe : limit ≤ more) :
    read root more text = .ok r := by
  rcases read_eq_ok_iff.mp hRead with ⟨p, hDerives, hTree⟩
  exact read_eq_ok_iff.mpr ⟨p, derives_mono hDerives hLe, hTree⟩

/- A text means at most one reference. -/
theorem Means.unique
    {root text : String}
    {r s : TypeRef}
    (hR : Means root text r)
    (hS : Means root text s) :
    r = s := by
  rcases hR with ⟨limit, hReadR⟩
  rcases hS with ⟨more, hReadS⟩
  have hLeft := read_mono hReadR (Nat.le_max_left limit more)
  have hRight := read_mono hReadS (Nat.le_max_right limit more)
  rw [hLeft] at hRight
  injection hRight

/- The canonical text of a reference means the reference. -/
theorem means_compact
    {r : TypeRef}
    (root : String)
    (hWellFormed : r.WellFormed) :
    Means root (r.compact root) r :=
  ⟨r.nesting, TypeRef.read_compact hWellFormed (Nat.le_refl _)⟩

theorem Means.wellFormed
    {root text : String}
    {r : TypeRef}
    (hRoot : Name.isDotted root = true)
    (hMeans : Means root text r) :
    r.WellFormed := by
  rcases hMeans with ⟨limit, hRead⟩
  exact wellFormed_of_read hRoot hRead

end Signature

end DeclaredApi

------------------------------------------------------------
-- Sound Interners
------------------------------------------------------------

namespace DeclaredApi

namespace Interner

open Signature

/- Every reference is stored under a text that means it. -/
def Sound
    (root : String)
    (interner : Interner) : Prop :=
  ∀ text r, (text, r) ∈ interner.entries → Means root text r

theorem sound_empty
    (root : String) :
    Sound root {} :=
  fun _ _ hMem => absurd hMem List.not_mem_nil

variable {root : String} {interner : Interner}

/- What is found under a text is what the text means. -/
theorem Sound.find?
    {text : String}
    {r : TypeRef}
    (hSound : Sound root interner)
    (hFind : interner.find? text = some r) :
    Means root text r := by
  rcases List.lookup_eq_some_iff.mp hFind with
    ⟨before, after, hEntries, _⟩
  apply hSound
  rw [hEntries]
  exact List.mem_append_right _ List.mem_cons_self

/- Storing what a text means returns it, stored or not. -/
theorem putIfAbsent_of_sound
    {text : String}
    {r : TypeRef}
    (hSound : Sound root interner)
    (hMeans : Means root text r) :
    (Memo.putIfAbsent text r interner).1 = r ∧
      Sound root (Memo.putIfAbsent text r interner).2 := by
  unfold Memo.putIfAbsent
  split
  · next stored hFind =>
      exact ⟨(hSound.find? hFind).unique hMeans, hSound⟩
  · refine ⟨rfl, ?_⟩
    intro key s hMem
    rcases List.mem_append.mp hMem with hOld | hNew
    · exact hSound key s hOld
    · cases List.mem_singleton.mp hNew
      exact hMeans

/- A well-formed reference is interned as it is. -/
theorem intern_of_sound
    {config : Config}
    {r : TypeRef}
    (hSound : Sound config.rootObject interner)
    (hWellFormed : r.WellFormed) :
    (intern config r interner).1 = r := by
  unfold intern
  split
  · exact (putIfAbsent_of_sound hSound
      (means_compact config.rootObject hWellFormed)).1
  · rfl

end Interner

end DeclaredApi

------------------------------------------------------------
-- Kept Invariants
------------------------------------------------------------

namespace DeclaredApi

namespace Interner

open Signature

/-
  An invariant of sound interners that counting keeps, and
  storing a reference under a text that means it.  The text
  is the canonical one, or the canonical one came before it.
-/
structure Kept
    (root : String)
    (inv : Interner → Prop) : Prop where
  sound :
    ∀ {interner : Interner},
      inv interner → Sound root interner
  countHit :
    ∀ {interner : Interner},
      inv interner → inv interner.countHit
  countMiss :
    ∀ {interner : Interner},
      inv interner → inv interner.countMiss
  putIfAbsent :
    ∀ {interner : Interner} {text : String} {r : TypeRef},
      Means root text r →
        (text = r.compact root ∨
          interner.find? (r.compact root) = some r) →
          inv interner →
            inv (Memo.putIfAbsent text r interner).2

/- Soundness is such an invariant. -/
theorem kept_sound
    (root : String) :
    Kept root (Sound root) where
  sound := fun hSound => hSound
  countHit := fun hSound => hSound
  countMiss := fun hSound => hSound
  putIfAbsent := fun hMeans _ hSound =>
    (putIfAbsent_of_sound hSound hMeans).2

variable {inv : Interner → Prop}
variable {config : Config}
variable {interner : Interner}
variable {r : TypeRef}

/- Interning a well-formed reference keeps the invariant. -/
theorem Kept.intern
    (hKept : Kept config.rootObject inv)
    (hWellFormed : r.WellFormed)
    (hInv : inv interner) :
    inv (intern config r interner).2 := by
  unfold Interner.intern
  split
  · exact hKept.putIfAbsent
      (means_compact config.rootObject hWellFormed)
      (Or.inl rfl) hInv
  · exact hInv

/- What was interned is stored under its canonical text. -/
theorem find?_compact_of_intern
    (hInterns : config.interns = true)
    (hSound : Sound config.rootObject interner)
    (hWellFormed : r.WellFormed) :
    (intern config r interner).2.find?
        (r.compact config.rootObject) =
      some r := by
  have hStored := intern_of_sound hSound hWellFormed
  rw [intern, if_pos hInterns] at hStored ⊢
  rw [Memo.find?_putIfAbsent_self, hStored]

end Interner

end DeclaredApi

------------------------------------------------------------
-- Parsing
------------------------------------------------------------

namespace DeclaredApi

namespace Interner

open Signature

variable {config : Config}
variable {inv : Interner → Prop}

/- A text that is read by the grammar means what is read. -/
theorem means_of_readText
    {text : String}
    {r : TypeRef}
    (hRead : readText config text = .ok r) :
    Means config.rootObject text r := by
  unfold readText at hRead
  split at hRead
  · next s hSignature =>
      injection hRead with hEq
      exact ⟨config.depthLimit, hEq ▸ hSignature⟩
  · cases hRead

/-
  A text that is not stored is stored after the canonical
  text of what it is read as.
-/
theorem returns_getOrCompute
    (text : String)
    (hKept : Kept config.rootObject inv)
    (hInterns : config.interns = true) :
    Action.Returns inv (Means config.rootObject text)
      (Memo.getOrCompute text (readInterned config text)) := by
  intro interner hInv
  unfold Memo.getOrCompute
  split
  · next stored hFind =>
      refine ⟨hKept.countHit hInv, ?_⟩
      intro r hOk
      exact Except.ok.inj hOk ▸ (hKept.sound hInv).find? hFind
  · have hMissed := hKept.countMiss hInv
    unfold readInterned
    cases hRead : readText config text with
    | error e =>
        refine ⟨hMissed, ?_⟩
        intro r hOk
        cases hOk
    | ok r =>
        have hMeans := means_of_readText hRead
        have hWellFormed :=
          hMeans.wellFormed config.rootObject_isDotted
        have hSound := hKept.sound hMissed
        have hStored := intern_of_sound hSound hWellFormed
        have hCanonical :=
          find?_compact_of_intern hInterns hSound hWellFormed
        have hAfter := hKept.intern hWellFormed hMissed
        rcases hRun : intern config r interner.countMiss with
          ⟨stored, after⟩
        rw [hRun] at hStored hCanonical hAfter
        cases hStored
        simp only [hRun]
        refine
          ⟨hKept.putIfAbsent hMeans (Or.inr hCanonical) hAfter,
            ?_⟩
        intro s hOk
        have hKeeps :=
          putIfAbsent_of_sound (hKept.sound hAfter) hMeans
        have hEq :
            (Memo.putIfAbsent text stored after).1 = s :=
          Except.ok.inj hOk
        rw [← hEq, hKeeps.1]
        exact hMeans

/- Parsing a text returns what the text means. -/
theorem returns_parse
    (text : String)
    (hKept : Kept config.rootObject inv) :
    Action.Returns inv (Means config.rootObject text)
      (parse config text) := by
  unfold parse
  split
  · next hInterns =>
      exact returns_getOrCompute text hKept hInterns
  · intro interner hInv
    refine ⟨hInv, ?_⟩
    intro r hOk
    exact means_of_readText hOk

/- A text that is refused is not read, and stores nothing. -/
theorem readText_of_parse_error
    {text : String}
    {interner : Interner}
    {e : ParseError}
    (hError : (parse config text interner).1 = .error e) :
    readText config text = .error e ∧
      (parse config text interner).2.entries =
        interner.entries := by
  unfold parse at hError ⊢
  split
  · next hInterns =>
      rw [if_pos hInterns] at hError
      unfold Memo.getOrCompute readInterned at hError ⊢
      cases hFind : interner.find? text with
      | some stored =>
          rw [hFind] at hError
          cases hError
      | none =>
          rw [hFind] at hError
          cases hRead : readText config text with
          | error d =>
              rw [hRead] at hError
              exact ⟨hError, rfl⟩
          | ok r =>
              rw [hRead] at hError
              cases hError
  · next hInterns =>
      rw [if_neg hInterns] at hError
      exact ⟨hError, rfl⟩

/- A text that the grammar reads is always parsed alike. -/
theorem gives_parse
    {text : String}
    {r : TypeRef}
    (hKept : Kept config.rootObject inv)
    (hRead : readText config text = .ok r) :
    Action.Gives inv (.ok r) (parse config text) := by
  intro interner hInv
  have hReturns := returns_parse text hKept interner hInv
  refine ⟨?_, hReturns.1⟩
  cases hRun : (parse config text interner).1 with
  | error e =>
      have hRefused := (readText_of_parse_error hRun).1
      rw [hRead] at hRefused
      cases hRefused
  | ok s =>
      have hMeans := hReturns.2 s hRun
      rw [hMeans.unique (means_of_readText hRead)]

end Interner

end DeclaredApi

------------------------------------------------------------
-- Well-Formed References
------------------------------------------------------------

namespace DeclaredApi

namespace Interner

variable {config : Config}
variable {inv : Interner → Prop}

/-
  Under a configuration, interning a well-formed reference
  and parsing keep an invariant and return well-formed
  references, though not always what they are given.
-/
structure Stores
    (config : Config)
    (inv : Interner → Prop) : Prop where
  intern :
    ∀ {interner : Interner} {r : TypeRef},
      r.WellFormed →
        inv interner →
          (intern config r interner).1.WellFormed ∧
            inv (intern config r interner).2
  parse :
    ∀ text,
      Action.Returns inv TypeRef.WellFormed (parse config text)

/- What storing keeps of sound interners is one case. -/
theorem Kept.stores
    (hKept : Kept config.rootObject inv) :
    Stores config inv where
  intern := by
    intro interner r hWellFormed hInv
    refine ⟨?_, hKept.intern hWellFormed hInv⟩
    rw [intern_of_sound (hKept.sound hInv) hWellFormed]
    exact hWellFormed
  parse := by
    intro text
    apply (returns_parse text hKept).mono
    intro r hMeans
    exact hMeans.wellFormed config.rootObject_isDotted

theorem returns_parseValue
    (value : Json)
    (hStores : Stores config inv) :
    Action.Returns inv TypeRef.WellFormed
      (parseValue config value) := by
  have hOther :
      ∀ e : ParseError,
        Action.Returns inv TypeRef.WellFormed
          (fun interner => (.error e, interner)) :=
    fun e => Action.returns_throw TypeRef.WellFormed e
  cases value with
  | str text => exact hStores.parse text
  | null => exact hOther _
  | bool b => exact hOther _
  | int i => exact hOther _
  | float x => exact hOther _
  | list items => exact hOther _
  | object fields => exact hOther _
  | foreign kind shown => exact hOther _

end Interner

end DeclaredApi
