import DeclaredApi.Proofs.Resolution.Wildcards
import DeclaredApi.Proofs.Session.History
import DeclaredApi.Proofs.Structured.Wildcards

/-
  Changes of the root object type.

  The canonical text of a reference depends on the root: the
  unbounded wildcards of two roots have the same text.  What
  was stored under one root is still found after another one
  is configured, so that a bare question mark may come back
  with the bound that it had before, and interning may return
  another reference than the one that is given.  Nothing of
  the kind happens after a history that stores references
  under the current root only.

  Main declarations:
    * `Session.Operation.StoresUnder`
    * `Session.StoresUnder`
    * `Session.sound_of_storesUnder`
    * `Session.wildcards_have_root`
    * `Session.stale_root_returned`
-/

------------------------------------------------------------
-- Interning Switched Off
------------------------------------------------------------

namespace DeclaredApi

namespace Interner

variable {config : Config}

/- Without interning nothing is stored, so all is kept. -/
theorem stores_of_not_interning
    (inv : Interner → Prop)
    (hOff : config.interns = false) :
    Stores config inv where
  intern := by
    intro interner r hWellFormed hInv
    rw [intern, hOff]
    exact ⟨hWellFormed, hInv⟩
  parse := by
    intro text interner hInv
    rw [parse, hOff]
    refine ⟨hInv, ?_⟩
    intro r hRead
    exact (means_of_readText hRead).wellFormed
      config.rootObject_isDotted

end Interner

end DeclaredApi

------------------------------------------------------------
-- Histories under One Root
------------------------------------------------------------

namespace DeclaredApi

namespace Session

namespace Operation

/- An operation stores references under one root only. -/
def StoresUnder
    (root : String)
    (op : Operation)
    (s : Session) : Prop :=
  op.MayStore →
    s.config.interns = true → s.config.rootObject = root

/- What may store references configures nothing. -/
theorem configures_of_mayStore
    {op : Operation}
    {allowed : Config → Prop}
    (hStore : op.MayStore) :
    op.Configures allowed := by
  cases op with
  | configure config => exact hStore.elim
  | _ => exact trivial

/- A session has an interner that is sound for a root. -/
abbrev SoundFor (root : String) : Session → Prop :=
  Satisfies (fun _ => True) (Interner.Sound root)

/- Storing under the root keeps the interner sound for it. -/
theorem soundFor_of_mayStore
    {op : Operation}
    {root : String}
    {s : Session}
    (hStore : op.MayStore)
    (hUnder : op.StoresUnder root s)
    (hSound : SoundFor root s) :
    SoundFor root (op.step s) := by
  have hCurrent :
      Interner.Stores s.config (Interner.Sound root) := by
    cases hInterns : s.config.interns with
    | false => exact Interner.stores_of_not_interning _ hInterns
    | true =>
        rw [← hUnder hStore hInterns]
        exact (Interner.kept_sound _).stores
  have hStores :
      ∀ config,
        config = s.config →
          Interner.Stores config (Interner.Sound root) := by
    rintro config rfl
    exact hCurrent
  have hAfter :
      Satisfies (fun config => config = s.config)
        (Interner.Sound root) (op.step s) :=
    satisfies_step hStores (fun _ => Interner.sound_empty root)
      (configures_of_mayStore hStore) ⟨rfl, hSound.interner⟩
  exact ⟨trivial, hAfter.interner⟩

/- The other operations store nothing. -/
theorem soundFor_step
    {op : Operation}
    {root : String}
    {s : Session}
    (hUnder : op.StoresUnder root s)
    (hSound : SoundFor root s) :
    SoundFor root (op.step s) := by
  have hFresh : op = .reset → Interner.Sound root {} :=
    fun _ => Interner.sound_empty root
  by_cases hStore : op.MayStore
  · exact soundFor_of_mayStore hStore hUnder hSound
  · refine hSound.step_of_not_mayStore hStore hFresh ?_
    cases op <;> trivial

end Operation

/- A history stores references under one root only. -/
def StoresUnder
    (root : String) : List Operation → Session → Prop
| [], _ => True
| op :: ops, s =>
    op.StoresUnder root s ∧ StoresUnder root ops (op.step s)

theorem soundFor_run
    {ops : List Operation}
    {root : String}
    {s : Session}
    (hUnder : StoresUnder root ops s)
    (hSound : Operation.SoundFor root s) :
    Operation.SoundFor root (run ops s) := by
  induction ops generalizing s with
  | nil => exact hSound
  | cons op ops ih =>
      exact ih hUnder.2
        (Operation.soundFor_step hUnder.1 hSound)

/- After such a history since a reset the interner is sound. -/
theorem sound_of_storesUnder
    {start : Session}
    {ops : List Operation}
    {root : String}
    (hUnder : StoresUnder root ops (reset start).2) :
    (run ops (reset start).2).interner.Sound root := by
  have hFresh : Operation.SoundFor root (reset start).2 :=
    ⟨trivial, Interner.sound_empty root⟩
  exact (soundFor_run hUnder hFresh).interner

end Session

end DeclaredApi

------------------------------------------------------------
-- Stale Entries
------------------------------------------------------------

namespace DeclaredApi

namespace Interner

variable {config : Config}
variable {interner : Interner}

/- Interning returns what it is given if nothing else is stored. -/
theorem intern_eq_iff
    {r : TypeRef} :
    (intern config r interner).1 = r ↔
      (config.interns = true →
        ∀ stored,
          interner.find? (r.compact config.rootObject) =
              some stored →
            stored = r) := by
  unfold intern
  split
  · next hInterns =>
      rw [Memo.fst_putIfAbsent]
      cases interner.find? (r.compact config.rootObject) with
      | none => simp
      | some stored => simp [hInterns]
  · next hOff => simp [hOff]

/-
  A text that is not stored is parsed as the reference that
  is stored under the canonical text, if there is one.
-/
theorem parse_of_find?_eq_none
    {text : String}
    {r : TypeRef}
    (hInterns : config.interns = true)
    (hRead : readText config text = .ok r)
    (hNone : interner.find? text = none) :
    (parse config text interner).1 =
      .ok (intern config r interner).1 := by
  have hMissed :
      ∀ key, interner.countMiss.find? key = interner.find? key :=
    fun _ => rfl
  simp only [parse, hInterns, if_true, Memo.getOrCompute, hNone,
    readInterned, hRead, intern, Memo.fst_putIfAbsent,
    Memo.find?_putIfAbsent, hMissed, Option.none_or]
  by_cases hSame : text = r.compact config.rootObject
  · rw [← hSame, hNone, beq_self_eq_true, if_pos rfl]
    rfl
  · rw [beq_eq_false_iff_ne.mpr hSame]
    rfl

/-
  A text is parsed as it is read, if nothing else is stored
  under the text, or else under the canonical text.
-/
theorem parse_eq_iff
    {text : String}
    {r : TypeRef}
    (hRead : readText config text = .ok r) :
    (parse config text interner).1 = .ok r ↔
      (config.interns = true →
        ∀ stored,
          (interner.find? text).or
              (interner.find? (r.compact config.rootObject)) =
              some stored →
            stored = r) := by
  cases hInterns : config.interns with
  | false => simp [parse, hInterns, hRead]
  | true =>
      cases hFind : interner.find? text with
      | none =>
          rw [parse_of_find?_eq_none hInterns hRead hFind,
            Except.ok.injEq, intern_eq_iff, hInterns,
            Option.none_or]
      | some stored =>
          simp [parse, hInterns, Memo.getOrCompute, hFind]

end Interner

end DeclaredApi

------------------------------------------------------------
-- The Root of Wildcards
------------------------------------------------------------

namespace DeclaredApi

namespace Session

/-
  After any history, interning and parsing return what they
  are asked for exactly if no other reference is stored under
  the text.  None is if, since the reset, references were
  stored under the current root only.  Then a text within the
  limit is parsed as the grammar reads it, a declared type is
  resolved as without an interner, and every unconstrained
  wildcard of a text, form or declared type comes back, at
  the same position, with the current root for its bound.
-/
theorem wildcards_have_root
    (start : Session)
    (ops : List Operation) :
    let s := run ops (reset start).2
    let root := s.config.rootObject
    (∀ r,
      (Interner.intern s.config r s.interner).1 = r ↔
        (s.config.interns = true →
          ∀ stored,
            s.interner.find? (r.compact root) = some stored →
              stored = r)) ∧
      (∀ text r,
        Interner.readText s.config text = .ok r →
          ((parse text s).1 = .ok r ↔
            (s.config.interns = true →
              ∀ stored,
                (s.interner.find? text).or
                    (s.interner.find? (r.compact root)) =
                    some stored →
                  stored = r))) ∧
      (StoresUnder root ops (reset start).2 →
        (∀ r,
          r.WellFormed →
            (Interner.intern s.config r s.interner).1 = r) ∧
          (∀ text r,
            Interner.readText s.config text = .ok r →
              (parse text s).1 = .ok r) ∧
          (∀ text r,
            (parse text s).1 = .ok r →
              r.UnboundedAt root
                (Signature.UnconstrainedAt text)) ∧
          (∀ path node r,
            (readStructured path node s).1 = .ok r →
              r.UnboundedAt root
                (Structured.UnconstrainedAt node)) ∧
          ∀ scope member erases t,
            (resolve scope member erases t s).1 =
                Resolution.reference
                  ⟨s.config, s.registry, scope, member, erases⟩
                  t ∧
              ∀ r,
                (resolve scope member erases t s).1 = .ok r →
                  r.UnboundedAt root t.UnconstrainedAt) := by
  intro s root
  refine ⟨fun r => Interner.intern_eq_iff,
    fun text r hRead => Interner.parse_eq_iff hRead, ?_⟩
  intro hUnder
  have hSound : s.interner.Sound root :=
    sound_of_storesUnder hUnder
  have hKept := Interner.kept_sound root
  refine ⟨?_, ?_, ?_, ?_, ?_⟩
  · intro r hWellFormed
    exact Interner.intern_of_sound hSound hWellFormed
  · intro text r hRead
    exact (Interner.gives_parse hKept hRead s.interner hSound).1
  · intro text r hOk
    exact (Structured.returns_parse_unboundedAt text hKept
      s.interner hSound).2 r hOk
  · intro path node r hOk
    exact (Structured.returns_readNode_unboundedAt node hKept path
      s.interner hSound).2 r (Structured.read_eq_ok_iff.mp hOk)
  · intro scope member erases t
    have hReference :
        (resolve scope member erases t s).1 =
          Resolution.reference
            ⟨s.config, s.registry, scope, member, erases⟩ t :=
      (Resolution.gives_resolve
        (r := ⟨s.config, s.registry, scope, member, erases⟩)
        t hKept s.interner hSound).1
    refine ⟨hReference, ?_⟩
    intro r hOk
    rw [hReference] at hOk
    exact Resolution.unboundedAt_reference hOk

/- A configuration with another root object type. -/
def otherRoot
    (config : Config)
    (interns : Bool) : Config :=
  { config with
    rootObject := "kotlin.Any"
    rootObject_isDotted := by decide
    interns := interns }

/- Another root is configured for a while, and stores nothing. -/
def detour (config : Config) : List Operation :=
  [.configure (otherRoot config false), .parse "a.List<?>",
    .configure config]

/- A list, and a map to it, with a bare question mark each. -/
def listText : String :=
  "a.List<?>"

def listPhrase : Phrase :=
  .named "a" ["List"] [.bare] 0

def mapForm : Json :=
  .object
    [("base", .str "a.Map"),
      ("parameters",
        .list
          [.object
            [("base", .str "?"), ("relation", .str "extends")],
            .str listText])]

def mapUse : DeclaredType :=
  .applied "a.Map" 0 []
    [.wildcard [] [],
      .arrayOf (.applied "a.List" 0 [] [.wildcard [] []])]

theorem wildcards_have_root_detour :
    let s := run (detour {}) (reset {}).2
    let root := "java.lang.Object"
    StoresUnder root (detour {}) (reset {}).2 ∧
      (Interner.intern s.config (.unbounded root)
        s.interner).1 = .unbounded root ∧
      (∃ r,
        (parse listText s).1 = .ok r ∧
          r.part? [0] = some (.unbounded root)) ∧
      (∃ r,
        (readStructured "type" mapForm s).1 = .ok r ∧
          r.part? [0] = some (.unbounded root) ∧
            r.part? [1, 0] = some (.unbounded root)) ∧
      ∃ r,
        (resolve { name := "a.X" } none false mapUse s).1 =
            .ok r ∧
          r.part? [0] = some (.unbounded root) ∧
            r.part? [1, 0] = some (.unbounded root) := by
  intro s root
  have hUnder : StoresUnder root (detour {}) (reset {}).2 := by
    refine ⟨nofun, ?_, nofun, trivial⟩
    intro _ hInterns
    cases hInterns
  rcases (wildcards_have_root {} (detour {})).2.2 hUnder with
    ⟨hIntern, hParse, hText, hForm, hUse⟩
  have hRoot : (TypeRef.unbounded root).WellFormed :=
    TypeRef.wellFormed_unbounded (by decide +kernel)
  have hDerives : listPhrase.Derives 64 listText := {
    lexemes_eq :=
      ⟨_, Result.eq_ok_of_isOk [] (by decide +kernel),
        by decide +kernel⟩
    grammatical := by
      simp only [listPhrase, Phrase.Grammatical,
        Phrase.AllGrammatical, and_true]
      decide +kernel
    nesting_le := by decide +kernel }
  have hList : Signature.UnconstrainedAt listText [0] :=
    ⟨_, _, hDerives, .argument rfl .bare⟩
  have hMark :
      Structured.UnconstrainedAt mapForm [0] :=
    .argument rfl (by decide +kernel) rfl rfl
      (.wildcard rfl (by decide) (by decide +kernel) rfl)
  have hInner :
      Structured.UnconstrainedAt mapForm [1, 0] :=
    .argument rfl (by decide +kernel) rfl rfl (.text hList)
  have hRead :
      Interner.readText s.config listText =
        .ok (listPhrase.tree root) :=
    Result.eq_ok_of_toOption (by decide +kernel)
  have hParsed := hParse _ _ hRead
  have hFormRead :
      (readStructured "type" mapForm s).1 =
        .ok (.simple "a.Map" 0
          [.unbounded root, listPhrase.tree root]) :=
    Result.eq_ok_of_toOption (by decide +kernel)
  have hResolved :
      (resolve { name := "a.X" } none false mapUse s).1 =
        .ok (.simple "a.Map" 0
          [.unbounded root,
            .simple "a.List" 1 [.unbounded root]]) :=
    Result.eq_ok_of_toOption (by decide +kernel)
  have hUnbounded := (hUse _ _ _ _).2 _ hResolved
  exact ⟨hUnder, hIntern _ hRoot,
    ⟨_, hParsed, hText _ _ hParsed _ hList⟩,
    ⟨_, hFormRead, hForm _ _ _ hFormRead _ hMark,
      hForm _ _ _ hFormRead _ hInner⟩,
    ⟨_, hResolved, hUnbounded _ (.argument rfl .wildcard),
      hUnbounded _
        (.argument rfl (.component (.argument rfl .wildcard)))⟩⟩

/-
  After another root is configured, a bare question mark has
  the bound that it had before, alone and inside other types,
  even if the new root is written down; and interning returns
  another reference than the one that is given.
-/
theorem stale_root_returned :
    let s :=
      run [.parse "?", .configure (otherRoot {} true)]
        (reset {}).2
    let stale : TypeRef := .unbounded "java.lang.Object"
    s.config.rootObject = "kotlin.Any" ∧
      (parse "?" s).1 = .ok stale ∧
      (parse "? extends kotlin.Any" s).1 = .ok stale ∧
      (readStructured "type" (.object [("base", .str "?")]) s).1 =
        .ok stale ∧
      (resolve { name := "a.X" } none false (.wildcard [] []) s).1 =
        .ok stale ∧
      (Interner.intern s.config (.unbounded "kotlin.Any")
        s.interner).1 = stale ∧
      stale ≠ .unbounded "kotlin.Any" := by
  intro s stale
  refine ⟨by decide +kernel, ?_, ?_, ?_, ?_, by decide +kernel,
    by decide +kernel⟩
  · exact Result.eq_ok_of_toOption (by decide +kernel)
  · exact Result.eq_ok_of_toOption (by decide +kernel)
  · exact Result.eq_ok_of_toOption (by decide +kernel)
  · exact Result.eq_ok_of_toOption (by decide +kernel)

end Session

end DeclaredApi
