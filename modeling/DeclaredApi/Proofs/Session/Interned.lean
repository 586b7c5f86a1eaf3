import DeclaredApi.Proofs.Session.History

/-
  What is interned after a history.

  The interner only grows until the next reset.  Every text
  in it holds what the grammar reads from the text, and what
  it holds is stored under its canonical text too.  So it
  makes no difference to a result whether references are
  interned.

  Main declarations:
    * `Interner.Grown`
    * `Interner.kept_grown`
    * `Session.FollowsReset.grown`
    * `Session.interner_invariant`
-/

------------------------------------------------------------
-- Growing Interners
------------------------------------------------------------

namespace DeclaredApi

namespace Interner

open Signature

/-
  A sound interner that holds all that an older one holds,
  and every reference under its canonical text as well.
-/
structure Grown
    (root : String)
    (older interner : Interner) : Prop where
  sound : Sound root interner
  canonical :
    ∀ text r,
      interner.find? text = some r →
        interner.find? (r.compact root) = some r
  extends_older : older.Extends interner

/- A fresh interner holds nothing that is not canonical. -/
theorem grown_empty
    (root : String) :
    Grown root {} {} where
  sound := sound_empty root
  canonical := by
    intro text r hFind
    cases hFind
  extends_older := Memo.Extends.refl {}

/- Storing under canonical texts first keeps all of this. -/
theorem kept_grown
    (root : String)
    (older : Interner) :
    Kept root (Grown root older) where
  sound := fun hGrown => hGrown.sound
  countHit := fun hGrown =>
    ⟨hGrown.sound, hGrown.canonical, hGrown.extends_older⟩
  countMiss := fun hGrown =>
    ⟨hGrown.sound, hGrown.canonical, hGrown.extends_older⟩
  putIfAbsent := by
    intro interner text r hMeans hCanonical hGrown
    have hExtends :
        interner.Extends (Memo.putIfAbsent text r interner).2 :=
      Memo.extends_putIfAbsent text r
    rcases putIfAbsent_of_sound hGrown.sound hMeans with
      ⟨hStored, hSound⟩
    refine ⟨hSound, ?_, hGrown.extends_older.trans hExtends⟩
    intro other s hFind
    rcases Memo.find?_of_find?_putIfAbsent hFind with
      hOld | ⟨_, rfl⟩
    · exact hExtends _ _ (hGrown.canonical other s hOld)
    · rcases hCanonical with rfl | hFound
      · rw [Memo.find?_putIfAbsent_self, hStored]
      · exact hExtends _ _ hFound

end Interner

end DeclaredApi

------------------------------------------------------------
-- Interned References
------------------------------------------------------------

namespace DeclaredApi

namespace Session

/- The interner of a session has grown from a fresh one. -/
theorem FollowsReset.grown
    {s : Session}
    (hReset : s.FollowsReset) :
    Interner.Grown s.config.rootObject {} s.interner := by
  rcases hReset with ⟨start, ops, hRoot, rfl⟩
  have hHolds :=
    holds_run (s := (reset start).2)
      (Interner.kept_grown _ {})
      (fun _ => Interner.grown_empty _) hRoot
      ⟨rfl, Interner.grown_empty _⟩
  exact hHolds.root_eq.symm ▸ hHolds.interner

/- Until the next reset no text holds anything else. -/
theorem extends_run
    {s : Session}
    {ops : List Operation}
    (hReset : s.FollowsReset)
    (hRoot : ∀ op ∈ ops, op.KeepsRoot s.config.rootObject)
    (hNone : .reset ∉ ops) :
    s.interner.Extends (run ops s).interner := by
  have hGrown := hReset.grown
  have hHolds :=
    holds_run (Interner.kept_grown _ s.interner)
      (fun hMem => absurd hMem hNone) hRoot
      ⟨rfl, hGrown.sound, hGrown.canonical,
        Memo.Extends.refl s.interner⟩
  exact hHolds.interner.extends_older

/-
  The invariant of the interner.  Each text holds what the
  grammar reads from it within some limit, and the canonical
  text of what is held holds it too.  No text changes what it
  holds before the next reset, and parsing that fails stores
  nothing.  Hence interning returns what it is given, and
  parsing what it would return without interning.
-/
theorem interner_invariant
    {s : Session}
    (hReset : s.FollowsReset) :
    (∀ text r,
      s.interner.find? text = some r →
        Signature.Means s.config.rootObject text r ∧
          s.interner.find? (r.compact s.config.rootObject) =
            some r) ∧
      (∀ ops : List Operation,
        (∀ op ∈ ops, op.KeepsRoot s.config.rootObject) →
          .reset ∉ ops →
            s.interner.Extends (run ops s).interner) ∧
      (∀ text e,
        (parse text s).1 = .error e →
          (parse text s).2.interner.entries =
            s.interner.entries) ∧
      (∀ r : TypeRef,
        r.WellFormed →
          (Interner.intern s.config r s.interner).1 = r) ∧
      ∀ text r,
        (Interner.parse { s.config with interns := false } text
            s.interner).1 =
          .ok r →
          (Interner.parse { s.config with interns := true } text
              s.interner).1 =
            .ok r := by
  have hGrown := hReset.grown
  refine ⟨?_, ?_, ?_, ?_, ?_⟩
  · intro text r hFind
    exact ⟨hGrown.sound.find? hFind,
      hGrown.canonical text r hFind⟩
  · intro ops hRoot hNone
    exact extends_run hReset hRoot hNone
  · intro text e hError
    exact (Interner.readText_of_parse_error hError).2
  · intro r hWellFormed
    exact Interner.intern_of_sound hGrown.sound hWellFormed
  · intro text r hOk
    have hRead :
        Interner.readText
            { s.config with interns := true } text =
          .ok r :=
      hOk
    exact (Interner.gives_parse (Interner.kept_sound _) hRead
      s.interner hGrown.sound).1

/- A history with a text and a form that are refused. -/
def mixedHistory (config : Config) : List Operation :=
  [.parse "Map< ?, K[] >", .parse "Map<",
    .readStructured "type"
      (.object
        [("base", .str "List"),
          ("parameters", .list [.str "K", .null])]),
    .configure config,
    .intern (.wildcard .lower [.named "K"]) (by decide)]

/- The first item of the refused form stays interned. -/
theorem interner_invariant_mixed :
    let s : Session :=
      run (mixedHistory { depthLimit := 1 }) (reset {}).2
    let root : String := "java.lang.Object"
    let r : TypeRef :=
      .simple "Map" 0 [.unbounded root, .simple "K" 1 []]
    s.interner.entries.map Prod.fst =
        ["Map<?, K[]>", "Map< ?, K[] >", "K", "? super K"] ∧
      (Signature.Means root "Map< ?, K[] >" r ∧
        s.interner.find? "Map<?, K[]>" = some r) ∧
      s.interner.Extends
        (run [.parse "Map<?, ?>", .parse "Map<"] s).interner ∧
      (parse "Map<" s).2.interner.entries =
        s.interner.entries ∧
      (Interner.intern s.config (.simple "a.B" 2 [r])
        s.interner).1 = .simple "a.B" 2 [r] ∧
      (Interner.parse { s.config with interns := true }
          "Map<?,K[]>" s.interner).1 =
        .ok r := by
  intro s root r
  have hReset : s.FollowsReset :=
    ⟨{}, mixedHistory { depthLimit := 1 },
      by simp [mixedHistory, Operation.KeepsRoot], rfl⟩
  have hInvariant := interner_invariant hReset
  rcases hInvariant with
    ⟨hEntries, hRuns, hErrors, hInterns, hParses⟩
  refine ⟨by decide +kernel, ?_, ?_, ?_, ?_, ?_⟩
  · exact hEntries "Map< ?, K[] >" r (by decide +kernel)
  · exact hRuns [.parse "Map<?, ?>", .parse "Map<"]
      (by simp [Operation.KeepsRoot]) (by simp)
  · have hFails : (parse "Map<" s).1.isOk = false := by
      decide +kernel
    cases hRun : (parse "Map<" s).1 with
    | ok _ =>
        rw [hRun] at hFails
        cases hFails
    | error e => exact hErrors "Map<" e hRun
  · exact hInterns (.simple "a.B" 2 [r]) (by decide +kernel)
  · exact hParses "Map<?,K[]>" r (by decide +kernel)

end Session

end DeclaredApi
