import DeclaredApi.Proofs.Signature.Scanning
import DeclaredApi.Proofs.TypeRef.Validation
import DeclaredApi.TypeRef.Compact

/-
  The round trip through the canonical text.

  A well-formed reference is the tree of a phrase whose
  canonical text is that of the reference.  The grammar
  reads the text of a phrase as its tree, so it reads the
  canonical text of a reference as the reference.

  Main declarations:
    * `TypeRef.phrase`
    * `TypeRef.tree_phrase`
    * `TypeRef.text_phrase`
    * `TypeRef.compact_round_trip`
-/

------------------------------------------------------------
-- Phrases of References
------------------------------------------------------------

namespace DeclaredApi

namespace TypeRef

mutual

/-
  The phrase that a reference is written as.  A wildcard
  that only has the root bound is a bare question mark.
-/
def phrase
    (root : String) : TypeRef → Phrase
| .simple element dimensions arguments =>
    .ofName element (phraseAll root arguments) dimensions
| .wildcard relation bounds =>
    if isUnbounded root (.wildcard relation bounds) then
      .bare
    else
      match phraseAll root bounds with
      | [] => .bare
      | bound :: others => .bounded relation bound others

/- The phrases that a list of references is written as. -/
def phraseAll
    (root : String) : List TypeRef → List Phrase
| [] => []
| r :: rs => phrase root r :: phraseAll root rs

end

theorem phraseAll_eq_map
    (root : String)
    (rs : List TypeRef) :
    phraseAll root rs = rs.map (phrase root) := by
  induction rs with
  | nil => rfl
  | cons r rs ih => simp [phraseAll, ih]

theorem compactAll_eq_map
    (root : String)
    (rs : List TypeRef) :
    compactAll root rs = rs.map (compact root) := by
  induction rs with
  | nil => rfl
  | cons r rs ih => simp [compactAll, ih]

/- Only one wildcard is written as a bare question mark. -/
theorem isUnbounded_iff
    (root : String)
    (r : TypeRef) :
    isUnbounded root r = true ↔ r = .unbounded root := by
  unfold isUnbounded
  split
  · next element => simp [unbounded, named]
  · next hOther =>
      simp only [Bool.false_eq_true, false_iff]
      intro hEq
      exact hOther root hEq

/- The phrase of a wildcard with other bounds keeps them. -/
theorem phrase_wildcard
    {root : String}
    {relation : BoundRelation}
    {bound : TypeRef}
    {others : List TypeRef}
    (hBounds :
      isUnbounded root (.wildcard relation (bound :: others)) =
        false) :
    phrase root (.wildcard relation (bound :: others)) =
      .bounded relation (phrase root bound)
        (others.map (phrase root)) := by
  simp only [phrase, hBounds, phraseAll, phraseAll_eq_map,
    Bool.false_eq_true, if_false]

/- A named reference is written as a named type. -/
theorem isNamed_phrase
    {root : String}
    {r : TypeRef}
    (hPlain : r.isWildcard = false) :
    (phrase root r).isNamed = true := by
  cases r with
  | simple element dimensions arguments =>
      rw [phrase, Phrase.isNamed_ofName]
  | wildcard relation bounds => cases hPlain

end TypeRef

end DeclaredApi

------------------------------------------------------------
-- Phrases of Well-Formed References
------------------------------------------------------------

namespace DeclaredApi

namespace TypeRef

variable {root : String}

/- The phrase of a well-formed reference is grammatical. -/
theorem grammatical_phrase
    {r : TypeRef}
    (hWellFormed : r.WellFormed) :
    (phrase root r).Grammatical := by
  induction r with
  | simple element dimensions arguments ih =>
      rw [WellFormed, allWellFormed_iff] at hWellFormed
      rcases hWellFormed with ⟨hDotted, hPrimitive, hArguments⟩
      rw [phrase, phraseAll_eq_map]
      apply Phrase.grammatical_ofName dimensions hDotted
      · intro hName
        rw [hPrimitive hName, List.map_nil]
      · intro p hp
        rcases List.mem_map.mp hp with ⟨a, ha, rfl⟩
        exact ih a ha (hArguments a ha)
  | wildcard relation bounds ih =>
      rw [WellFormed, allWellFormed_iff] at hWellFormed
      rcases hWellFormed with ⟨hSome, hPlain, hBounds⟩
      cases bounds with
      | nil => exact absurd rfl hSome
      | cons bound others =>
          cases hBare :
              isUnbounded root
                (.wildcard relation (bound :: others)) with
          | true => simp [phrase, hBare, Phrase.Grammatical]
          | false =>
              rw [phrase_wildcard hBare, Phrase.Grammatical,
                Phrase.allGrammatical_iff]
              refine ⟨?_, ?_, ?_⟩
              · rw [← List.map_cons]
                intro p hp
                rcases List.mem_map.mp hp with ⟨b, hb, rfl⟩
                exact isNamed_phrase (hPlain b hb)
              · exact ih bound List.mem_cons_self
                  (hBounds bound List.mem_cons_self)
              · intro p hp
                rcases List.mem_map.mp hp with ⟨b, hb, rfl⟩
                have hMem := List.mem_cons_of_mem bound hb
                exact ih b hMem (hBounds b hMem)

/- A list of references is the trees of its phrases. -/
theorem map_tree_phrase
    {rs : List TypeRef}
    (hTree : ∀ r ∈ rs, (phrase root r).tree root = r) :
    (rs.map (phrase root)).map (Phrase.tree root) = rs := by
  rw [List.map_map]
  calc
    rs.map (Phrase.tree root ∘ phrase root) = rs.map id :=
      List.map_congr_left hTree
    _ = rs := List.map_id rs

/- A reference is the tree of its phrase. -/
theorem tree_phrase
    {r : TypeRef}
    (hWellFormed : r.WellFormed) :
    (phrase root r).tree root = r := by
  induction r with
  | simple element dimensions arguments ih =>
      rw [WellFormed, allWellFormed_iff] at hWellFormed
      have hArguments :=
        map_tree_phrase
          (fun a ha => ih a ha (hWellFormed.2.2 a ha))
      rw [phrase, Phrase.tree_ofName, phraseAll_eq_map,
        hArguments]
  | wildcard relation bounds ih =>
      rw [WellFormed, allWellFormed_iff] at hWellFormed
      rcases hWellFormed with ⟨hSome, hPlain, hBounds⟩
      cases bounds with
      | nil => exact absurd rfl hSome
      | cons bound others =>
          cases hBare :
              isUnbounded root
                (.wildcard relation (bound :: others)) with
          | true =>
              rw [(isUnbounded_iff root _).mp hBare]
              simp [phrase, isUnbounded, unbounded, named,
                Phrase.tree]
          | false =>
              have hTrees :=
                map_tree_phrase
                  (fun b hb => ih b hb (hBounds b hb))
              rw [phrase_wildcard hBare, Phrase.tree,
                Phrase.treeAll_eq_map, ← List.map_cons,
                ← List.map_cons, hTrees]

/- Phrases of a list nest no deeper than the references. -/
theorem nestingAll_map_phrase_le
    {rs : List TypeRef}
    (hNesting :
      ∀ r ∈ rs, (phrase root r).nesting ≤ r.nesting) :
    Phrase.nestingAll (rs.map (phrase root)) ≤
      nestingAll rs := by
  rw [Phrase.nestingAll_le_iff]
  intro p hp
  rcases List.mem_map.mp hp with ⟨r, hr, rfl⟩
  have hLe : r.nesting ≤ nestingAll rs :=
    (nestingAll_le_iff rs _).mp (Nat.le_refl _) r hr
  exact Nat.le_trans (hNesting r hr) hLe

/- The phrase of a reference nests no deeper. -/
theorem nesting_phrase_le
    (r : TypeRef) :
    (phrase root r).nesting ≤ r.nesting := by
  induction r with
  | simple element dimensions arguments ih =>
      rw [phrase, phraseAll_eq_map]
      cases arguments with
      | nil => simp [Phrase.ofName, Phrase.nesting]
      | cons a as =>
          have hArguments := nestingAll_map_phrase_le ih
          rw [List.map_cons] at hArguments
          rw [List.map_cons, Phrase.ofName, Phrase.nesting,
            nesting]
          omega
  | wildcard relation bounds ih =>
      cases bounds with
      | nil => simp [phrase, phraseAll, Phrase.nesting]
      | cons bound others =>
          cases hBare :
              isUnbounded root
                (.wildcard relation (bound :: others)) with
          | true => simp [phrase, hBare, Phrase.nesting]
          | false =>
              rw [phrase_wildcard hBare, Phrase.nesting, nesting]
              exact nestingAll_map_phrase_le ih

/- The canonical text of a reference is that of its phrase. -/
theorem text_phrase
    {r : TypeRef}
    (hWellFormed : r.WellFormed) :
    (phrase root r).text = r.compact root := by
  induction r with
  | simple element dimensions arguments ih =>
      rw [WellFormed, allWellFormed_iff] at hWellFormed
      have hArguments :
          (arguments.map (phrase root)).map Phrase.text =
            arguments.map (compact root) := by
        rw [List.map_map]
        apply List.map_congr_left
        intro a ha
        exact ih a ha (hWellFormed.2.2 a ha)
      rw [phrase, phraseAll_eq_map]
      cases arguments with
      | nil => rw [List.map_nil, Phrase.text_ofName_nil, compact]
      | cons a as =>
          rw [List.map_cons, Phrase.text_ofName_cons, compact,
            ← List.map_cons, hArguments, compactAll_eq_map]
  | wildcard relation bounds ih =>
      rw [WellFormed, allWellFormed_iff] at hWellFormed
      rcases hWellFormed with ⟨hSome, hPlain, hBounds⟩
      cases bounds with
      | nil => exact absurd rfl hSome
      | cons bound others =>
          cases hBare :
              isUnbounded root
                (.wildcard relation (bound :: others)) with
          | true => simp [phrase, compact, hBare, Phrase.text]
          | false =>
              have hBound :=
                ih bound List.mem_cons_self
                  (hBounds bound List.mem_cons_self)
              have hOthers :
                  (others.map (phrase root)).map Phrase.text =
                    others.map (compact root) := by
                rw [List.map_map]
                apply List.map_congr_left
                intro b hb
                have hMem := List.mem_cons_of_mem bound hb
                exact ih b hMem (hBounds b hMem)
              rw [phrase_wildcard hBare, Phrase.text,
                Phrase.textAll_eq_map, hBound, hOthers, compact,
                hBare, compactAll_eq_map]
              simp

end TypeRef

end DeclaredApi

------------------------------------------------------------
-- Round Trip
------------------------------------------------------------

namespace DeclaredApi

namespace TypeRef

/-
  The canonical text of a well-formed reference is read as
  the reference wherever the limit allows for its nesting.
-/
theorem read_compact
    {root : String}
    {limit : Nat}
    {r : TypeRef}
    (hWellFormed : r.WellFormed)
    (hNesting : r.nesting ≤ limit) :
    Signature.read root limit (r.compact root) = .ok r := by
  have hLimit : (phrase root r).nesting ≤ limit :=
    Nat.le_trans (nesting_phrase_le r) hNesting
  have hRead :
      Signature.read root limit (phrase root r).text =
        .ok ((phrase root r).tree root) :=
    Signature.read_text (grammatical_phrase hWellFormed) hLimit
  rwa [text_phrase hWellFormed, tree_phrase hWellFormed]
    at hRead

/- Canonical texts tell well-formed references apart. -/
theorem compact_injective
    {root : String}
    {r s : TypeRef}
    (hR : r.WellFormed)
    (hS : s.WellFormed)
    (hText : r.compact root = s.compact root) :
    r = s := by
  have hReadR :
      Signature.read root (max r.nesting s.nesting)
        (r.compact root) = .ok r :=
    read_compact hR (Nat.le_max_left _ _)
  have hReadS :
      Signature.read root (max r.nesting s.nesting)
        (s.compact root) = .ok s :=
    read_compact hS (Nat.le_max_right _ _)
  rw [hText, hReadS] at hReadR
  injection hReadR with hEq
  exact hEq.symm

/-
  Well-formed references are read back from their canonical
  texts, which therefore tell them apart.
-/
theorem compact_round_trip
    (root : String) :
    (∀ (limit : Nat) (r : TypeRef),
      r.WellFormed →
        r.nesting ≤ limit →
          Signature.read root limit (r.compact root) = .ok r) ∧
      ∀ r s : TypeRef,
        r.WellFormed →
          s.WellFormed →
            r.compact root = s.compact root →
              r = s :=
  ⟨fun _ _ => read_compact, fun _ _ => compact_injective⟩

/- A wildcard in the arguments of a bound of a wildcard. -/
theorem compact_round_trip_nested :
    let r : TypeRef :=
      .wildcard .lower
        [.simple "extends" 2
          [.wildcard .upper [.named "super", .named "a.B"],
            .unbounded "a.Object"]]
    r.compact "a.Object" =
        "? super extends<? extends super & a.B, ?>[][]" ∧
      Signature.read "a.Object" 1 (r.compact "a.Object") =
        .ok r :=
  ⟨by decide +kernel,
    (compact_round_trip "a.Object").1 1 _ (by decide +kernel)
      (by decide)⟩

end TypeRef

end DeclaredApi
