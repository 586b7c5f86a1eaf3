import DeclaredApi.Proofs.Signature.Scanning
import DeclaredApi.Proofs.TypeRef.Validation
import DeclaredApi.Signature.Interner

/-
  The texts that are accepted.

  A text is read exactly when a phrase within the limit
  derives its tokens.  There is at most one such phrase, the
  reference that is read is the tree of it, and no reference
  that is built on the way can be refused by validation.

  Main declarations:
    * `Phrase.Derives`
    * `Phrase.wellFormed_tree`
    * `Phrase.tree_injective`
    * `Signature.read_eq_ok_iff`
    * `Grammar.Builds`
    * `Signature.parse_accepts_exactly_phrases`
-/

------------------------------------------------------------
-- Derivations of Texts
------------------------------------------------------------

namespace DeclaredApi

namespace Phrase

/-
  A phrase derives the tokens of a text, and its argument
  lists nest at most `limit` deep.
-/
structure Derives
    (p : Phrase)
    (limit : Nat)
    (text : String) : Prop where
  lexemes_eq :
    ∃ tokens,
      Token.scan text = .ok tokens ∧
        tokens.map Token.lexeme = p.lexemes
  grammatical : p.Grammatical
  nesting_le : p.nesting ≤ limit

/- A grammatical name is dotted. -/
theorem isDotted_dotted
    {word : String}
    {words : List String}
    (hWords :
      ∀ w ∈ word :: words, Name.isWord w.toList = true) :
    Name.isDotted (dotted word words) = true :=
  Name.isDotted_intercalate (List.cons_ne_nil word words)
    hWords

end Phrase

end DeclaredApi

------------------------------------------------------------
-- Trees of Phrases
------------------------------------------------------------

namespace DeclaredApi

namespace Phrase

/- The tree of a grammatical phrase is well formed. -/
theorem wellFormed_tree
    {root : String}
    {p : Phrase}
    (hRoot : Name.isDotted root = true)
    (hGrammatical : p.Grammatical) :
    (p.tree root).WellFormed := by
  induction p with
  | bare =>
      simp [tree, TypeRef.unbounded, TypeRef.named,
        TypeRef.WellFormed, TypeRef.AllWellFormed,
        TypeRef.isWildcard, hRoot]
  | bounded relation bound bounds ihBound ihBounds =>
      rw [Grammatical, allGrammatical_iff] at hGrammatical
      rcases hGrammatical with ⟨hNamed, hBound, hBounds⟩
      have hPlain :
          ∀ b ∈ bound :: bounds,
            (b.tree root).isWildcard = false :=
        fun b hb => isWildcard_tree_of_isNamed root (hNamed b hb)
      rw [tree, TypeRef.WellFormed, TypeRef.AllWellFormed,
        TypeRef.allWellFormed_iff, treeAll_eq_map]
      refine ⟨by simp, by simpa using hPlain, ihBound hBound, ?_⟩
      intro r hr
      rcases List.mem_map.mp hr with ⟨b, hb, rfl⟩
      exact ihBounds b hb (hBounds b hb)
  | named word words arguments dimensions ih =>
      rw [Grammatical, allGrammatical_iff] at hGrammatical
      rcases hGrammatical with ⟨hWords, hPrimitive, hArguments⟩
      rw [tree, TypeRef.WellFormed, TypeRef.allWellFormed_iff,
        treeAll_eq_map]
      refine ⟨isDotted_dotted hWords, ?_, ?_⟩
      · intro hName
        rw [hPrimitive hName, List.map_nil]
      · intro r hr
        rcases List.mem_map.mp hr with ⟨a, ha, rfl⟩
        exact ih a ha (hArguments a ha)

/-
  A bare question mark is told from bounds by a root that is
  no dotted name, since each named bound has a dotted one.
-/
theorem tree_ne_named
    {root : String}
    {p : Phrase}
    (hRoot : Name.isDotted root = false)
    (hGrammatical : p.Grammatical) :
    p.tree root ≠ .named root := by
  intro hEq
  cases p with
  | bare => simp [tree, TypeRef.unbounded, TypeRef.named] at hEq
  | bounded relation bound bounds =>
      simp [tree, TypeRef.named] at hEq
  | named word words arguments dimensions =>
      rw [Grammatical] at hGrammatical
      rw [tree, TypeRef.named] at hEq
      injection hEq with hName
      rw [← hName, isDotted_dotted hGrammatical.1] at hRoot
      cases hRoot

/- Phrases with the same trees, one by one, are the same. -/
theorem eq_of_map_tree_eq
    {root : String}
    {ps qs : List Phrase}
    (hInjective :
      ∀ p ∈ ps, ∀ q ∈ qs, p.tree root = q.tree root → p = q)
    (hTrees : ps.map (tree root) = qs.map (tree root)) :
    ps = qs := by
  induction ps generalizing qs with
  | nil =>
      cases qs with
      | nil => rfl
      | cons q qs => simp at hTrees
  | cons p ps ih =>
      cases qs with
      | nil => simp at hTrees
      | cons q qs =>
          simp only [List.map_cons, List.cons.injEq] at hTrees
          have hHead : p = q :=
            hInjective p List.mem_cons_self q List.mem_cons_self
              hTrees.1
          have hTail : ps = qs := by
            apply ih _ hTrees.2
            intro r hr s hs
            exact hInjective r (List.mem_cons_of_mem p hr)
              s (List.mem_cons_of_mem q hs)
          rw [hHead, hTail]

/- Grammatical phrases with the same tree are the same. -/
theorem tree_injective
    {root : String}
    {p q : Phrase}
    (hRoot : Name.isDotted root = false)
    (hP : p.Grammatical)
    (hQ : q.Grammatical)
    (hTree : p.tree root = q.tree root) :
    p = q := by
  induction p generalizing q with
  | bare =>
      cases q with
      | bare => rfl
      | bounded relation bound bounds =>
          rw [Grammatical] at hQ
          rw [tree, tree, TypeRef.unbounded] at hTree
          injection hTree with hRelation hBounds
          injection hBounds with hBound
          exact absurd hBound.symm (tree_ne_named hRoot hQ.2.1)
      | named word words arguments dimensions =>
          simp [tree, TypeRef.unbounded] at hTree
  | bounded relation bound bounds ihBound ihBounds =>
      rw [Grammatical, allGrammatical_iff] at hP
      cases q with
      | bare =>
          rw [tree, tree, TypeRef.unbounded] at hTree
          injection hTree with hRelation hBounds
          injection hBounds with hBound
          exact absurd hBound (tree_ne_named hRoot hP.2.1)
      | bounded direction first others =>
          rw [Grammatical, allGrammatical_iff] at hQ
          rw [tree, tree, treeAll_eq_map, treeAll_eq_map]
            at hTree
          injection hTree with hRelation hBounds
          injection hBounds with hBound hBounds
          have hFirst : bound = first :=
            ihBound hP.2.1 hQ.2.1 hBound
          have hOthers : bounds = others := by
            apply eq_of_map_tree_eq _ hBounds
            intro b hb c hc
            exact ihBounds b hb (hP.2.2 b hb) (hQ.2.2 c hc)
          rw [hRelation, hFirst, hOthers]
      | named word words arguments dimensions =>
          simp [tree] at hTree
  | named word words arguments dimensions ih =>
      rw [Grammatical, allGrammatical_iff] at hP
      cases q with
      | bare => simp [tree, TypeRef.unbounded] at hTree
      | bounded relation bound bounds => simp [tree] at hTree
      | named first others parts count =>
          rw [Grammatical, allGrammatical_iff] at hQ
          rw [tree, tree, treeAll_eq_map, treeAll_eq_map]
            at hTree
          injection hTree with hName hCount hParts
          have hWords : word :: words = first :: others := by
            rw [← Name.words_intercalate
                (List.cons_ne_nil word words) hP.1,
              ← Name.words_intercalate
                (List.cons_ne_nil first others) hQ.1]
            exact congrArg Name.words hName
          have hArguments : arguments = parts := by
            apply eq_of_map_tree_eq _ hParts
            intro a ha b hb
            exact ih a ha (hP.2.2 a ha) (hQ.2.2 b hb)
          injection hWords with hWord hWords
          rw [hWord, hWords, hArguments, hCount]

end Phrase

end DeclaredApi

------------------------------------------------------------
-- Accepted Texts
------------------------------------------------------------

namespace DeclaredApi

namespace Signature

/- A text that a phrase derives is read as its tree. -/
theorem read_of_derives
    {limit : Nat}
    {text : String}
    {p : Phrase}
    (root : String)
    (hDerives : p.Derives limit text) :
    read root limit text = .ok (p.tree root) := by
  rcases hDerives.lexemes_eq with ⟨tokens, hScan, hLexemes⟩
  simp only [read, hScan]
  exact readTokens_of_lexemes (g := ⟨root, limit, text.length⟩)
    hDerives.grammatical hDerives.nesting_le hLexemes

/- A text is read as the trees of what derives it. -/
theorem read_eq_ok_iff
    {root : String}
    {limit : Nat}
    {text : String}
    {r : TypeRef} :
    read root limit text = .ok r ↔
      ∃ p : Phrase, p.Derives limit text ∧ p.tree root = r := by
  constructor
  · intro hRead
    unfold read at hRead
    split at hRead
    · cases hRead
    · next tokens hScan =>
        rcases readTokens_ok (Token.worded_of_scan hScan)
            hRead with
          ⟨p, hLexemes, hTree, hGrammatical, hNesting⟩
        exact ⟨p, ⟨⟨tokens, hScan, hLexemes⟩, hGrammatical,
          hNesting⟩, hTree⟩
  · rintro ⟨p, hDerives, rfl⟩
    exact read_of_derives root hDerives

/-
  Two phrases that derive a text are both read from it, and
  a root that is no dotted name tells their trees apart.
-/
theorem derives_unique
    {limit : Nat}
    {text : String}
    {p q : Phrase}
    (hP : p.Derives limit text)
    (hQ : q.Derives limit text) :
    p = q := by
  have hRead := read_of_derives "" hP
  rw [read_of_derives "" hQ] at hRead
  injection hRead with hTree
  exact Phrase.tree_injective (by decide) hP.grammatical
    hQ.grammatical hTree.symm

/- A reference that is read is well formed. -/
theorem wellFormed_of_read
    {root : String}
    {limit : Nat}
    {text : String}
    {r : TypeRef}
    (hRoot : Name.isDotted root = true)
    (hRead : read root limit text = .ok r) :
    r.WellFormed := by
  rcases read_eq_ok_iff.mp hRead with ⟨p, hDerives, rfl⟩
  exact Phrase.wellFormed_tree hRoot hDerives.grammatical

end Signature

end DeclaredApi

------------------------------------------------------------
-- References Built on the Way
------------------------------------------------------------

namespace DeclaredApi

namespace Grammar

/-
  A reference is built while tokens are read: some rule
  returns it at some of the last tokens, whether or not the
  reading of all of them goes through.
-/
def Builds
    (g : Grammar)
    (tokens : List Token)
    (r : TypeRef) : Prop :=
  ∃ later depth rest,
    later <:+ tokens ∧
      g.typeReader depth later = .ok (r, rest)

/- Every reference that is built is well formed. -/
theorem Builds.wellFormed
    {g : Grammar}
    {tokens : List Token}
    {r : TypeRef}
    (hRoot : Name.isDotted g.root = true)
    (hWorded : Worded tokens)
    (hBuilds : g.Builds tokens r) :
    r.WellFormed := by
  rcases hBuilds with ⟨later, depth, rest, hSuffix, hRead⟩
  rcases typeReader_ok depth later rest r
      (hWorded.mono hSuffix) hRead with
    ⟨p, hReads, _⟩
  rw [← hReads.tree_eq]
  exact Phrase.wellFormed_tree hRoot hReads.grammatical

end Grammar

end DeclaredApi

------------------------------------------------------------
-- Acceptance
------------------------------------------------------------

namespace DeclaredApi

namespace Signature

/- Without interning, parsing is reading by the grammar. -/
theorem parse_of_not_interns
    {config : Config}
    (hInterns : config.interns = false)
    (text : String)
    (interner : Interner) :
    Interner.parse config text interner =
      ((read config.rootObject config.depthLimit
          text).mapError
        (fun fault => { fault with source := text }),
        interner) := by
  simp only [Interner.parse, hInterns, Bool.false_eq_true,
    if_false, Interner.readText]
  split
  · next r hRead =>
      rw [hRead]
      rfl
  · next fault hRead =>
      rw [hRead]
      rfl

/-
  A text is accepted exactly when a phrase within the limit
  derives it.  The phrase is unique and its tree is what is
  returned; any other text is refused by a fault of the
  grammar, since whatever is built on the way is valid.
-/
theorem parse_accepts_exactly_phrases
    (root : String)
    (limit : Nat)
    (text : String)
    (hRoot : Name.isDotted root = true) :
    (∀ r,
      read root limit text = .ok r ↔
        ∃ p : Phrase,
          p.Derives limit text ∧ p.tree root = r) ∧
      (∀ p q : Phrase,
        p.Derives limit text → q.Derives limit text → p = q) ∧
      ((¬ ∃ p : Phrase, p.Derives limit text) →
        ∃ fault, read root limit text = .error fault) ∧
      (∀ r,
        read root limit text = .ok r →
          r.WellFormed ∧ r.draft.build = .ok r) ∧
      (∀ tokens r,
        Token.scan text = .ok tokens →
          Grammar.Builds ⟨root, limit, text.length⟩ tokens r →
            r.draft.build = .ok r) ∧
      ∀ (config : Config) (interner : Interner),
        config.rootObject = root →
          config.depthLimit = limit →
            config.interns = false →
              Interner.parse config text interner =
                ((read root limit text).mapError
                  (fun fault => { fault with source := text }),
                  interner) := by
  refine ⟨fun r => read_eq_ok_iff, fun p q => derives_unique,
    ?_, ?_, ?_, ?_⟩
  · intro hNone
    cases hRead : read root limit text with
    | error fault => exact ⟨fault, rfl⟩
    | ok r =>
        rcases read_eq_ok_iff.mp hRead with ⟨p, hDerives, _⟩
        exact absurd ⟨p, hDerives⟩ hNone
  · intro r hRead
    have hWellFormed := wellFormed_of_read hRoot hRead
    exact ⟨hWellFormed, TypeRef.build_draft hWellFormed⟩
  · intro tokens r hScan hBuilds
    apply TypeRef.build_draft
    exact hBuilds.wellFormed hRoot (Token.worded_of_scan hScan)
  · rintro config interner rfl rfl hInterns
    exact parse_of_not_interns hInterns text interner

/- A wildcard among arguments in front of brackets. -/
theorem parse_accepts_nested_text :
    ∃ p : Phrase,
      p.Derives 2 "Map<K, ? super a.B[]>[]" ∧
        p.tree "Object" =
          .simple "Map" 1
            [.named "K", .wildcard .lower [.simple "a.B" 1 []]] :=
  ((parse_accepts_exactly_phrases "Object" 2 "Map<K, ? super a.B[]>[]"
    (by decide)).1 _).mp (by decide +kernel)

end Signature

end DeclaredApi
