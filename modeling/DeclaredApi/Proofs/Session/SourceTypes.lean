import DeclaredApi.Proofs.Resolution.Spelling
import DeclaredApi.Proofs.Source.Meaning

/-
  References of the types in source files.

  What a type in a source file is resolved to is what the
  grammar reads from its qualified spelling: reading the node
  and resolving the declared type adds and drops nothing.

  Main declarations:
    * `Signature.isWord_of_read`
    * `Session.resolve_eq_ok_iff_read`
    * `Session.resolve_typeOf_eq_ok_iff_read`
-/

------------------------------------------------------------
-- Declared Types with a Spelling
------------------------------------------------------------

namespace DeclaredApi

open DeclaredType

variable {scope : List String}
variable {text : String}
variable {depth : Nat}
variable {t : DeclaredType}

/- The variables of what is read are all words. -/
theorem Signature.isWord_of_read
    {root : String}
    {limit : Nat}
    {reference : TypeRef}
    (hSpelled : t.SpelledAs scope text depth)
    (hRead : read root limit text = .ok reference) :
    ∀ v ∈ t.readVariables, Name.isWord v.toList = true := by
  intro v hv
  rcases read_eq_ok_iff.mp hRead with ⟨p, hDerives, _⟩
  rcases hDerives.lexemes_eq with ⟨tokens, hScan, _⟩
  cases hWord : Name.isWord v.toList with
  | true => rfl
  | false =>
      rcases Name.exists_unscanned (hSpelled.within v hv).2
          hWord with
        ⟨c, hc, hUnscanned⟩
      have hMem := mem_spelling_of_mem_readVariables hv hc
      rw [hSpelled.spelling_eq] at hMem
      have hScanned := Token.isScanned_of_scan hScan c hMem
      rw [hUnscanned] at hScanned
      cases hScanned

/- The grammar reads a spelling if its variables are words. -/
theorem Signature.read_spelled
    {limit : Nat}
    (root : String)
    (hSpelled : t.SpelledAs scope text depth)
    (hWords :
      ∀ v ∈ t.readVariables, Name.isWord v.toList = true)
    (hNesting : depth ≤ limit) :
    read root limit text = .ok (t.phrase.tree root) := by
  rw [← hSpelled.spelling_eq]
  apply read_spelling hSpelled.spellable
  · intro v hv
    rw [Name.isBase_of_isIdentifier (hSpelled.within v hv).2]
    exact hWords v hv
  · rw [hSpelled.nesting_eq]
    exact hNesting

namespace Session

/-
  A declared type and its spelling have the same reference,
  and neither has one if some variable is no word.
-/
theorem resolve_eq_ok_iff_read
    {s : Session}
    (hReset : s.FollowsReset)
    (hSpelled : t.SpelledAs scope text depth)
    (hNesting : depth ≤ s.config.depthLimit)
    (context : ClassScope)
    (member : Option MemberDecl)
    (hDeclared :
      ∀ v ∈ scope,
        s.registry.declares context member v = true)
    (reference : TypeRef) :
    (resolve context member false t s).1 = .ok reference ↔
      Signature.read s.config.rootObject s.config.depthLimit
          text =
        .ok reference := by
  let r : Resolution :=
    ⟨s.config, s.registry, context, member, false⟩
  have hResolve :
      (resolve context member false t s).1 =
        r.outcome t.readVariables
          (t.phrase.tree s.config.rootObject) := by
    rw [resolve_eq_reference hReset]
    exact Resolution.reference_eq_outcome rfl
      hSpelled.spellable
  have hFault :
      ∀ v ∈ t.readVariables,
        r.fault? v = none ↔ Name.isWord v.toList = true := by
    intro v hv
    have hWithin := hSpelled.within v hv
    rw [Resolution.fault?_eq_none_iff
      (hDeclared v hWithin.1),
      Name.isBase_of_isIdentifier hWithin.2]
  rw [hResolve]
  by_cases hWords :
      ∀ v ∈ t.readVariables, Name.isWord v.toList = true
  · have hNone : ∀ v ∈ t.readVariables, r.fault? v = none :=
      fun v hv => (hFault v hv).mpr (hWords v hv)
    rw [Resolution.outcome_of_no_fault _ hNone,
      Signature.read_spelled _ hSpelled hWords hNesting,
      Except.ok.injEq, Except.ok.injEq]
  · constructor
    · intro hOk
      exact absurd (fun v hv => (hFault v hv).mp
        (Resolution.fault?_eq_none_of_outcome hOk v hv)) hWords
    · intro hRead
      exact absurd (Signature.isWord_of_read hSpelled hRead)
        hWords

end Session

end DeclaredApi

------------------------------------------------------------
-- Types in Source Files
------------------------------------------------------------

namespace DeclaredApi

namespace Session

/-
  A type in a source file keeps its meaning.  The node that
  writes it is read as a declared type, and where all names
  in scope are declared this type is resolved to exactly what
  the grammar reads from the spelling, in which names in scope
  are kept and all others are qualified.  The grammar does
  read it if the names in scope are words.
-/
theorem resolve_typeOf_eq_ok_iff_read
    {s : Session}
    {f : SourceFile}
    {scope : List String}
    {e : WrittenType}
    {t : SyntaxTree}
    (hReset : s.FollowsReset)
    (hWrites : f.Writes e t)
    (hQualifies : e.Qualifies f scope)
    (hNesting : e.nesting ≤ s.config.depthLimit)
    (context : ClassScope)
    (member : Option MemberDecl)
    (hDeclared :
      ∀ v ∈ scope,
        s.registry.declares context member v = true) :
    ∃ type,
      f.typeOf scope t = .ok type ∧
        (∀ reference,
          (resolve context member false type s).1 =
              .ok reference ↔
            Signature.read s.config.rootObject
                s.config.depthLimit (e.spelling f scope) =
              .ok reference) ∧
          ((∀ v ∈ scope, Name.isWord v.toList = true) →
            ∃ reference,
              Signature.read s.config.rootObject
                  s.config.depthLimit (e.spelling f scope) =
                .ok reference) := by
  have hSpelled := WrittenType.spelledAs_declared hQualifies
  refine ⟨e.declared f scope,
    SourceFile.typeOf_of_writes hWrites,
    resolve_eq_ok_iff_read hReset hSpelled hNesting context
      member hDeclared, ?_⟩
  intro hWords
  exact ⟨_, Signature.read_spelled _ hSpelled
    (fun v hv => hWords v (hSpelled.within v hv).1) hNesting⟩

/- A file in which one class is imported. -/
def nestedTypeFile : SourceFile where
  source := "Map<? super T[],@N List<a.B>>[]".toUTF8
  table := {}
  context :=
    { package := "p", imports := ["u.List"], localTypes := [] }

/- The syntax tree of the type in the file. -/
def nestedTypeTree : SyntaxTree :=
  .node "array_type" 0 31 none true
    [.node "generic_type" 0 29 (some "element") true
      [.node "type_identifier" 0 3 none true [],
        .node "type_arguments" 3 29 none true
          [.node "<" 3 4 none false [],
            .node "wildcard" 4 15 none true
              [.node "?" 4 5 none false [],
                .node "super" 6 11 none true [],
                .node "array_type" 12 15 none true
                  [.node "type_identifier" 12 13
                      (some "element") true [],
                    .node "dimensions" 13 15
                      (some "dimensions") true []]],
            .node "," 15 16 none false [],
            .node "annotated_type" 16 28 none true
              [.node "marker_annotation" 16 18 none true [],
                .node "generic_type" 19 28 none true
                  [.node "type_identifier" 19 23 none true [],
                    .node "type_arguments" 23 28 none true
                      [.node "<" 23 24 none false [],
                        .node "scoped_type_identifier" 24 27
                          none true
                          [.node "type_identifier" 24 25 none
                              true [],
                            .node "." 25 26 none false [],
                            .node "type_identifier" 26 27 none
                              true []],
                        .node ">" 27 28 none false []]]],
            .node ">" 28 29 none false []]],
      .node "dimensions" 29 31 (some "dimensions") true []]

/- What the tree writes. -/
def nestedType : WrittenType :=
  .array
    (.applied (.simple ⟨"Map", by decide⟩)
      (.bounded .lower
        (.array (.named (.simple ⟨"T", by decide⟩)) 1))
      [.type
        (.annotated
          (.applied (.simple ⟨"List", by decide⟩)
            (.type
              (.named
                (.inside (.simple ⟨"a", by decide⟩)
                  ⟨"B", by decide⟩)))
            []))])
    1

/- The tree writes the type part by part. -/
theorem writes_nestedType :
    nestedTypeFile.Writes nestedType nestedTypeTree := by
  refine ⟨⟨rfl, rfl⟩, _, _, "[]", rfl, ?_, rfl,
    by decide +kernel, by decide +kernel⟩
  refine ⟨_, _, _, _, ⟨⟨rfl, rfl⟩, rfl, rfl⟩,
    ⟨⟨rfl, rfl⟩, by decide +kernel⟩, rfl, ?_, _, _, rfl, ?_,
    rfl⟩
  · exact ⟨⟨rfl, rfl⟩, _, _, rfl, rfl, ⟨rfl, rfl⟩, _, _, "[]",
      rfl, ⟨⟨rfl, rfl⟩, by decide +kernel⟩, rfl,
      by decide +kernel, by decide +kernel⟩
  · refine ⟨⟨rfl, rfl⟩, _, rfl, _, _, _, _,
      ⟨⟨rfl, rfl⟩, rfl, rfl⟩,
      ⟨⟨rfl, rfl⟩, by decide +kernel⟩, rfl, ?_, rfl⟩
    exact ⟨⟨rfl, rfl⟩, _, _, rfl,
      ⟨⟨rfl, rfl⟩, by decide +kernel⟩, _,
      ⟨⟨rfl, rfl⟩, by decide +kernel⟩, Or.inl rfl⟩

/- Each kind of part is read, resolved and spelled. -/
theorem resolve_typeOf_eq_ok_iff_read_nested :
    let s : Session := run boxHistory (reset {}).2
    nestedTypeFile.Writes nestedType nestedTypeTree ∧
      nestedType.Qualifies nestedTypeFile ["T"] ∧
        ∃ type reference,
          nestedTypeFile.typeOf ["T"] nestedTypeTree =
              .ok type ∧
            Signature.read s.config.rootObject
                s.config.depthLimit
                "p.Map<? super T[], u.List<a.B>>[]" =
              .ok reference ∧
              (resolve (.ofDecl boxClass) none false type s).1 =
                .ok reference := by
  intro s
  have hReset : s.FollowsReset :=
    ⟨{}, boxHistory,
      by simp [boxHistory, Operation.KeepsRoot], rfl⟩
  have hQualifies :
      nestedType.Qualifies nestedTypeFile ["T"] := by
    refine ⟨rfl, by decide +kernel, ?_, ?_, trivial⟩
    · intro hOther
      cases hOther
    · exact ⟨rfl, by decide +kernel,
        fun _ => by decide +kernel, trivial⟩
  have hSpelling :
      nestedType.spelling nestedTypeFile ["T"] =
        "p.Map<? super T[], u.List<a.B>>[]" := by
    decide +kernel
  rcases resolve_typeOf_eq_ok_iff_read hReset
      writes_nestedType hQualifies (by decide +kernel)
      (.ofDecl boxClass) none (by decide +kernel) with
    ⟨type, hType, hSame, hRead⟩
  rcases hRead (by decide +kernel) with ⟨reference, hReference⟩
  refine ⟨writes_nestedType, hQualifies, type, reference,
    hType, ?_, (hSame reference).mpr hReference⟩
  rw [← hSpelling]
  exact hReference

end Session

end DeclaredApi
