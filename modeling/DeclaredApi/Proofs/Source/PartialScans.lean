import DeclaredApi.Proofs.Source.Forest
import DeclaredApi.Proofs.Source.Tables
import DeclaredApi.Source.Files

/-
  Scans that stop before the end.

  A scan stops at the first declaration whose name cannot be
  read.  The types that it found before are a forest too, the
  types around the bad name included, and they stay in the
  symbol table.  So a file that is skipped leaves the table as
  it was exactly if all of these were declared before.

  Main declarations:
    * `Outline.Breaks`
    * `Scan.declarationsIn_of_breaks`
    * `Outline.declares_or_breaks`
    * `SourceEntry.FailsAfter`
    * `SourceEntry.failsAfter_iff`
    * `SymbolTable.foldl_add_eq_self_iff`
    * `SourceEntry.scanAll_of_skipped`
    * `SourceEntry.skipped_types_stay`
-/

------------------------------------------------------------
-- Broken Forests
------------------------------------------------------------

namespace DeclaredApi

namespace Outline

/-
  Some nodes declare a forest up to a declaration whose name
  cannot be read: nothing inside it and nothing after it is
  part of the forest, but the types around it are.
-/
inductive Breaks
    (source : SourceText) : List SyntaxTree → Forest → Prop
| here
    {t node : SyntaxTree}
    {ts : List SyntaxTree}
    {e : SourceError}
    (hKind : declarationKinds.contains t.kind = true)
    (hName : t.childAt? "name" = some node)
    (hRead : source.read node = .error e) :
    Breaks source (t :: ts) .empty
| inMembers
    {t : SyntaxTree}
    {ts : List SyntaxTree}
    {inner : Forest}
    (hKind : t.kind = enumBodyKind)
    (hInner : Breaks source t.children inner) :
    Breaks source (t :: ts) inner
| inType
    {t node : SyntaxTree}
    {ts : List SyntaxTree}
    {name : String}
    {inner : Forest}
    (hKind : declarationKinds.contains t.kind = true)
    (hName : t.childAt? "name" = some node)
    (hRead : source.read node = .ok name)
    (hInner :
      Breaks source (SyntaxTree.bodyNodes t.children) inner) :
    Breaks source (t :: ts) (.type name inner .empty)
| later
    {t : SyntaxTree}
    {ts : List SyntaxTree}
    {first others : Forest}
    (hFirst : Declares source [t] first)
    (hRest : Breaks source ts others) :
    Breaks source (t :: ts) (first.append others)

end Outline

end DeclaredApi

------------------------------------------------------------
-- Broken Scans
------------------------------------------------------------

namespace DeclaredApi

namespace Scan

variable {source : SourceText}

theorem append_of_stopped
    (types : List (String × String))
    (b : Scan) :
    append ⟨types, false⟩ b = ⟨types, false⟩ :=
  rfl

theorem append_of_complete
    (types : List (String × String))
    (b : Scan) :
    append ⟨types, true⟩ b = ⟨types ++ b.types, b.complete⟩ :=
  rfl

/- Nothing is found in a declaration whose name is not read. -/
theorem declarationsOf_unread
    {t node : SyntaxTree}
    {e : SourceError}
    (holder : String)
    (hKind : Outline.declarationKinds.contains t.kind = true)
    (hName : t.childAt? "name" = some node)
    (hRead : source.read node = .error e) :
    declarationsOf source holder t = stopped := by
  rcases t with ⟨kind, start, stop, field, isNamed, children⟩
  have hType :
      Outline.declarationKinds.contains kind = true :=
    hKind
  have hSome :
      SyntaxTree.atField? "name" children = some node :=
    hName
  rw [declarationsOf, if_pos hType, hSome]
  simp only [hRead]

/- A node that declares a forest is scanned to its end. -/
theorem declarationsOf_of_declares
    {t : SyntaxTree}
    {forest : Outline.Forest}
    (hDeclares : Outline.Declares source [t] forest)
    (holder : String) :
    declarationsOf source holder t =
      ⟨forest.depthFirst holder, true⟩ := by
  have hScan := declarationsIn_of_declares hDeclares holder
  rw [declarationsIn, declarationsIn] at hScan
  rcases hNode : declarationsOf source holder t with
    ⟨types, complete⟩
  rw [hNode] at hScan
  cases complete with
  | false => cases hScan
  | true =>
      rw [append_of_complete, List.append_nil] at hScan
      exact hScan

/- A broken scan lists the forest that was declared so far. -/
theorem declarationsIn_of_breaks
    {ts : List SyntaxTree}
    {forest : Outline.Forest}
    (hBreaks : Outline.Breaks source ts forest)
    (holder : String) :
    declarationsIn source holder ts =
      ⟨forest.depthFirst holder, false⟩ := by
  induction hBreaks generalizing holder with
  | here hKind hName hRead =>
      rw [declarationsIn,
        declarationsOf_unread holder hKind hName hRead]
      rfl
  | inMembers hKind _ ih =>
      rw [declarationsIn, declarationsOf_members holder hKind, ih,
        append_of_stopped]
  | inType hKind hName hRead _ ih =>
      rw [declarationsIn,
        declarationsOf_type holder hKind hName hRead, ih,
        append_of_complete, append_of_stopped]
      simp [Outline.Forest.depthFirst]
  | later hFirst _ ih =>
      rw [declarationsIn, declarationsOf_of_declares hFirst, ih,
        append_of_complete, Outline.Forest.depthFirst_append]

end Scan

namespace Outline

variable {source : SourceText}

/- Nodes declare a forest, or they do so up to a bad name. -/
def Settled
    (source : SourceText)
    (ts : List SyntaxTree) : Prop :=
  (∃ forest, Declares source ts forest) ∨
    ∃ forest, Breaks source ts forest

/- A node declares what its parts do, or breaks where they do. -/
theorem settled_node
    (t : SyntaxTree)
    (hInside : Settled source t.children)
    (hBody : Settled source (SyntaxTree.bodyNodes t.children)) :
    Settled source [t] := by
  cases hKind : declarationKinds.contains t.kind with
  | false =>
      by_cases hEnum : t.kind = enumBodyKind
      · rcases hInside with ⟨inner, hInner⟩ | ⟨inner, hInner⟩
        · exact Or.inl ⟨_, .members hEnum hInner .nil⟩
        · exact Or.inr ⟨_, .inMembers hEnum hInner⟩
      · exact Or.inl ⟨_, .other hKind hEnum .nil⟩
  | true =>
      cases hName : t.childAt? "name" with
      | none => exact Or.inl ⟨_, .unnamed hKind hName .nil⟩
      | some node =>
          cases hRead : source.read node with
          | error e => exact Or.inr ⟨_, .here hKind hName hRead⟩
          | ok name =>
              rcases hBody with ⟨inner, hInner⟩ | ⟨inner, hInner⟩
              · exact Or.inl
                  ⟨_, .type hKind hName hRead hInner .nil⟩
              · exact Or.inr
                  ⟨_, .inType hKind hName hRead hInner⟩

/- What the first node declares comes before the others. -/
theorem declares_cons
    {t : SyntaxTree}
    {ts : List SyntaxTree}
    {first others : Forest}
    (hFirst : Declares source [t] first)
    (hRest : Declares source ts others) :
    Declares source (t :: ts) (first.append others) := by
  cases hFirst with
  | other hKind hBody hNil =>
      cases hNil
      exact .other hKind hBody hRest
  | unnamed hKind hName hNil =>
      cases hNil
      exact .unnamed hKind hName hRest
  | members hKind hInner hNil =>
      cases hNil
      rw [Forest.append_empty]
      exact .members hKind hInner hRest
  | type hKind hName hRead hInner hNil =>
      cases hNil
      exact .type hKind hName hRead hInner hRest

/- The first node breaks at once, or the others decide. -/
theorem breaks_cons
    {t : SyntaxTree}
    {forest : Forest}
    (ts : List SyntaxTree)
    (hFirst : Breaks source [t] forest) :
    Breaks source (t :: ts) forest := by
  cases hFirst with
  | here hKind hName hRead => exact .here hKind hName hRead
  | inMembers hKind hInner => exact .inMembers hKind hInner
  | inType hKind hName hRead hInner =>
      exact .inType hKind hName hRead hInner
  | later _ hNil => cases hNil

/- Every list of nodes does one of the two. -/
theorem declares_or_breaks
    (ts : List SyntaxTree) :
    Settled source ts := by
  induction ts using SyntaxTree.inductionOnBodies with
  | step ts hParts =>
      induction ts with
      | nil => exact Or.inl ⟨.empty, .nil⟩
      | cons t ts ih =>
          have hParts' := List.forall_mem_cons.mp hParts
          rcases settled_node t hParts'.1.1 hParts'.1.2 with
            ⟨first, hFirst⟩ | ⟨first, hFirst⟩
          · rcases ih hParts'.2 with
              ⟨others, hRest⟩ | ⟨others, hRest⟩
            · exact Or.inl ⟨_, declares_cons hFirst hRest⟩
            · exact Or.inr ⟨_, .later hFirst hRest⟩
          · exact Or.inr ⟨_, breaks_cons ts hFirst⟩

end Outline

end DeclaredApi

------------------------------------------------------------
-- Adding to Tables
------------------------------------------------------------

namespace DeclaredApi

namespace SymbolTable

theorem addName_of_mem
    {short qualified : String}
    {types : List (String × List String)}
    (hMem : qualified ∈ (types.lookup short).getD []) :
    addName short qualified types = types := by
  induction types with
  | nil => exact absurd hMem List.not_mem_nil
  | cons entry types ih =>
      rcases entry with ⟨key, names⟩
      rw [List.lookup_cons] at hMem
      by_cases hKey : key = short
      · rw [hKey, beq_self_eq_true] at hMem
        have hNames : names.contains qualified = true := by
          simpa using hMem
        rw [addName, if_pos hKey, if_pos hNames]
      · have hOther : (short == key) = false :=
          beq_eq_false_iff_ne.mpr (Ne.symm hKey)
        rw [hOther] at hMem
        rw [addName, if_neg hKey, ih hMem]

/- Types change a table unless all of them are in it. -/
theorem foldl_add_eq_self_iff
    {types : List (String × String)}
    {table : SymbolTable} :
    types.foldl (fun table t => table.add t.1 t.2) table =
        table ↔
      ∀ t ∈ types, t.2 ∈ table.names t.1 := by
  constructor
  · intro hSame t ht
    have hMem := (mem_names_foldl_iff types table t.1 t.2).mpr
      (Or.inr ht)
    rw [hSame] at hMem
    exact hMem
  · intro hEach
    induction types with
    | nil => rfl
    | cons t types ih =>
        rw [List.forall_mem_cons] at hEach
        have hAdd : table.add t.1 t.2 = table :=
          congrArg SymbolTable.mk (addName_of_mem hEach.1)
        rw [List.foldl_cons, hAdd]
        exact ih hEach.2

end SymbolTable

end DeclaredApi

------------------------------------------------------------
-- Skipped Files
------------------------------------------------------------

namespace DeclaredApi

namespace SourceEntry

/-
  An entry is skipped after some types were found in it: none
  if it has no content or its package cannot be read, and
  else those up to a declaration with a bad name.
-/
inductive FailsAfter
    (entry : SourceEntry) : List (String × String) → Prop
| missing
    (hContent : entry.content = none) :
    FailsAfter entry []
| package
    {c : SourceContent}
    {e : SourceError}
    (hContent : entry.content = some c)
    (hPackage : Outline.package c.source c.tree = .error e) :
    FailsAfter entry []
| name
    {c : SourceContent}
    {package : String}
    {forest : Outline.Forest}
    (hContent : entry.content = some c)
    (hPackage : Outline.package c.source c.tree = .ok package)
    (hBreaks :
      Outline.Breaks c.source c.tree.children forest) :
    FailsAfter entry (forest.depthFirst package)

/- What a skipped entry declared is what its scan found. -/
theorem failsAfter_iff
    {entry : SourceEntry}
    {types : List (String × String)} :
    entry.FailsAfter types ↔ entry.scan = ⟨types, false⟩ := by
  constructor
  · intro hFails
    cases hFails with
    | missing hContent =>
        rw [scan, hContent]
        rfl
    | package hContent hPackage =>
        rw [scan, hContent]
        simp only [Scan.ofFile, hPackage]
        rfl
    | name hContent hPackage hBreaks =>
        rw [scan, hContent]
        simp only [Scan.ofFile, hPackage]
        exact Scan.declarationsIn_of_breaks hBreaks _
  · intro hScan
    rw [scan] at hScan
    split at hScan
    · next hContent =>
        cases hScan
        exact .missing hContent
    · next c hContent =>
        rw [Scan.ofFile] at hScan
        split at hScan
        · next e hPackage =>
            cases hScan
            exact .package hContent hPackage
        · next package hPackage =>
            rcases Outline.declares_or_breaks c.tree.children with
              ⟨forest, hDeclares⟩ | ⟨forest, hBreaks⟩
            · rw [Scan.declarationsIn_of_declares hDeclares]
                at hScan
              cases hScan
            · rw [Scan.declarationsIn_of_breaks hBreaks] at hScan
              cases hScan
              exact .name hContent hPackage hBreaks

/- The entries whose scan came to the end. -/
def scanned (entries : List SourceEntry) : List SourceEntry :=
  entries.filter (fun e => e.scan.complete)

/- What the table of some entries declares. -/
theorem mem_names_scanAll_iff
    {entries : List SourceEntry}
    {short name : String} :
    name ∈ (scanAll entries).names short ↔
      ∃ e ∈ entries, (short, name) ∈ e.scan.types := by
  rw [scanAll, SymbolTable.mem_names_ofList_iff,
    List.mem_flatMap]

/- Each entry is scanned to its end or skipped. -/
theorem mem_scanned_or_unscanned
    {entries : List SourceEntry}
    {e : SourceEntry} :
    e ∈ entries ↔ e ∈ scanned entries ∨ e ∈ unscanned entries := by
  simp only [scanned, unscanned, List.mem_filter]
  cases e.scan.complete <;> simp

/- Types found in an entry that is not scanned to its end. -/
theorem exists_failsAfter
    {e : SourceEntry}
    {entries : List SourceEntry}
    (hMem : e ∈ unscanned entries) :
    e.FailsAfter e.scan.types := by
  have hStopped : e.scan.complete = false := by
    simpa using (List.mem_filter.mp hMem).2
  rw [failsAfter_iff, ← hStopped]

/- A table declares what either kind of entry declares. -/
theorem mem_names_scanAll_cases
    (entries : List SourceEntry)
    (short name : String) :
    name ∈ (scanAll entries).names short ↔
      name ∈ (scanAll (scanned entries)).names short ∨
        ∃ e ∈ unscanned entries,
          ∃ types,
            e.FailsAfter types ∧ (short, name) ∈ types := by
  rw [mem_names_scanAll_iff, mem_names_scanAll_iff]
  constructor
  · rintro ⟨e, hMem, hType⟩
    rcases mem_scanned_or_unscanned.mp hMem with hHere | hHere
    · exact Or.inl ⟨e, hHere, hType⟩
    · exact Or.inr
        ⟨e, hHere, e.scan.types, exists_failsAfter hHere, hType⟩
  · rintro (⟨e, hMem, hType⟩ | ⟨e, hMem, types, hFails, hType⟩)
    · exact ⟨e, mem_scanned_or_unscanned.mpr (Or.inl hMem), hType⟩
    · rw [failsAfter_iff] at hFails
      refine ⟨e, mem_scanned_or_unscanned.mpr (Or.inr hMem), ?_⟩
      rw [hFails]
      exact hType

/- Tables that answer alike declare the same names. -/
theorem candidates_scanAll_eq_iff
    (entries others : List SourceEntry) :
    (∀ short,
      (scanAll entries).candidates short =
        (scanAll others).candidates short) ↔
      ∀ short name,
        name ∈ (scanAll entries).names short ↔
          name ∈ (scanAll others).names short := by
  constructor
  · intro hSame short name
    have hCandidates :
        name ∈ (scanAll entries).candidates short ↔
          name ∈ (scanAll others).candidates short := by
      rw [hSame]
    rw [scanAll, scanAll, SymbolTable.mem_candidates_ofList_iff,
      SymbolTable.mem_candidates_ofList_iff] at hCandidates
    rw [scanAll, scanAll, SymbolTable.mem_names_ofList_iff,
      SymbolTable.mem_names_ofList_iff]
    exact hCandidates
  · intro hNames short
    apply SymbolTable.candidates_ofList_eq
    rintro ⟨key, name⟩
    rw [← SymbolTable.mem_names_ofList_iff,
      ← SymbolTable.mem_names_ofList_iff]
    exact hNames key name

/- One more entry adds its types to those before it. -/
theorem scanAll_append
    (before : List SourceEntry)
    (e : SourceEntry) :
    scanAll (before ++ [e]) =
      e.scan.types.foldl (fun table t => table.add t.1 t.2)
        (scanAll before) := by
  rw [scanAll, scanAll, List.flatMap_append, SymbolTable.ofList,
    SymbolTable.ofList, List.foldl_append, List.flatMap_singleton]

/-
  A table declares what the completely scanned entries do and
  what each skipped entry declared before it failed.  So the
  skipped entries make no difference exactly if all of that is
  declared by the others.  One of them adds what it declared
  to the table of the entries before it, which it leaves as it
  was exactly if all of that was in it.
-/
theorem scanAll_of_skipped
    (entries : List SourceEntry) :
    (∀ short name,
      name ∈ (scanAll entries).names short ↔
        name ∈ (scanAll (scanned entries)).names short ∨
          ∃ e ∈ unscanned entries,
            ∃ types,
              e.FailsAfter types ∧ (short, name) ∈ types) ∧
      ((∀ short,
        (scanAll entries).candidates short =
          (scanAll (scanned entries)).candidates short) ↔
        ∀ e ∈ unscanned entries,
          ∀ types,
            e.FailsAfter types →
              ∀ t ∈ types,
                ∃ d ∈ scanned entries, t ∈ d.scan.types) ∧
      ∀ before e types,
        e.FailsAfter types →
          scanAll (before ++ [e]) =
              types.foldl (fun table t => table.add t.1 t.2)
                (scanAll before) ∧
            (scanAll (before ++ [e]) = scanAll before ↔
              ∀ t ∈ types, t.2 ∈ (scanAll before).names t.1) := by
  have hNames := mem_names_scanAll_cases entries
  refine ⟨hNames, ?_, ?_⟩
  · rw [candidates_scanAll_eq_iff]
    constructor
    · intro hSame e hMem types hFails t ht
      rw [← mem_names_scanAll_iff, ← hSame, hNames]
      exact Or.inr ⟨e, hMem, types, hFails, ht⟩
    · intro hDeclared short name
      rw [hNames]
      apply or_iff_left_of_imp
      rintro ⟨e, hMem, types, hFails, hType⟩
      exact mem_names_scanAll_iff.mpr
        (hDeclared e hMem types hFails _ hType)
  · intro before e types hFails
    rw [failsAfter_iff] at hFails
    have hAdded := scanAll_append before e
    rw [hFails] at hAdded
    refine ⟨hAdded, ?_⟩
    rw [hAdded]
    exact SymbolTable.foldl_add_eq_self_iff

/- A class before one whose name is no text. -/
def brokenSource : SourceText :=
  "class A{}class ".toUTF8 ++ ⟨#[0xFF]⟩ ++ "{}".toUTF8

/- The syntax tree of the source. -/
def brokenTree : SyntaxTree :=
  .node "program" 0 18 none true
    [.node "class_declaration" 0 9 none true
      [.node "identifier" 6 7 (some "name") true [],
        .node "class_body" 7 9 (some "body") true []],
      .node "class_declaration" 9 18 none true
        [.node "identifier" 15 16 (some "name") true [],
          .node "class_body" 16 18 (some "body") true []]]

/- A file of which one class is found before it is skipped. -/
def brokenEntry : SourceEntry :=
  ⟨["A.java"], some ⟨brokenSource, brokenTree⟩⟩

/- The class of that name in a file that can be scanned. -/
def plainEntry : SourceEntry :=
  ⟨["B.java"],
    some ⟨"class A{}".toUTF8,
      .node "program" 0 9 none true
        [.node "class_declaration" 0 9 none true
          [.node "identifier" 6 7 (some "name") true [],
            .node "class_body" 7 9 (some "body") true []]]⟩⟩

/- A type that another file declares makes no difference. -/
theorem scanAll_of_skipped_repeated :
    brokenEntry.FailsAfter [("A", "A")] ∧
      (∀ short,
        (scanAll [plainEntry, brokenEntry]).candidates short =
          (scanAll [plainEntry]).candidates short) ∧
      scanAll ([plainEntry] ++ [brokenEntry]) =
        scanAll [plainEntry] := by
  have hPlain : plainEntry.scan = ⟨[("A", "A")], true⟩ := by
    decide +kernel
  have hFails : brokenEntry.FailsAfter [("A", "A")] :=
    failsAfter_iff.mpr (by decide +kernel)
  have hScanned :
      scanned [plainEntry, brokenEntry] = [plainEntry] := by
    simp [scanned, hPlain, failsAfter_iff.mp hFails]
  rcases scanAll_of_skipped [plainEntry, brokenEntry] with
    ⟨_, hAlike, hStep⟩
  rw [hScanned] at hAlike
  refine ⟨hFails, hAlike.mpr ?_, ?_⟩
  · intro e hMem types hOther t ht
    have hBroken : e = brokenEntry := by
      simpa [unscanned, hPlain, failsAfter_iff.mp hFails]
        using hMem
    have hScan := failsAfter_iff.mp (hBroken ▸ hOther)
    rw [failsAfter_iff.mp hFails] at hScan
    cases hScan
    exact ⟨plainEntry, List.mem_singleton_self _, hPlain ▸ ht⟩
  · apply (hStep [plainEntry] brokenEntry _ hFails).2.mpr
    decide +kernel

/- A type that was found in a skipped file stays declared. -/
theorem skipped_types_stay :
    unscanned [brokenEntry] = [brokenEntry] ∧
      scanned [brokenEntry] = [] ∧
      (scanAll [brokenEntry]).types = [("A", ["A"])] ∧
      scanAll [brokenEntry] ≠ scanAll (scanned [brokenEntry]) ∧
      scanAll ([] ++ [brokenEntry]) ≠ scanAll [] := by
  have hScan : brokenEntry.scan = ⟨[("A", "A")], false⟩ := by
    decide +kernel
  have hTypes :
      (scanAll [brokenEntry]).types = [("A", ["A"])] := by
    decide +kernel
  have hScanned : scanned [brokenEntry] = [] := by
    simp [scanned, hScan]
  have hDiffers : scanAll [brokenEntry] ≠ scanAll [] := by
    intro hSame
    rw [hSame] at hTypes
    cases hTypes
  refine ⟨?_, hScanned, hTypes, ?_, hDiffers⟩
  · simp [unscanned, hScan]
  · rw [hScanned]
    exact hDiffers

end SourceEntry

end DeclaredApi
