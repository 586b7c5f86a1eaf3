import Mathlib.Data.List.Forall2
import Mathlib.Data.List.TakeWhile
import Mathlib.Data.Nat.Find
import DeclaredApi.Proofs.Source.Forest
import DeclaredApi.Proofs.Source.Origins

/-
  The declarations of a file, as each phase sees them.

  The scan of a file, the names that are local to it and the
  classes that are built from it come from one forest of
  types.  Scan and classes list it depth first; a local name
  stands for the first type of that name at the least depth.

  Main declarations:
    * `SyntaxTree.nodes`
    * `Outline.HasNames`
    * `SourceFile.map_name_of_declares`
    * `Outline.FirstByDepth`
    * `Outline.exists_declares_of_context`
    * `SourceFile.declarations_agree`
-/

------------------------------------------------------------
-- Names of Declarations
------------------------------------------------------------

namespace DeclaredApi

namespace SyntaxTree

mutual

/- A node with all the nodes below it. -/
def nodes : SyntaxTree → List SyntaxTree
| .node kind start stop field isNamed children =>
    .node kind start stop field isNamed children ::
      nodesAll children

/- Some nodes with all the nodes below them. -/
def nodesAll : List SyntaxTree → List SyntaxTree
| [] => []
| t :: ts => nodes t ++ nodesAll ts

end

theorem self_mem_nodes
    (t : SyntaxTree) :
    t ∈ t.nodes := by
  rcases t with ⟨kind, start, stop, field, isNamed, children⟩
  rw [nodes]
  exact List.mem_cons_self

theorem mem_nodesAll
    {t u : SyntaxTree}
    {ts : List SyntaxTree}
    (hNode : t ∈ ts)
    (hMem : u ∈ t.nodes) :
    u ∈ nodesAll ts := by
  induction ts with
  | nil => exact absurd hNode List.not_mem_nil
  | cons s ts ih =>
      rw [nodesAll]
      rcases List.mem_cons.mp hNode with rfl | hRest
      · exact List.mem_append_left _ hMem
      · exact List.mem_append_right _ (ih hRest)

theorem mem_nodes_of_child
    {t c u : SyntaxTree}
    (hChild : c ∈ t.children)
    (hMem : u ∈ c.nodes) :
    u ∈ t.nodes := by
  rcases t with ⟨kind, start, stop, field, isNamed, children⟩
  rw [nodes]
  exact List.mem_cons_of_mem _ (mem_nodesAll hChild hMem)

/- The nodes of a body are children of one of the nodes. -/
theorem exists_of_mem_bodyNodes
    {ts : List SyntaxTree}
    {c : SyntaxTree}
    (hMem : c ∈ bodyNodes ts) :
    ∃ t ∈ ts, c ∈ t.children := by
  rcases bodyNodes_cases ts with hNone | ⟨t, ht, hSome⟩
  · rw [hNone] at hMem
    exact absurd hMem List.not_mem_nil
  · exact ⟨t, ht, hSome ▸ hMem⟩

end SyntaxTree

namespace Outline

/- No declaration among the nodes of a tree has an empty name. -/
def HasNames
    (source : SourceText)
    (t : SyntaxTree) : Prop :=
  ∀ d ∈ t.nodes,
    declarationKinds.contains d.kind = true →
      source.readOptional (d.childAt? "name") ≠ .ok ""

variable {source : SourceText} {t : SyntaxTree}

theorem HasNames.child
    {c : SyntaxTree}
    (hNames : HasNames source t)
    (hChild : c ∈ t.children) :
    HasNames source c :=
  fun d hd => hNames d (SyntaxTree.mem_nodes_of_child hChild hd)

theorem HasNames.body
    {c : SyntaxTree}
    (hNames : HasNames source t)
    (hBody : c ∈ SyntaxTree.bodyNodes t.children) :
    HasNames source c := by
  rcases SyntaxTree.exists_of_mem_bodyNodes hBody with
    ⟨u, hu, hc⟩
  exact (hNames.child hu).child hc

/- A declaration with a name has a name that is not empty. -/
theorem HasNames.ne_empty
    {node : SyntaxTree}
    {name : String}
    (hNames : HasNames source t)
    (hKind : declarationKinds.contains t.kind = true)
    (hName : t.childAt? "name" = some node)
    (hRead : source.read node = .ok name) :
    name ≠ "" := by
  have hNonempty :=
    hNames t t.self_mem_nodes hKind
  rw [hName] at hNonempty
  rintro rfl
  exact hNonempty hRead

end Outline

end DeclaredApi

------------------------------------------------------------
-- Classes
------------------------------------------------------------

namespace DeclaredApi

/- A name that is not empty makes no empty qualified name. -/
theorem Name.inside_ne_empty
    {name : String}
    (holder : String)
    (hName : name ≠ "") :
    inside holder name ≠ "" := by
  unfold inside
  split
  · exact hName
  · intro hEmpty
    have hLength := congrArg String.length hEmpty
    simp at hLength

namespace SourceFile

variable {f : SourceFile}

theorem classesInBody_eq
    (outer : Outer)
    (ts : List SyntaxTree) :
    f.classesInBody outer ts =
      f.classesIn outer (SyntaxTree.bodyNodes ts) := by
  induction ts with
  | nil =>
      rw [classesInBody, SyntaxTree.bodyNodes, classesIn]
  | cons t ts ih =>
      rcases t with ⟨kind, start, stop, field, isNamed, children⟩
      rw [classesInBody, SyntaxTree.bodyNodes, ih]
      by_cases hBody : field = some "body"
      · rw [if_pos hBody, if_pos hBody]
      · rw [if_neg hBody, if_neg hBody]

/- Nodes that declare no type make no class. -/
theorem classesOf_other
    {t : SyntaxTree}
    (outer : Outer)
    (hKind : Outline.declarationKinds.contains t.kind = false)
    (hBody : t.kind ≠ Outline.enumBodyKind) :
    f.classesOf outer t = .ok [] := by
  rcases t with ⟨kind, start, stop, field, isNamed, children⟩
  have hOther :
      Outline.declarationKinds.contains kind ≠ true :=
    Bool.eq_false_iff.mp hKind
  have hEnum : kind ≠ Outline.enumBodyKind := hBody
  rw [classesOf, if_neg hOther, if_neg hEnum]

/- Declarations without a name make no class. -/
theorem classesOf_unnamed
    {t : SyntaxTree}
    (outer : Outer)
    (hKind : Outline.declarationKinds.contains t.kind = true)
    (hName : t.childAt? "name" = none) :
    f.classesOf outer t = .ok [] := by
  rcases t with ⟨kind, start, stop, field, isNamed, children⟩
  have hType :
      Outline.declarationKinds.contains kind = true :=
    hKind
  have hNone : SyntaxTree.atField? "name" children = none :=
    hName
  rw [classesOf, if_pos hType, hNone, Option.isNone_none,
    if_pos rfl]

/- Members of enumerations have no modifiers by implication. -/
theorem classesOf_members
    {t : SyntaxTree}
    (outer : Outer)
    (hKind : t.kind = Outline.enumBodyKind) :
    f.classesOf outer t =
      f.classesIn { outer with implicit := [] } t.children := by
  rcases t with ⟨kind, start, stop, field, isNamed, children⟩
  have hEnum : kind = Outline.enumBodyKind := hKind
  rw [hEnum, classesOf, if_neg Outline.contains_enumBodyKind,
    if_pos rfl, SyntaxTree.children]

/- A named declaration makes a class around those inside it. -/
theorem classesOf_type_ok
    {outer : Outer}
    {t node : SyntaxTree}
    {name : String}
    {classes : List ClassDecl}
    (hKind : Outline.declarationKinds.contains t.kind = true)
    (hName : t.childAt? "name" = some node)
    (hRead : f.source.read node = .ok name)
    (hOk : f.classesOf outer t = .ok classes) :
    ∃ c scope nested,
      f.classOf outer t = .ok (c, scope) ∧
        c.name = f.qualifiedName outer name ∧
        f.classesIn (insideOf c scope)
            (SyntaxTree.bodyNodes t.children) =
          .ok nested ∧
        classes = c :: nested := by
  rcases t with ⟨kind, start, stop, field, isNamed, children⟩
  have hType :
      Outline.declarationKinds.contains kind = true :=
    hKind
  have hSome :
      SyntaxTree.atField? "name" children = some node :=
    hName
  rw [classesOf, if_pos hType, hSome, Option.isNone_some,
    if_neg Bool.false_ne_true] at hOk
  rcases Result.bind_eq_ok_iff.mp hOk with
    ⟨⟨c, scope⟩, hClass, hOk⟩
  rcases Result.bind_eq_ok_iff.mp hOk with
    ⟨nested, hNested, hPure⟩
  cases hPure
  simp only [classesInBody_eq] at hNested
  rcases (classOrigin_of_classOf hClass).name with
    ⟨read, hReadAt, hClassName⟩
  rw [SyntaxTree.children, readAt, hSome] at hReadAt
  have hSame : name = read :=
    Except.ok.inj (hRead.symm.trans hReadAt)
  exact ⟨c, scope, nested, hClass, by rw [hClassName, hSame],
    hNested, rfl⟩

/- The classes of the first node come before the others. -/
theorem classesIn_cons_ok
    {outer : Outer}
    {t : SyntaxTree}
    {ts : List SyntaxTree}
    {classes : List ClassDecl}
    (hOk : f.classesIn outer (t :: ts) = .ok classes) :
    ∃ first others,
      f.classesOf outer t = .ok first ∧
        f.classesIn outer ts = .ok others ∧
        classes = first ++ others := by
  rw [classesIn] at hOk
  rcases Result.bind_eq_ok_iff.mp hOk with ⟨first, hFirst, hOk⟩
  rcases Result.bind_eq_ok_iff.mp hOk with
    ⟨others, hOthers, hPure⟩
  cases hPure
  exact ⟨first, others, hFirst, hOthers, rfl⟩

/- A class around others has a name that is not empty. -/
theorem qualifiedName_insideOf
    {c : ClassDecl}
    (hName : c.name ≠ "")
    (scope : List String)
    (name : String) :
    f.qualifiedName (insideOf c scope) name =
      Name.inside c.name name := by
  rw [Name.inside, if_neg hName]
  rfl

/-
  The classes of some nodes are the declared types, with the
  qualified names that a scan gives them.  Of what is around
  the nodes, only the names that it gives matter.
-/
theorem map_name_of_declares
    {ts : List SyntaxTree}
    {forest : Outline.Forest}
    {outer : Outer}
    {holder : String}
    {classes : List ClassDecl}
    (hDeclares : Outline.Declares f.source ts forest)
    (hOuter :
      ∀ name,
        f.qualifiedName outer name = Name.inside holder name)
    (hNames : ∀ t ∈ ts, Outline.HasNames f.source t)
    (hOk : f.classesIn outer ts = .ok classes) :
    classes.map ClassDecl.name =
      (forest.depthFirst holder).map Prod.snd := by
  induction hDeclares generalizing outer holder classes with
  | nil =>
      cases hOk
      rfl
  | @other t _ _ hKind hBody _ ih =>
      rcases classesIn_cons_ok hOk with
        ⟨first, others, hFirst, hOthers, rfl⟩
      rw [classesOf_other outer hKind hBody] at hFirst
      cases hFirst
      exact ih hOuter
        (fun u hu => hNames u (List.mem_cons_of_mem t hu)) hOthers
  | @unnamed t _ _ hKind hName _ ih =>
      rcases classesIn_cons_ok hOk with
        ⟨first, others, hFirst, hOthers, rfl⟩
      rw [classesOf_unnamed outer hKind hName] at hFirst
      cases hFirst
      exact ih hOuter
        (fun u hu => hNames u (List.mem_cons_of_mem t hu)) hOthers
  | @members t _ _ _ hKind _ _ ihInner ihOthers =>
      rcases classesIn_cons_ok hOk with
        ⟨first, rest, hFirst, hRest, rfl⟩
      rw [classesOf_members outer hKind] at hFirst
      have hScoped :
          ∀ name,
            f.qualifiedName { outer with implicit := [] } name =
              Name.inside holder name :=
        hOuter
      have hMembers :=
        ihInner hScoped
          (fun c hc => (hNames t List.mem_cons_self).child hc)
          hFirst
      have hSiblings :=
        ihOthers hOuter
          (fun u hu => hNames u (List.mem_cons_of_mem t hu)) hRest
      rw [List.map_append, hMembers, hSiblings,
        Outline.Forest.depthFirst_append, List.map_append]
  | @type t _ _ name _ _ hKind hName hRead _ _ ihInner ihOthers =>
      rcases classesIn_cons_ok hOk with
        ⟨first, rest, hFirst, hRest, rfl⟩
      rcases classesOf_type_ok hKind hName hRead hFirst with
        ⟨c, scope, nested, _, hClassName, hNested, rfl⟩
      rw [hOuter] at hClassName
      have hHere := hNames t List.mem_cons_self
      -- an empty name would not come before the names inside
      have hAround : c.name ≠ "" := by
        rw [hClassName]
        exact Name.inside_ne_empty holder
          (hHere.ne_empty hKind hName hRead)
      have hInner :=
        ihInner (qualifiedName_insideOf hAround scope)
          (fun d hd => hHere.body hd) hNested
      have hSiblings :=
        ihOthers hOuter
          (fun u hu => hNames u (List.mem_cons_of_mem t hu)) hRest
      rw [List.cons_append, List.map_cons, List.map_append, hInner,
        hSiblings, Outline.Forest.depthFirst, List.map_cons,
        List.map_append, hClassName]

end SourceFile

end DeclaredApi

------------------------------------------------------------
-- Local Names
------------------------------------------------------------

namespace DeclaredApi

namespace Outline

/-
  A short name stands for the first of the types that have it
  at the least depth.
-/
def FirstByDepth
    (holder : String)
    (forest : Forest)
    (short qualified : String) : Prop :=
  ∃ depth,
    (forest.atDepth holder depth).lookup short =
        some qualified ∧
      ∀ less < depth,
        (forest.atDepth holder less).lookup short = none

/- What is left out under other names is not looked up. -/
theorem lookup_filter_ne
    {name short : String}
    (entries : List (String × String))
    (hShort : short ≠ name) :
    (entries.filter (fun other => other.1 != name)).lookup
        short =
      entries.lookup short := by
  induction entries with
  | nil => rfl
  | cons entry entries ih =>
      rw [List.filter_cons]
      split
      · rw [List.lookup_cons, List.lookup_cons, ih]
      · next hName =>
          have hEntry : entry.1 = name := by simpa using hName
          have hOther : (short == entry.1) = false := by
            rw [hEntry]
            exact beq_eq_false_iff_ne.mpr hShort
          rw [ih, List.lookup_cons, hOther]

theorem lookup_firstOfEach
    (entries : List (String × String))
    (short : String) :
    (firstOfEach entries).lookup short =
      entries.lookup short := by
  induction entries with
  | nil => rfl
  | cons entry entries ih =>
      rcases entry with ⟨name, qualified⟩
      rw [firstOfEach, List.lookup_cons, List.lookup_cons]
      by_cases hShort : short = name
      · rw [beq_iff_eq.mpr hShort]
      · rw [beq_eq_false_iff_ne.mpr hShort,
          lookup_filter_ne _ hShort, ih]

/- Level after level, the first entry of a name is found. -/
theorem lookup_flatten_iff
    {levels : Levels}
    {short qualified : String} :
    levels.flatten.lookup short = some qualified ↔
      ∃ depth,
        (levels.getD depth []).lookup short = some qualified ∧
          ∀ less < depth,
            (levels.getD less []).lookup short = none := by
  induction levels with
  | nil => simp
  | cons names levels ih =>
      rw [List.flatten_cons, List.lookup_append,
        Option.or_eq_some_iff, ih]
      constructor
      · rintro (hHere | ⟨hNone, depth, hSome, hLess⟩)
        · exact ⟨0, hHere, fun _ h => absurd h (Nat.not_lt_zero _)⟩
        · refine ⟨depth + 1, hSome, ?_⟩
          intro less hLt
          cases less with
          | zero => exact hNone
          | succ less => exact hLess less (Nat.lt_of_succ_lt_succ hLt)
      · rintro ⟨depth, hSome, hLess⟩
        cases depth with
        | zero => exact Or.inl hSome
        | succ depth =>
            refine Or.inr ⟨hLess 0 (Nat.zero_lt_succ depth),
              depth, hSome, ?_⟩
            intro less hLt
            exact hLess (less + 1) (Nat.succ_lt_succ hLt)

/- A name that some type has stands for one of the types. -/
theorem exists_firstByDepth
    {holder : String}
    {forest : Forest}
    {entry : String × String}
    (hMem : entry ∈ forest.depthFirst holder) :
    ∃ qualified,
      FirstByDepth holder forest entry.1 qualified ∧
        (entry.1, qualified) ∈ forest.depthFirst holder := by
  rcases Forest.mem_depthFirst_iff.mp hMem with
    ⟨depth, hDepth⟩
  have hSome :
      ∃ depth,
        ((forest.atDepth holder depth).lookup
          entry.1).isSome = true :=
    ⟨depth, List.lookup_isSome_iff.mpr
      ⟨entry, hDepth, beq_self_eq_true _⟩⟩
  rcases Option.isSome_iff_exists.mp (Nat.find_spec hSome) with
    ⟨qualified, hFound⟩
  refine ⟨qualified, ⟨Nat.find hSome, hFound, ?_⟩, ?_⟩
  · intro less hLess
    exact Option.not_isSome_iff_eq_none.mp
      (Nat.find_min hSome hLess)
  · apply Forest.mem_depthFirst_iff.mpr
    rcases List.lookup_eq_some_iff.mp hFound with
      ⟨before, after, hEntries, _⟩
    refine ⟨Nat.find hSome, ?_⟩
    rw [hEntries]
    exact List.mem_append_right _ List.mem_cons_self

/- The context of a file gives local names by depth. -/
theorem exists_declares_of_context
    {source : SourceText}
    {file : SyntaxTree}
    {context : FileContext}
    (hContext : Outline.context source file = .ok context) :
    ∃ forest,
      package source file = .ok context.package ∧
        Declares source file.children forest ∧
        ∀ short qualified,
          context.localTypes.lookup short = some qualified ↔
            FirstByDepth context.package forest short
              qualified := by
  rcases Result.bind_eq_ok_iff.mp hContext with
    ⟨package, hPackage, hContext⟩
  rcases Result.bind_eq_ok_iff.mp hContext with
    ⟨imports, _, hContext⟩
  rcases Result.bind_eq_ok_iff.mp hContext with
    ⟨localTypes, hLocal, hPure⟩
  cases hPure
  rcases Result.bind_eq_ok_iff.mp hLocal with
    ⟨levels, hLevels, hPure⟩
  cases hPure
  rcases exists_declares_of_levelsIn hLevels with
    ⟨forest, hDeclares, hDepths⟩
  refine ⟨forest, hPackage, hDeclares, ?_⟩
  intro short qualified
  simp only [lookup_firstOfEach, lookup_flatten_iff, hDepths]
  exact Iff.rfl

end Outline

end DeclaredApi

------------------------------------------------------------
-- Agreement
------------------------------------------------------------

namespace DeclaredApi

/- The simple name of a class is the last part of its name. -/
theorem ClassDecl.simpleName_of_inside
    {c : ClassDecl}
    {around name : String}
    (hName : c.name = Name.inside around name)
    (hDot : '.' ∉ name.toList) :
    c.simpleName = name := by
  have hName' : ∀ ch ∈ name.toList.reverse, (ch != '.') = true := by
    intro ch hMem
    have hNe : ch ≠ '.' := by
      rintro rfl
      exact hDot (List.mem_reverse.mp hMem)
    exact bne_iff_ne.mpr hNe
  have hWord :
      c.name.toList.reverse.takeWhile (fun ch => ch != '.') =
        name.toList.reverse := by
    rw [hName, Name.inside]
    split
    · exact List.takeWhile_eq_self_iff.mpr hName'
    · rw [String.toList_append, String.toList_append,
        List.reverse_append, List.takeWhile_append_of_pos hName',
        List.reverse_append]
      exact List.append_nil _
  rw [simpleName, hWord, List.reverse_reverse,
    String.ofList_toList]

namespace SourceFile

/-
  The phases see the same declarations.  When the classes of
  a file can be built and no declaration has an empty name,
  its scan is complete and lists their names in the same
  order, which is that of the declared forest, depth first;
  and each of its short names is a local name, for the first
  type of that name at the least depth.
-/
theorem declarations_agree
    {source : SourceText}
    {table : SymbolTable}
    {file : SyntaxTree}
    {classes : List ClassDecl}
    (hNames : Outline.HasNames source file)
    (hBuild : build source table file = .ok classes) :
    let scan := Scan.ofFile source file
    ∃ context forest,
      Outline.context source file = .ok context ∧
        Outline.Declares source file.children forest ∧
        scan.complete = true ∧
        scan.types = forest.depthFirst context.package ∧
        List.Forall₂
          (fun entry c =>
            c.name = entry.2 ∧
              ('.' ∉ entry.1.toList → c.simpleName = entry.1))
          scan.types classes ∧
        (∀ short qualified,
          context.localTypes.lookup short = some qualified ↔
            Outline.FirstByDepth context.package forest short
              qualified) ∧
        ∀ entry ∈ scan.types,
          ∃ c ∈ classes,
            context.localTypes.lookup entry.1 = some c.name := by
  intro scan
  rcases Result.bind_eq_ok_iff.mp hBuild with
    ⟨context, hContext, hClasses⟩
  rcases Outline.exists_declares_of_context hContext with
    ⟨forest, hPackage, hDeclares, hLocal⟩
  have hScan :
      scan = ⟨forest.depthFirst context.package, true⟩ := by
    simp only [scan, Scan.ofFile, hPackage]
    exact Scan.declarationsIn_of_declares hDeclares _
  have hMap :
      classes.map ClassDecl.name =
        scan.types.map Prod.snd := by
    rw [hScan]
    exact map_name_of_declares
      (f := ⟨source, table, context⟩) hDeclares
      (fun _ => rfl) (fun _ ht => hNames.child ht) hClasses
  refine ⟨context, forest, hContext, hDeclares, by rw [hScan],
    by rw [hScan], ?_, hLocal, ?_⟩
  · have hSame :
        List.Forall₂ (fun entry c => c.name = entry.2) scan.types
          classes := by
      rw [← List.forall₂_eq_eq_eq, List.forall₂_map_left_iff,
        List.forall₂_map_right_iff] at hMap
      exact hMap.flip
    have hInside :
        ∀ entry ∈ scan.types,
          ∃ around, entry.2 = Name.inside around entry.1 := by
      rw [hScan]
      exact fun entry hEntry =>
        Outline.Forest.exists_inside_of_mem hEntry
    apply ((List.forall₂_and_left _ _).mpr
      ⟨hInside, hSame⟩).imp
    rintro entry c ⟨⟨around, hAround⟩, hName⟩
    exact ⟨hName,
      ClassDecl.simpleName_of_inside (hName.trans hAround)⟩
  · intro entry hEntry
    have hForest := hEntry
    rw [hScan] at hForest
    rcases Outline.exists_firstByDepth hForest with
      ⟨qualified, hFirst, hMem⟩
    have hClass : qualified ∈ classes.map ClassDecl.name := by
      rw [hMap, hScan]
      exact List.mem_map_of_mem hMem
    rcases List.mem_map.mp hClass with ⟨c, hc, rfl⟩
    exact ⟨c, hc, (hLocal _ _).mpr hFirst⟩

/- Two classes of one name, one of them in an enumeration. -/
def shadedSource : SourceText :=
  "enum A{;class B{}}class B{}".toUTF8

/- The syntax tree of the text. -/
def shadedTree : SyntaxTree :=
  .node "program" 0 27 none true
    [.node "enum_declaration" 0 18 none true
      [.node "identifier" 5 6 (some "name") true [],
        .node "enum_body" 6 18 (some "body") true
          [.node "enum_body_declarations" 7 17 none true
            [.node "class_declaration" 8 17 none true
              [.node "identifier" 14 15 (some "name") true [],
                .node "class_body" 15 17 (some "body") true
                  []]]]],
      .node "class_declaration" 18 27 none true
        [.node "identifier" 24 25 (some "name") true [],
          .node "class_body" 25 27 (some "body") true []]]

/- The classes that the text declares. -/
def shadedClasses : List ClassDecl :=
  ((build shadedSource {} shadedTree).toOption).getD []

/-
  The class in the enumeration is scanned before the other
  one of its name, which the name stands for in the file.
-/
theorem declarations_agree_shaded :
    (Scan.ofFile shadedSource shadedTree).types =
        [("A", "A"), ("B", "A.B"), ("B", "B")] ∧
      List.Forall₂ (fun entry c => c.name = entry.2)
        [("A", "A"), ("B", "A.B"), ("B", "B")] shadedClasses ∧
      ∃ context,
        Outline.context shadedSource shadedTree = .ok context ∧
          context.localTypes.lookup "B" = some "B" := by
  have hNames : Outline.HasNames shadedSource shadedTree := by
    unfold Outline.HasNames
    decide +kernel
  have hBuild :
      build shadedSource {} shadedTree = .ok shadedClasses :=
    Result.eq_ok_of_isOk [] (by decide +kernel)
  rcases declarations_agree hNames hBuild with
    ⟨context, forest, hContext, _, _, _, hClasses, _, _⟩
  have hTypes :
      (Scan.ofFile shadedSource shadedTree).types =
        [("A", "A"), ("B", "A.B"), ("B", "B")] := by
    decide +kernel
  refine ⟨hTypes, ?_, context, hContext, ?_⟩
  · rw [hTypes] at hClasses
    exact hClasses.imp fun entry c hAgree => hAgree.1
  · have hLocal :
        (Outline.context shadedSource shadedTree).toOption.bind
          (fun context => context.localTypes.lookup "B") =
            some "B" := by
      decide +kernel
    rw [hContext] at hLocal
    exact hLocal

end SourceFile

end DeclaredApi
