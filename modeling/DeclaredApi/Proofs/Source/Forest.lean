import DeclaredApi.Proofs.Result
import DeclaredApi.Proofs.Source.Scoping
import DeclaredApi.Source.Scan

/-
  The types that a file declares, by their nesting.

  The nodes of a file declare a forest of types.  A scan
  lists it with each type before the types inside it, and the
  levels of an outline list it depth by depth.

  Main declarations:
    * `Outline.Forest`
    * `Outline.Forest.depthFirst`
    * `Outline.Forest.atDepth`
    * `SyntaxTree.inductionOnBodies`
    * `Outline.Declares`
    * `Outline.exists_declares_of_levelsIn`
    * `Scan.declarationsIn_of_declares`
-/

------------------------------------------------------------
-- Forests
------------------------------------------------------------

namespace DeclaredApi

namespace Outline

/-
  Types with the types inside them: the name of the first
  one, what it holds, and the types after it.
-/
inductive Forest where
| empty
| type (name : String) (inner others : Forest)
deriving DecidableEq, Repr

namespace Forest

/- The types of one forest, then those of another. -/
def append : Forest → Forest → Forest
| .empty, forest => forest
| .type name inner others, forest =>
    .type name inner (append others forest)

/-
  The short and qualified names of all types, each type
  before the types inside it.
-/
def depthFirst : String → Forest → List (String × String)
| _, .empty => []
| holder, .type name inner others =>
    (name, Name.inside holder name) ::
      (depthFirst (Name.inside holder name) inner ++
        depthFirst holder others)

/- The short and qualified names of the types at a depth. -/
def atDepth : String → Nat → Forest → List (String × String)
| _, _, .empty => []
| holder, 0, .type name _ others =>
    (name, Name.inside holder name) :: atDepth holder 0 others
| holder, depth + 1, .type name inner others =>
    atDepth (Name.inside holder name) depth inner ++
      atDepth holder (depth + 1) others

theorem append_empty
    (forest : Forest) :
    forest.append .empty = forest := by
  induction forest with
  | empty => rfl
  | type name inner rest _ ih => rw [append, ih]

theorem depthFirst_append
    (holder : String)
    (forest others : Forest) :
    (forest.append others).depthFirst holder =
      forest.depthFirst holder ++ others.depthFirst holder := by
  induction forest with
  | empty => rfl
  | type name inner rest _ ih =>
      rw [append, depthFirst, depthFirst, ih, List.cons_append,
        List.append_assoc]

theorem atDepth_append
    (holder : String)
    (depth : Nat)
    (forest others : Forest) :
    (forest.append others).atDepth holder depth =
      forest.atDepth holder depth ++
        others.atDepth holder depth := by
  induction forest with
  | empty =>
      rw [append, atDepth]
      rfl
  | type name inner rest _ ih =>
      cases depth with
      | zero => rw [append, atDepth, atDepth, ih, List.cons_append]
      | succ depth =>
          rw [append, atDepth, atDepth, ih, List.append_assoc]

/- Every type is declared at some depth. -/
theorem mem_depthFirst_iff
    {holder : String}
    {forest : Forest}
    {entry : String × String} :
    entry ∈ forest.depthFirst holder ↔
      ∃ depth, entry ∈ forest.atDepth holder depth := by
  induction forest generalizing holder with
  | empty => simp [depthFirst, atDepth]
  | type name inner others ihInner ihOthers =>
      rw [depthFirst, List.mem_cons, List.mem_append, ihInner,
        ihOthers]
      constructor
      · rintro (rfl | ⟨depth, hInner⟩ | ⟨depth, hOthers⟩)
        · exact ⟨0, List.mem_cons_self⟩
        · exact ⟨depth + 1, List.mem_append_left _ hInner⟩
        · cases depth with
          | zero => exact ⟨0, List.mem_cons_of_mem _ hOthers⟩
          | succ depth =>
              exact ⟨depth + 1, List.mem_append_right _ hOthers⟩
      · rintro ⟨depth, hMem⟩
        cases depth with
        | zero =>
            rcases List.mem_cons.mp hMem with hHere | hOthers
            · exact Or.inl hHere
            · exact Or.inr (Or.inr ⟨0, hOthers⟩)
        | succ depth =>
            rcases List.mem_append.mp hMem with hInner | hOthers
            · exact Or.inr (Or.inl ⟨depth, hInner⟩)
            · exact Or.inr (Or.inr ⟨depth + 1, hOthers⟩)

/- The qualified name of a type ends in its short name. -/
theorem exists_inside_of_mem
    {holder : String}
    {forest : Forest}
    {entry : String × String}
    (hMem : entry ∈ forest.depthFirst holder) :
    ∃ around, entry.2 = Name.inside around entry.1 := by
  induction forest generalizing holder with
  | empty => exact absurd hMem List.not_mem_nil
  | type name inner others ihInner ihOthers =>
      rcases List.mem_cons.mp hMem with rfl | hRest
      · exact ⟨holder, rfl⟩
      · rcases List.mem_append.mp hRest with hInner | hOthers
        · exact ihInner hInner
        · exact ihOthers hOthers

end Forest

end Outline

end DeclaredApi

------------------------------------------------------------
-- Declared Forests
------------------------------------------------------------

namespace DeclaredApi

/- The children of the first node that is a body. -/
def SyntaxTree.bodyNodes :
    List SyntaxTree → List SyntaxTree
| [] => []
| .node _ _ _ field _ children :: ts =>
    if field = some "body" then children else bodyNodes ts

/- A body is that of one of the nodes, or there is none. -/
theorem SyntaxTree.bodyNodes_cases
    (ts : List SyntaxTree) :
    bodyNodes ts = [] ∨
      ∃ t ∈ ts, bodyNodes ts = t.children := by
  induction ts with
  | nil => exact Or.inl rfl
  | cons t ts ih =>
      rcases t with ⟨kind, start, stop, field, isNamed, children⟩
      rw [bodyNodes]
      split
      · exact Or.inr ⟨_, List.mem_cons_self, rfl⟩
      · apply ih.imp_right
        rintro ⟨u, hu, hBody⟩
        exact ⟨u, List.mem_cons_of_mem _ hu, hBody⟩

/-
  Induction with the hypothesis for what each node holds and
  for what its body holds.  The induction over a node carries
  the children of its children, since one of these is the
  body.
-/
theorem SyntaxTree.inductionOnBodies
    {motive : List SyntaxTree → Prop}
    (step :
      ∀ ts,
        (∀ t ∈ ts,
          motive t.children ∧ motive (bodyNodes t.children)) →
          motive ts)
    (ts : List SyntaxTree) :
    motive ts := by
  have hBody :
      ∀ ts : List SyntaxTree,
        (∀ t ∈ ts, motive t.children) →
          motive (bodyNodes ts) := by
    intro ts hChildren
    rcases bodyNodes_cases ts with hNone | ⟨t, ht, hSome⟩
    · rw [hNone]
      exact step [] fun _ ht => absurd ht List.not_mem_nil
    · rw [hSome]
      exact hChildren t ht
  have hParts :
      ∀ t : SyntaxTree,
        motive t.children ∧
          ∀ c ∈ t.children, motive c.children := by
    intro t
    induction t with
    | node kind start stop field isNamed children ih =>
        refine ⟨step children ?_, fun c hc => (ih c hc).1⟩
        exact fun c hc => ⟨(ih c hc).1, hBody _ (ih c hc).2⟩
  exact step ts fun t _ =>
    ⟨(hParts t).1, hBody _ (hParts t).2⟩

namespace Outline

/-
  Some nodes declare a forest: declarations with a name
  declare a type with what their bodies declare inside it,
  and the types among the members of an enumeration stand
  where these members do.
-/
inductive Declares
    (source : SourceText) : List SyntaxTree → Forest → Prop
| nil : Declares source [] .empty
| other
    {t : SyntaxTree}
    {ts : List SyntaxTree}
    {forest : Forest}
    (hKind : declarationKinds.contains t.kind = false)
    (hBody : t.kind ≠ enumBodyKind)
    (hRest : Declares source ts forest) :
    Declares source (t :: ts) forest
| unnamed
    {t : SyntaxTree}
    {ts : List SyntaxTree}
    {forest : Forest}
    (hKind : declarationKinds.contains t.kind = true)
    (hName : t.childAt? "name" = none)
    (hRest : Declares source ts forest) :
    Declares source (t :: ts) forest
| members
    {t : SyntaxTree}
    {ts : List SyntaxTree}
    {inner others : Forest}
    (hKind : t.kind = enumBodyKind)
    (hInner : Declares source t.children inner)
    (hRest : Declares source ts others) :
    Declares source (t :: ts) (inner.append others)
| type
    {t node : SyntaxTree}
    {ts : List SyntaxTree}
    {name : String}
    {inner others : Forest}
    (hKind : declarationKinds.contains t.kind = true)
    (hName : t.childAt? "name" = some node)
    (hRead : source.read node = .ok name)
    (hInner :
      Declares source (SyntaxTree.bodyNodes t.children) inner)
    (hRest : Declares source ts others) :
    Declares source (t :: ts) (.type name inner others)

/- The members of enumerations are no declaration. -/
theorem contains_enumBodyKind :
    declarationKinds.contains enumBodyKind ≠ true := by
  decide

end Outline

end DeclaredApi

------------------------------------------------------------
-- Levels
------------------------------------------------------------

namespace DeclaredApi

namespace Outline

variable {source : SourceText}

theorem getD_appendLevels
    (levels others : Levels)
    (depth : Nat) :
    (appendLevels levels others).getD depth [] =
      levels.getD depth [] ++ others.getD depth [] := by
  induction levels generalizing others depth with
  | nil => rw [appendLevels, List.getD_nil, List.nil_append]
  | cons names levels ih =>
      cases others with
      | nil =>
          simp only [appendLevels, List.getD_nil, List.append_nil]
      | cons names' others =>
          cases depth with
          | zero => rfl
          | succ depth =>
              rw [appendLevels, List.getD_cons_succ,
                List.getD_cons_succ, List.getD_cons_succ, ih]

theorem levelsInBody_eq
    (holder : String)
    (ts : List SyntaxTree) :
    levelsInBody source holder ts =
      levelsIn source holder (SyntaxTree.bodyNodes ts) := by
  induction ts with
  | nil => rw [levelsInBody, SyntaxTree.bodyNodes, levelsIn]
  | cons t ts ih =>
      rcases t with ⟨kind, start, stop, field, isNamed, children⟩
      rw [levelsInBody, SyntaxTree.bodyNodes, ih]
      by_cases hBody : field = some "body"
      · rw [if_pos hBody, if_pos hBody]
      · rw [if_neg hBody, if_neg hBody]

/- What the levels of a node are, by what it declares. -/
theorem levelsOf_cases
    {holder : String}
    {t : SyntaxTree}
    {levels : Levels}
    (hOk : levelsOf source holder t = .ok levels) :
    (declarationKinds.contains t.kind = false ∧
        t.kind ≠ enumBodyKind ∧ levels = []) ∨
      (declarationKinds.contains t.kind = true ∧
        t.childAt? "name" = none ∧ levels = []) ∨
      (t.kind = enumBodyKind ∧
        levelsIn source holder t.children = .ok levels) ∨
      ∃ node name inside,
        declarationKinds.contains t.kind = true ∧
          t.childAt? "name" = some node ∧
          source.read node = .ok name ∧
          levelsIn source (Name.inside holder name)
              (SyntaxTree.bodyNodes t.children) =
            .ok inside ∧
          levels = [(name, Name.inside holder name)] :: inside := by
  rcases t with ⟨kind, start, stop, field, isNamed, children⟩
  rw [levelsOf] at hOk
  split at hOk
  · next hKind =>
      split at hOk
      · next hName =>
          cases hOk
          exact Or.inr (Or.inl ⟨hKind, hName, rfl⟩)
      · next node hName =>
          rcases Result.bind_eq_ok_iff.mp hOk with
            ⟨name, hRead, hOk⟩
          rcases Result.bind_eq_ok_iff.mp hOk with
            ⟨inside, hInside, hPure⟩
          cases hPure
          rw [levelsInBody_eq] at hInside
          exact Or.inr (Or.inr (Or.inr
            ⟨node, name, inside, hKind, hName, hRead, hInside,
              rfl⟩))
  · next hKind =>
      split at hOk
      · next hEnum =>
          exact Or.inr (Or.inr (Or.inl ⟨hEnum, hOk⟩))
      · next hEnum =>
          cases hOk
          exact Or.inl ⟨Bool.eq_false_iff.mpr hKind, hEnum, rfl⟩

/- Nodes with levels declare a forest with these levels. -/
def Levelled
    (source : SourceText)
    (ts : List SyntaxTree) : Prop :=
  ∀ holder levels,
    levelsIn source holder ts = .ok levels →
      ∃ forest,
        Declares source ts forest ∧
          ∀ depth,
            levels.getD depth [] = forest.atDepth holder depth

theorem levelled_of_parts
    {ts : List SyntaxTree}
    (hParts :
      ∀ t ∈ ts,
        Levelled source t.children ∧
          Levelled source (SyntaxTree.bodyNodes t.children)) :
    Levelled source ts := by
  induction ts with
  | nil =>
      intro holder levels hOk
      cases hOk
      exact ⟨.empty, .nil, fun _ => rfl⟩
  | cons t ts ih =>
      intro holder levels hOk
      rw [levelsIn] at hOk
      rcases Result.bind_eq_ok_iff.mp hOk with
        ⟨first, hFirst, hOk⟩
      rcases Result.bind_eq_ok_iff.mp hOk with
        ⟨rest, hOthers, hPure⟩
      cases hPure
      rcases ih (fun u hu => hParts u (List.mem_cons_of_mem t hu))
          holder rest hOthers with
        ⟨others, hRest, hDepths⟩
      rcases hParts t List.mem_cons_self with ⟨hInside, hBody⟩
      simp only [getD_appendLevels, hDepths]
      rcases levelsOf_cases hFirst with
        ⟨hKind, hEnum, rfl⟩ | ⟨hKind, hName, rfl⟩ |
          ⟨hEnum, hMembers⟩ |
          ⟨node, name, inside, hKind, hName, hRead, hInner, rfl⟩
      · exact ⟨others, .other hKind hEnum hRest, fun _ => rfl⟩
      · exact ⟨others, .unnamed hKind hName hRest, fun _ => rfl⟩
      · rcases hInside holder first hMembers with
          ⟨inner, hDeclares, hInnerDepths⟩
        refine ⟨inner.append others,
          .members hEnum hDeclares hRest, ?_⟩
        intro depth
        rw [hInnerDepths, Forest.atDepth_append]
      · rcases hBody _ _ hInner with
          ⟨inner, hDeclares, hInnerDepths⟩
        refine ⟨.type name inner others,
          .type hKind hName hRead hDeclares hRest, ?_⟩
        intro depth
        cases depth with
        | zero => rfl
        | succ depth =>
            rw [List.getD_cons_succ, hInnerDepths,
              Forest.atDepth]

/- Levels are those of the forest that is declared. -/
theorem exists_declares_of_levelsIn
    {holder : String}
    {ts : List SyntaxTree}
    {levels : Levels}
    (hOk : levelsIn source holder ts = .ok levels) :
    ∃ forest,
      Declares source ts forest ∧
        ∀ depth,
          levels.getD depth [] = forest.atDepth holder depth :=
  SyntaxTree.inductionOnBodies (fun _ => levelled_of_parts) ts
    holder levels hOk

end Outline

end DeclaredApi

------------------------------------------------------------
-- Scans
------------------------------------------------------------

namespace DeclaredApi

namespace Scan

variable {source : SourceText}

theorem declarationsInBody_eq
    (holder : String)
    (ts : List SyntaxTree) :
    declarationsInBody source holder ts =
      declarationsIn source holder
        (SyntaxTree.bodyNodes ts) := by
  induction ts with
  | nil =>
      rw [declarationsInBody, SyntaxTree.bodyNodes,
        declarationsIn]
  | cons t ts ih =>
      rcases t with ⟨kind, start, stop, field, isNamed, children⟩
      rw [declarationsInBody, SyntaxTree.bodyNodes, ih]
      by_cases hBody : field = some "body"
      · rw [if_pos hBody, if_pos hBody]
      · rw [if_neg hBody, if_neg hBody]

/- Nothing is found in nodes that declare no type. -/
theorem declarationsOf_other
    {t : SyntaxTree}
    (holder : String)
    (hKind : Outline.declarationKinds.contains t.kind = false)
    (hBody : t.kind ≠ Outline.enumBodyKind) :
    declarationsOf source holder t = {} := by
  rcases t with ⟨kind, start, stop, field, isNamed, children⟩
  have hOther :
      Outline.declarationKinds.contains kind ≠ true :=
    Bool.eq_false_iff.mp hKind
  have hEnum : kind ≠ Outline.enumBodyKind := hBody
  rw [declarationsOf, if_neg hOther, if_neg hEnum]

/- Nothing is found in declarations without a name. -/
theorem declarationsOf_unnamed
    {t : SyntaxTree}
    (holder : String)
    (hKind : Outline.declarationKinds.contains t.kind = true)
    (hName : t.childAt? "name" = none) :
    declarationsOf source holder t = {} := by
  rcases t with ⟨kind, start, stop, field, isNamed, children⟩
  have hType :
      Outline.declarationKinds.contains kind = true :=
    hKind
  have hNone : SyntaxTree.atField? "name" children = none :=
    hName
  rw [declarationsOf, if_pos hType, hNone]

theorem declarationsOf_members
    {t : SyntaxTree}
    (holder : String)
    (hKind : t.kind = Outline.enumBodyKind) :
    declarationsOf source holder t =
      declarationsIn source holder t.children := by
  rcases t with ⟨kind, start, stop, field, isNamed, children⟩
  have hEnum : kind = Outline.enumBodyKind := hKind
  rw [hEnum, declarationsOf,
    if_neg Outline.contains_enumBodyKind, if_pos rfl,
    SyntaxTree.children]

/- A named declaration comes before the types in its body. -/
theorem declarationsOf_type
    {t node : SyntaxTree}
    {name : String}
    (holder : String)
    (hKind : Outline.declarationKinds.contains t.kind = true)
    (hName : t.childAt? "name" = some node)
    (hRead : source.read node = .ok name) :
    declarationsOf source holder t =
      append ⟨[(name, Name.inside holder name)], true⟩
        (declarationsIn source (Name.inside holder name)
          (SyntaxTree.bodyNodes t.children)) := by
  rcases t with ⟨kind, start, stop, field, isNamed, children⟩
  have hType :
      Outline.declarationKinds.contains kind = true :=
    hKind
  have hSome :
      SyntaxTree.atField? "name" children = some node :=
    hName
  rw [declarationsOf, if_pos hType, hSome, SyntaxTree.children]
  simp only [hRead, declarationsInBody_eq]

/- A scan lists the forest that is declared. -/
theorem declarationsIn_of_declares
    {ts : List SyntaxTree}
    {forest : Outline.Forest}
    (hDeclares : Outline.Declares source ts forest)
    (holder : String) :
    declarationsIn source holder ts =
      ⟨forest.depthFirst holder, true⟩ := by
  induction hDeclares generalizing holder with
  | nil => rfl
  | other hKind hBody _ ih =>
      rw [declarationsIn, declarationsOf_other holder hKind hBody,
        ih]
      rfl
  | unnamed hKind hName _ ih =>
      rw [declarationsIn,
        declarationsOf_unnamed holder hKind hName, ih]
      rfl
  | members hKind _ _ ihInner ihOthers =>
      rw [declarationsIn, declarationsOf_members holder hKind,
        ihInner, ihOthers, Outline.Forest.depthFirst_append]
      rfl
  | type hKind hName hRead _ _ ihInner ihOthers =>
      rw [declarationsIn,
        declarationsOf_type holder hKind hName hRead, ihInner,
        ihOthers]
      simp [append, Outline.Forest.depthFirst]

end Scan

end DeclaredApi
