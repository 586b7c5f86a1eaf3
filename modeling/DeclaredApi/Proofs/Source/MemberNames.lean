import DeclaredApi.Proofs.Source.Declarations
import DeclaredApi.Proofs.Source.Lookups
import DeclaredApi.Proofs.Source.MemberTypes

/-
  Names of member types.

  A file has one table for the names of its types, whatever
  they are declared in.  A simple name in a class that
  declares a member type of that name stands for the first
  type of the name at the least depth, which is the member
  type only if no other one comes before it.

  Main declarations:
    * `Outline.DeclaresType`
    * `SourceFile.Builds`
    * `SourceFile.Builds.bodyTypesAmong`
    * `SourceFile.StandsFor`
    * `SourceFile.standsFor_of_local`
    * `SourceFile.member_name_is_first_by_depth`
    * `SourceFile.member_name_means_another_type`
-/

------------------------------------------------------------
-- Types inside Types
------------------------------------------------------------

namespace DeclaredApi

namespace Outline

namespace Forest

/- What a forest is in does not change the short names. -/
theorem map_fst_depthFirst
    (holder other : String)
    (forest : Forest) :
    (forest.depthFirst holder).map Prod.fst =
      (forest.depthFirst other).map Prod.fst := by
  induction forest generalizing holder other with
  | empty => rfl
  | type name inner others ihInner ihOthers =>
      simp only [depthFirst, List.map_cons, List.map_append]
      rw [ihInner (Name.inside holder name)
        (Name.inside other name), ihOthers holder other]

/- The types inside the first one are among all of them. -/
theorem inner_subset_depthFirst
    (holder name : String)
    (inner others : Forest) :
    inner.depthFirst (Name.inside holder name) ⊆
      (type name inner others).depthFirst holder := by
  rw [depthFirst]
  exact List.Subset.trans (List.subset_append_left _ _)
    (List.subset_cons_self _ _)

/- And so are the types after the first one. -/
theorem others_subset_depthFirst
    (holder name : String)
    (inner others : Forest) :
    others.depthFirst holder ⊆
      (type name inner others).depthFirst holder := by
  rw [depthFirst]
  exact List.Subset.trans (List.subset_append_right _ _)
    (List.subset_cons_self _ _)

end Forest

/- No type has two places as the first one of its name. -/
theorem FirstByDepth.unique
    {holder short qualified other : String}
    {forest : Forest}
    (hFirst : FirstByDepth holder forest short qualified)
    (hOther : FirstByDepth holder forest short other) :
    qualified = other := by
  rcases hFirst with ⟨depth, hSome, hNone⟩
  rcases hOther with ⟨depth', hSome', hNone'⟩
  rcases Nat.lt_trichotomy depth depth' with hLt | rfl | hLt
  · rw [hNone' depth hLt] at hSome
    cases hSome
  · rw [hSome] at hSome'
    exact Option.some.inj hSome'
  · rw [hNone depth' hLt] at hSome'
    cases hSome'

end Outline

end DeclaredApi

------------------------------------------------------------
-- Directly Declared Types
------------------------------------------------------------

namespace DeclaredApi

namespace Outline

/-
  Some nodes declare a type of a name, not inside another
  one; the members of an enumeration stand where it does.
-/
inductive DeclaresType
    (source : SourceText)
    (name : String) : List SyntaxTree → Prop
| here
    {t node : SyntaxTree}
    {ts : List SyntaxTree}
    (hKind : declarationKinds.contains t.kind = true)
    (hName : t.childAt? "name" = some node)
    (hRead : source.read node = .ok name) :
    DeclaresType source name (t :: ts)
| members
    {t : SyntaxTree}
    {ts : List SyntaxTree}
    (hKind : t.kind = enumBodyKind)
    (hInside : DeclaresType source name t.children) :
    DeclaresType source name (t :: ts)
| later
    {t : SyntaxTree}
    {ts : List SyntaxTree}
    (hRest : DeclaresType source name ts) :
    DeclaresType source name (t :: ts)

variable {source : SourceText}

/- A declaration with a name is the first type of a forest. -/
theorem Declares.exists_type
    {t : SyntaxTree}
    {ts : List SyntaxTree}
    {forest : Forest}
    (hDeclares : Declares source (t :: ts) forest)
    (hKind : declarationKinds.contains t.kind = true)
    (hNamed : t.childAt? "name" ≠ none) :
    ∃ node name inner others,
      t.childAt? "name" = some node ∧
        source.read node = .ok name ∧
        Declares source (SyntaxTree.bodyNodes t.children)
          inner ∧
        forest = .type name inner others := by
  cases hDeclares with
  | other hOther _ _ => cases hKind.symm.trans hOther
  | unnamed _ hNone _ => exact absurd hNone hNamed
  | members hEnum _ _ =>
      rw [hEnum] at hKind
      exact absurd hKind contains_enumBodyKind
  | type _ hName hRead hInner _ =>
      exact ⟨_, _, _, _, hName, hRead, hInner, rfl⟩

/- The members of an enumeration come first in a forest. -/
theorem Declares.exists_append
    {t : SyntaxTree}
    {ts : List SyntaxTree}
    {forest : Forest}
    (hDeclares : Declares source (t :: ts) forest)
    (hKind : t.kind = enumBodyKind) :
    ∃ inner others,
      Declares source t.children inner ∧
        forest = inner.append others := by
  have hOther : declarationKinds.contains t.kind ≠ true := by
    rw [hKind]
    exact contains_enumBodyKind
  cases hDeclares with
  | other _ hBody _ => exact absurd hKind hBody
  | unnamed hType _ _ => exact absurd hType hOther
  | members _ hInner _ => exact ⟨_, _, hInner, rfl⟩
  | type hType _ _ _ _ => exact absurd hType hOther

/- What is declared directly has no depth in the forest. -/
theorem DeclaresType.mem_atDepth
    {name : String}
    {ts : List SyntaxTree}
    {forest : Forest}
    (hType : DeclaresType source name ts)
    (hDeclares : Declares source ts forest)
    (holder : String) :
    (name, Name.inside holder name) ∈
      forest.atDepth holder 0 := by
  induction hType generalizing forest with
  | here hKind hName hRead =>
      rcases hDeclares.exists_type hKind (by simp [hName]) with
        ⟨node, read, inner, others, hName', hRead', _, rfl⟩
      cases hName.symm.trans hName'
      cases hRead.symm.trans hRead'
      rw [Forest.atDepth]
      exact List.mem_cons_self
  | members hKind _ ih =>
      rcases hDeclares.exists_append hKind with
        ⟨inner, others, hInner, rfl⟩
      rw [Forest.atDepth_append]
      exact List.mem_append_left _ (ih hInner)
  | later _ ih =>
      cases hDeclares with
      | other _ _ hRest => exact ih hRest
      | unnamed _ _ hRest => exact ih hRest
      | members _ _ hRest =>
          rw [Forest.atDepth_append]
          exact List.mem_append_right _ (ih hRest)
      | type _ _ _ _ hRest =>
          rw [Forest.atDepth]
          exact List.mem_cons_of_mem _ (ih hRest)

end Outline

end DeclaredApi

------------------------------------------------------------
-- Declarations of Classes
------------------------------------------------------------

namespace DeclaredApi

namespace SourceFile

/-
  A class is built from a declaration among some nodes or in
  one of them, with what surrounds the declaration there and
  the type parameters in its scope.
-/
inductive Builds
    (f : SourceFile)
    (around : Outer)
    (t : SyntaxTree)
    (c : ClassDecl)
    (scope : List String) :
    Outer → List SyntaxTree → Prop
| here
    {ts : List SyntaxTree}
    (hKind : Outline.declarationKinds.contains t.kind = true)
    (hClass : f.classOf around t = .ok (c, scope)) :
    Builds f around t c scope around (t :: ts)
| members
    {outer : Outer}
    {u : SyntaxTree}
    {ts : List SyntaxTree}
    (hKind : u.kind = Outline.enumBodyKind)
    (hInside :
      Builds f around t c scope { outer with implicit := [] }
        u.children) :
    Builds f around t c scope outer (u :: ts)
| body
    {outer : Outer}
    {u : SyntaxTree}
    {ts : List SyntaxTree}
    {d : ClassDecl}
    {inScope : List String}
    (hKind : Outline.declarationKinds.contains u.kind = true)
    (hClass : f.classOf outer u = .ok (d, inScope))
    (hInside :
      Builds f around t c scope (insideOf d inScope)
        (SyntaxTree.bodyNodes u.children)) :
    Builds f around t c scope outer (u :: ts)
| later
    {outer : Outer}
    {u : SyntaxTree}
    {ts : List SyntaxTree}
    (hRest : Builds f around t c scope outer ts) :
    Builds f around t c scope outer (u :: ts)

variable {f : SourceFile}

theorem Builds.classOf_eq
    {around outer : Outer}
    {t : SyntaxTree}
    {c : ClassDecl}
    {scope : List String}
    {ts : List SyntaxTree}
    (hBuilds : f.Builds around t c scope outer ts) :
    f.classOf around t = .ok (c, scope) := by
  induction hBuilds with
  | here _ hClass => exact hClass
  | members _ _ ih => exact ih
  | body _ _ _ ih => exact ih
  | later _ ih => exact ih

/- What a class is built from has a name. -/
theorem childAt?_ne_none_of_classOf
    {outer : Outer}
    {t : SyntaxTree}
    {c : ClassDecl}
    {scope : List String}
    (hOk : f.classOf outer t = .ok (c, scope)) :
    t.childAt? "name" ≠ none := by
  intro hNone
  rcases (classOrigin_of_classOf hOk).name with
    ⟨name, hRead, _⟩
  have hNode : SyntaxTree.atField? "name" t.children = none :=
    hNone
  rw [readAt, hNode] at hRead
  cases hRead

/- Every class of some nodes is built from a declaration. -/
theorem exists_builds_of_mem_classesIn
    {ts : List SyntaxTree}
    {forest : Outline.Forest}
    {outer : Outer}
    {classes : List ClassDecl}
    {c : ClassDecl}
    (hDeclares : Outline.Declares f.source ts forest)
    (hOk : f.classesIn outer ts = .ok classes)
    (hMem : c ∈ classes) :
    ∃ around t scope, f.Builds around t c scope outer ts := by
  induction hDeclares generalizing outer classes with
  | nil =>
      cases hOk
      exact absurd hMem List.not_mem_nil
  | other hKind hBody _ ih =>
      rcases classesIn_cons_ok hOk with
        ⟨first, others, hFirst, hOthers, rfl⟩
      rw [classesOf_other outer hKind hBody] at hFirst
      cases hFirst
      rcases ih hOthers hMem with ⟨around, t, scope, hRest⟩
      exact ⟨around, t, scope, .later hRest⟩
  | unnamed hKind hName _ ih =>
      rcases classesIn_cons_ok hOk with
        ⟨first, others, hFirst, hOthers, rfl⟩
      rw [classesOf_unnamed outer hKind hName] at hFirst
      cases hFirst
      rcases ih hOthers hMem with ⟨around, t, scope, hRest⟩
      exact ⟨around, t, scope, .later hRest⟩
  | members hKind _ _ ihInner ihOthers =>
      rcases classesIn_cons_ok hOk with
        ⟨first, others, hFirst, hOthers, rfl⟩
      rw [classesOf_members outer hKind] at hFirst
      rcases List.mem_append.mp hMem with hHere | hLater
      · rcases ihInner hFirst hHere with
          ⟨around, t, scope, hInside⟩
        exact ⟨around, t, scope, .members hKind hInside⟩
      · rcases ihOthers hOthers hLater with
          ⟨around, t, scope, hRest⟩
        exact ⟨around, t, scope, .later hRest⟩
  | @type u _ _ _ _ _ hKind hName hRead _ _ ihInner ihOthers =>
      rcases classesIn_cons_ok hOk with
        ⟨first, others, hFirst, hOthers, rfl⟩
      rcases classesOf_type_ok hKind hName hRead hFirst with
        ⟨d, inScope, nested, hClass, _, hNested, rfl⟩
      rcases List.mem_append.mp hMem with hHere | hLater
      · rcases List.mem_cons.mp hHere with rfl | hInside
        · exact ⟨outer, u, inScope, .here hKind hClass⟩
        · rcases ihInner hNested hInside with
            ⟨around, t, scope, hInside⟩
          exact ⟨around, t, scope, .body hKind hClass hInside⟩
      · rcases ihOthers hOthers hLater with
          ⟨around, t, scope, hRest⟩
        exact ⟨around, t, scope, .later hRest⟩

/-
  Nodes whose classes have the names that their forest has in
  a holder: none of the names is empty.
-/
structure NamesInside
    (f : SourceFile)
    (outer : Outer)
    (holder : String)
    (ts : List SyntaxTree) : Prop where
  qualifiedName_eq :
    ∀ name, f.qualifiedName outer name = Name.inside holder name
  hasNames : ∀ t ∈ ts, Outline.HasNames f.source t

theorem NamesInside.tail
    {outer : Outer}
    {holder : String}
    {t : SyntaxTree}
    {ts : List SyntaxTree}
    (hNames : f.NamesInside outer holder (t :: ts)) :
    f.NamesInside outer holder ts where
  qualifiedName_eq := hNames.qualifiedName_eq
  hasNames := fun u hu =>
    hNames.hasNames u (List.mem_cons_of_mem t hu)

theorem NamesInside.members
    {outer : Outer}
    {holder : String}
    {t : SyntaxTree}
    {ts : List SyntaxTree}
    (hNames : f.NamesInside outer holder (t :: ts)) :
    f.NamesInside { outer with implicit := [] } holder
      t.children where
  qualifiedName_eq := hNames.qualifiedName_eq
  hasNames := fun _ hu =>
    (hNames.hasNames t List.mem_cons_self).child hu

/- In a class that has a name, names go on inside it. -/
theorem NamesInside.body
    {outer : Outer}
    {holder name : String}
    {t node : SyntaxTree}
    {ts : List SyntaxTree}
    {c : ClassDecl}
    {scope : List String}
    (hNames : f.NamesInside outer holder (t :: ts))
    (hKind : Outline.declarationKinds.contains t.kind = true)
    (hName : t.childAt? "name" = some node)
    (hRead : f.source.read node = .ok name)
    (hClass : f.classOf outer t = .ok (c, scope)) :
    c.name = Name.inside holder name ∧
      f.NamesInside (insideOf c scope)
        (Name.inside holder name)
        (SyntaxTree.bodyNodes t.children) := by
  have hHere := hNames.hasNames t List.mem_cons_self
  have hClassName : c.name = Name.inside holder name := by
    rcases (classOrigin_of_classOf hClass).name with
      ⟨read, hReadAt, hSame⟩
    have hNode :
        SyntaxTree.atField? "name" t.children = some node :=
      hName
    rw [readAt, hNode] at hReadAt
    cases hRead.symm.trans hReadAt
    rw [hSame, hNames.qualifiedName_eq]
  have hNonempty : c.name ≠ "" := by
    rw [hClassName]
    exact Name.inside_ne_empty holder
      (hHere.ne_empty hKind hName hRead)
  refine ⟨hClassName, ?_, fun _ hu => hHere.body hu⟩
  rw [← hClassName]
  exact qualifiedName_insideOf hNonempty scope

/-
  The types in the body of a class are among some types, with
  their qualified names under a condition.
-/
def BodyTypesAmong
    (f : SourceFile)
    (t : SyntaxTree)
    (c : ClassDecl)
    (entries : List (String × String))
    (condition : Prop) : Prop :=
  ∃ inner,
    Outline.Declares f.source
        (SyntaxTree.bodyNodes t.children) inner ∧
      (inner.depthFirst c.name).map Prod.fst ⊆
        entries.map Prod.fst ∧
      (condition → inner.depthFirst c.name ⊆ entries)

theorem BodyTypesAmong.mono
    {t : SyntaxTree}
    {c : ClassDecl}
    {entries more : List (String × String)}
    {condition stronger : Prop}
    (hAmong : f.BodyTypesAmong t c entries condition)
    (hMore : entries ⊆ more)
    (hStronger : stronger → condition) :
    f.BodyTypesAmong t c more stronger := by
  rcases hAmong with ⟨inner, hDeclares, hShort, hQualified⟩
  exact ⟨inner, hDeclares,
    List.Subset.trans hShort (List.map_subset Prod.fst hMore),
    fun h =>
      List.Subset.trans (hQualified (hStronger h)) hMore⟩

/-
  The types in the body of a class are among those of the
  nodes it is built from, with the same qualified names if no
  name is empty.
-/
theorem Builds.bodyTypesAmong
    {around outer : Outer}
    {t : SyntaxTree}
    {c : ClassDecl}
    {scope : List String}
    {ts : List SyntaxTree}
    {forest : Outline.Forest}
    (hBuilds : f.Builds around t c scope outer ts)
    (hDeclares : Outline.Declares f.source ts forest)
    (holder : String) :
    f.BodyTypesAmong t c (forest.depthFirst holder)
      (f.NamesInside outer holder ts) := by
  induction hBuilds generalizing forest holder with
  | here hKind hClass =>
      rcases hDeclares.exists_type hKind
          (childAt?_ne_none_of_classOf hClass) with
        ⟨node, name, inner, others, hName, hRead, hInner, rfl⟩
      have hInside :=
        Outline.Forest.inner_subset_depthFirst holder name inner
          others
      refine ⟨inner, hInner, ?_, ?_⟩
      · rw [inner.map_fst_depthFirst c.name
          (Name.inside holder name)]
        exact List.map_subset Prod.fst hInside
      · intro hNames
        rw [(hNames.body hKind hName hRead hClass).1]
        exact hInside
  | members hKind _ ih =>
      rcases hDeclares.exists_append hKind with
        ⟨inner, others, hInner, rfl⟩
      rw [Outline.Forest.depthFirst_append]
      exact (ih hInner holder).mono
        (List.subset_append_left _ _) NamesInside.members
  | body hKind hClass _ ih =>
      rcases hDeclares.exists_type hKind
          (childAt?_ne_none_of_classOf hClass) with
        ⟨node, name, inner, others, hName, hRead, hInner, rfl⟩
      exact (ih hInner (Name.inside holder name)).mono
        (Outline.Forest.inner_subset_depthFirst holder name
          inner others)
        (fun hNames =>
          (hNames.body hKind hName hRead hClass).2)
  | later _ ih =>
      cases hDeclares with
      | other _ _ hRest =>
          exact (ih hRest holder).mono (List.Subset.refl _)
            NamesInside.tail
      | unnamed _ _ hRest =>
          exact (ih hRest holder).mono (List.Subset.refl _)
            NamesInside.tail
      | members _ _ hRest =>
          rw [Outline.Forest.depthFirst_append]
          exact (ih hRest holder).mono
            (List.subset_append_right _ _) NamesInside.tail
      | type _ _ _ _ hRest =>
          exact (ih hRest holder).mono
            (Outline.Forest.others_subset_depthFirst holder _ _
              _) NamesInside.tail

end SourceFile

end DeclaredApi

------------------------------------------------------------
-- Names That Stand for Types
------------------------------------------------------------

namespace DeclaredApi

namespace SourceFile

/- The file where a simple name stands for a given type. -/
def naming
    (f : SourceFile)
    (name qualified : String) : SourceFile :=
  f.withNames f.table
    { f.context with
      localTypes := (name, qualified) :: f.context.localTypes }

variable {f : SourceFile}
variable {name qualified : String}

/- A local name is found before all others. -/
theorem qualify_of_local
    (hLocal :
      f.context.localTypes.lookup name = some qualified) :
    f.qualify name = qualified := by
  unfold qualify lookup SymbolTable.resolve
  simp only [hLocal]

/- To name what is named already changes no lookup. -/
theorem looksUpAlike_naming
    (hLocal :
      f.context.localTypes.lookup name = some qualified) :
    f.LooksUpAlike f.table
      { f.context with
        localTypes :=
          (name, qualified) :: f.context.localTypes } where
  package := rfl
  lookup := by
    intro other
    have hLookup :
        ((name, qualified) :: f.context.localTypes).lookup
            other =
          f.context.localTypes.lookup other := by
      rw [List.lookup_cons]
      by_cases hName : other = name
      · rw [hName, beq_self_eq_true, hLocal]
      · rw [beq_eq_false_iff_ne.mpr hName]
    unfold SourceFile.lookup SymbolTable.resolve
    simp only [withNames, hLookup]
    rfl

/- So a class is built as where the name is given. -/
theorem classOf_naming
    (outer : Outer)
    (t : SyntaxTree)
    (hLocal :
      f.context.localTypes.lookup name = some qualified) :
    (f.naming name qualified).classOf outer t =
      f.classOf outer t := by
  rw [naming, (looksUpAlike_naming hLocal).classOf]

/- A node that writes a simple name is the type it names. -/
theorem typeOf_of_local
    {t : SyntaxTree}
    {scope : List String}
    (hKind : t.kind = "type_identifier")
    (hRead : f.read t = .ok name)
    (hScope : name ∉ scope)
    (hLocal :
      f.context.localTypes.lookup name = some qualified) :
    f.typeOf scope t = .ok (.ofName qualified) := by
  have hContains : ¬ scope.contains name = true := by
    simpa using hScope
  rw [typeOf_identifier hKind, hRead]
  change Except.ok (f.nameType scope name) = _
  rw [nameType, if_neg hContains, qualify_of_local hLocal]

/- And so it is in front of type arguments. -/
theorem rawName_of_local
    {t : SyntaxTree}
    {nodes : List SyntaxTree}
    (hFirst :
      SyntaxTree.ofKind?
          ["type_identifier", "scoped_type_identifier"] nodes =
        some t)
    (hKind : t.kind = "type_identifier")
    (hRead : f.read t = .ok name)
    (hLocal :
      f.context.localTypes.lookup name = some qualified) :
    f.rawName nodes = .ok qualified := by
  unfold rawName
  rw [hFirst]
  simp only [hKind, if_true, hRead, bind, Except.bind, pure,
    Except.pure, qualify_of_local hLocal]

/-
  In a class a simple name stands for a type: the class is
  built as where the name is that of the type, each node that
  writes the name is the type, with or without arguments, and
  the types of the members are those that are written.
-/
structure StandsFor
    (f : SourceFile)
    (around : Outer)
    (t : SyntaxTree)
    (c : ClassDecl)
    (scope : List String)
    (name qualified : String) : Prop where
  classOf_eq :
    (f.naming name qualified).classOf around t = .ok (c, scope)
  qualify_eq : f.qualify name = qualified
  typeOf_eq :
    ∀ inScope node,
      node.kind = "type_identifier" →
        f.read node = .ok name →
          name ∉ inScope →
            f.typeOf inScope node = .ok (.ofName qualified)
  rawName_eq :
    ∀ nodes node,
      SyntaxTree.ofKind?
          ["type_identifier", "scoped_type_identifier"] nodes =
          some node →
        node.kind = "type_identifier" →
          f.read node = .ok name →
            f.rawName nodes = .ok qualified
  plain :
    ∀ inScope node,
      f.ClassType scope t node inScope →
        node.kind = "type_identifier" →
          f.read node = .ok name →
            name ∉ inScope →
              ∃ dimensions,
                c.DeclaresForMember
                  ((DeclaredType.ofName qualified).addDimensions
                    dimensions)
  written :
    ∀ inScope node e,
      f.ClassType scope t node inScope →
        f.Writes e node →
          ∃ dimensions,
            c.DeclaresForMember
              ((e.declared f inScope).addDimensions dimensions)

theorem standsFor_of_local
    {around : Outer}
    {t : SyntaxTree}
    {c : ClassDecl}
    {scope : List String}
    (hClass : f.classOf around t = .ok (c, scope))
    (hLocal :
      f.context.localTypes.lookup name = some qualified) :
    f.StandsFor around t c scope name qualified where
  classOf_eq := by rw [classOf_naming around t hLocal, hClass]
  qualify_eq := qualify_of_local hLocal
  typeOf_eq := fun _ _ hKind hRead hScope =>
    typeOf_of_local hKind hRead hScope hLocal
  rawName_eq := fun _ _ hFirst hKind hRead =>
    rawName_of_local hFirst hKind hRead hLocal
  plain := by
    intro inScope node hType hKind hRead hScope
    rcases readAs_of_classType hClass hType with
      ⟨type, dimensions, hTypeOf, hDeclares⟩
    rw [typeOf_of_local hKind hRead hScope hLocal] at hTypeOf
    cases hTypeOf
    exact ⟨dimensions, hDeclares⟩
  written := by
    intro inScope node e hType hWrites
    rcases readAs_of_classType hClass hType with
      ⟨type, dimensions, hTypeOf, hDeclares⟩
    rw [typeOf_of_writes hWrites] at hTypeOf
    cases hTypeOf
    exact ⟨dimensions, hDeclares⟩

end SourceFile

end DeclaredApi

------------------------------------------------------------
-- Names of Member Types
------------------------------------------------------------

namespace DeclaredApi

namespace SourceFile

/-
  In every class of a file the name of a member type stands
  for the first type of the name in the file, by depth and
  then by order.  This is the member type exactly if no other
  one comes first, so in particular if no other type of the
  file has the name.
-/
theorem member_name_is_first_by_depth
    {source : SourceText}
    {table : SymbolTable}
    {file : SyntaxTree}
    {classes : List ClassDecl}
    (hBuild : build source table file = .ok classes) :
    ∃ context forest,
      Outline.context source file = .ok context ∧
        Outline.Declares source file.children forest ∧
        (∀ c ∈ classes,
          ∃ around t scope,
            Builds ⟨source, table, context⟩ around t c scope {}
              file.children) ∧
        ∀ around t c scope name,
          Builds ⟨source, table, context⟩ around t c scope {}
              file.children →
            Outline.DeclaresType source name
                (SyntaxTree.bodyNodes t.children) →
              ∃ first,
                Outline.FirstByDepth context.package forest name
                    first ∧
                  StandsFor ⟨source, table, context⟩ around t c
                    scope name first ∧
                  (first = Name.inside c.name name ↔
                    Outline.FirstByDepth context.package forest
                      name (Name.inside c.name name)) ∧
                  ((∀ other,
                      (name, other) ∈
                          forest.depthFirst context.package →
                        other = Name.inside c.name name) →
                    first = Name.inside c.name name) ∧
                  (Outline.HasNames source file →
                    (name, Name.inside c.name name) ∈
                      forest.depthFirst context.package) := by
  rcases Result.bind_eq_ok_iff.mp hBuild with
    ⟨context, hContext, hClasses⟩
  rcases Outline.exists_declares_of_context hContext with
    ⟨forest, _, hDeclares, hLocal⟩
  let f : SourceFile := ⟨source, table, context⟩
  refine ⟨context, forest, hContext, hDeclares, ?_, ?_⟩
  · exact fun c hc =>
      exists_builds_of_mem_classesIn (f := f) hDeclares hClasses
        hc
  · intro around t c scope name hBuilds hType
    rcases hBuilds.bodyTypesAmong hDeclares context.package with
      ⟨inner, hInner, hShort, hQualified⟩
    have hMember :
        (name, Name.inside c.name name) ∈
          inner.depthFirst c.name :=
      Outline.Forest.mem_depthFirst_iff.mpr
        ⟨0, hType.mem_atDepth hInner c.name⟩
    rcases List.mem_map.mp
        (hShort (List.mem_map_of_mem hMember)) with
      ⟨⟨short, other⟩, hOther, rfl⟩
    rcases Outline.exists_firstByDepth hOther with
      ⟨first, hFirst, hMem⟩
    refine ⟨first, hFirst,
      standsFor_of_local hBuilds.classOf_eq
        ((hLocal _ _).mpr hFirst), ?_,
      fun hOnly => hOnly first hMem, ?_⟩
    · exact ⟨fun hSame => hSame ▸ hFirst,
        fun hSame => hFirst.unique hSame⟩
    · intro hNames
      exact hQualified ⟨fun _ => rfl,
        fun _ ht => hNames.child ht⟩ hMember

/- Two classes with member types of one name. -/
def twinSource : SourceText :=
  "class A{class N{}}class B{class N{}N f;}".toUTF8

/- The second class, which has a field of its member type. -/
def twinNode : SyntaxTree :=
  .node "class_declaration" 18 40 none true
    [.node "identifier" 24 25 (some "name") true [],
      .node "class_body" 25 40 (some "body") true
        [.node "class_declaration" 26 35 none true
          [.node "identifier" 32 33 (some "name") true [],
            .node "class_body" 33 35 (some "body") true []],
          .node "field_declaration" 35 39 none true
            [.node "type_identifier" 35 36 (some "type") true
                [],
              .node "variable_declarator" 37 38
                  (some "declarator") true
                [.node "identifier" 37 38 (some "name") true
                  []]]]]

/- The syntax tree of the text. -/
def twinTree : SyntaxTree :=
  .node "program" 0 40 none true
    [.node "class_declaration" 0 18 none true
      [.node "identifier" 6 7 (some "name") true [],
        .node "class_body" 7 18 (some "body") true
          [.node "class_declaration" 8 17 none true
            [.node "identifier" 14 15 (some "name") true [],
              .node "class_body" 15 17 (some "body") true []]]],
      twinNode]

/- In the second class, the name is that of the other type. -/
theorem member_name_is_first_by_depth_twins :
    ∃ context forest c scope,
      Outline.context twinSource twinTree = .ok context ∧
        Outline.Declares twinSource twinTree.children forest ∧
        Outline.FirstByDepth context.package forest "N" "A.N" ∧
        StandsFor ⟨twinSource, {}, context⟩ {} twinNode c scope
          "N" "A.N" := by
  have hBuild :
      build twinSource {} twinTree =
        .ok ((build twinSource {} twinTree).toOption.getD []) :=
    Result.eq_ok_of_isOk [] (by decide +kernel)
  rcases member_name_is_first_by_depth hBuild with
    ⟨context, forest, hContext, hDeclares, _, hEach⟩
  let f : SourceFile := ⟨twinSource, {}, context⟩
  have hQualify :
      (Outline.context twinSource twinTree).toOption.map
          (fun context =>
            qualify ⟨twinSource, {}, context⟩ "N") =
        some "A.N" := by
    decide +kernel
  have hIsOk :
      (Outline.context twinSource twinTree).toOption.map
          (fun context =>
            (classOf ⟨twinSource, {}, context⟩ {}
              twinNode).isOk) =
        some true := by
    decide +kernel
  rw [hContext] at hQualify hIsOk
  have hBuilt : ∃ built, f.classOf {} twinNode = .ok built :=
    ⟨_, Result.eq_ok_of_isOk default (Option.some.inj hIsOk)⟩
  rcases hBuilt with ⟨⟨c, scope⟩, hClass⟩
  rcases hEach {} twinNode c scope "N"
      (.later (.here rfl hClass))
      (.here rfl rfl (by decide +kernel)) with
    ⟨first, hFirst, hStands, _⟩
  have hName : first = "A.N" :=
    hStands.qualify_eq.symm.trans (Option.some.inj hQualify)
  rw [hName] at hFirst hStands
  exact ⟨context, forest, c, scope, hContext, hDeclares,
    hFirst, hStands⟩

/- So the field does not have the member type of its class. -/
theorem member_name_means_another_type :
    Outline.DeclaresType twinSource "N"
        (SyntaxTree.bodyNodes twinNode.children) ∧
      (build twinSource {} twinTree).toOption.map
          (List.map fun c =>
            (c.name, c.typeParameters.length,
              c.fields.map fun field =>
                (field.name, field.type.rawName?))) =
        some
          [("A", 0, []), ("A.N", 0, []),
            ("B", 0, [("f", some "A.N")]), ("B.N", 0, [])] :=
  ⟨.here rfl rfl (by decide +kernel), by decide +kernel⟩

end SourceFile

end DeclaredApi
