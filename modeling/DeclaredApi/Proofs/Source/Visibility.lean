import DeclaredApi.Proofs.Source.Scoping

/-
  Visibility in the classes of source files.

  While nested declarations are read, the names in scope are
  handed down.  The invariant is that each of them is seen
  from the declaration: it is a type parameter of the class,
  or is seen from the class around it if the class is inner.

  Main declarations:
    * `ClassDecl.Sees`
    * `ClassDecl.Sighted`
    * `SourceFile.classOf_ok`
    * `SourceFile.Surrounds`
    * `SourceFile.sighted_parts`
    * `SourceFile.sighted_of_build`
-/

------------------------------------------------------------
-- Seeing Variables
------------------------------------------------------------

namespace DeclaredApi

namespace ClassDecl

/-
  A variable is seen from a class: it is declared there, or
  the class is inner and the class around it sees it.
-/
inductive Sees
    (classes : List ClassDecl)
    (name : String) : ClassDecl → Prop
| own
    {c : ClassDecl}
    (hOwn : name ∈ c.typeParameters.map TypeParameter.name) :
    Sees classes name c
| outer
    {c outer : ClassDecl}
    (hInner : c.isInner = true)
    (hEnclosing : c.enclosing = some outer.name)
    (hMem : outer ∈ classes)
    (hSees : Sees classes name outer) :
    Sees classes name c

/-
  Each variable in a declared type of a class is a parameter
  of the member that declares it, or is seen from the class.
-/
def Sighted
    (classes : List ClassDecl)
    (c : ClassDecl) : Prop :=
  ∀ member type,
    c.Declares member type →
      ∀ v ∈ type.mentions,
        v ∈ MemberDecl.declaredNames member ∨
          Sees classes v c

end ClassDecl

end DeclaredApi

------------------------------------------------------------
-- Bodies
------------------------------------------------------------

namespace DeclaredApi

namespace SourceFile

open DeclaredType

variable {f : SourceFile}

/- What a body declares mentions variables in scope only. -/
structure Body.Within
    (scope : List String)
    (b : Body) : Prop where
  fields : ∀ field ∈ b.fields, field.type.Within scope
  members :
    ∀ m ∈ b.constructors ++ b.methods, MemberWithin scope m

/- An empty body declares nothing. -/
theorem Body.within_empty
    (scope : List String) :
    Body.Within scope {} where
  fields := fun _ hField => absurd hField List.not_mem_nil
  members := fun _ hMember => absurd hMember List.not_mem_nil

theorem Body.Within.append
    {scope : List String}
    {a b : Body}
    (hA : Body.Within scope a)
    (hB : Body.Within scope b) :
    Body.Within scope (a.append b) where
  fields := by
    intro field hField
    rcases List.mem_append.mp hField with hLeft | hRight
    · exact hA.fields field hLeft
    · exact hB.fields field hRight
  members := by
    intro m hm
    simp only [Body.append, List.mem_append] at hm
    rcases hm with (hA₁ | hB₁) | (hA₂ | hB₂)
    · exact hA.members m (List.mem_append_left _ hA₁)
    · exact hB.members m (List.mem_append_left _ hB₁)
    · exact hA.members m (List.mem_append_right _ hA₂)
    · exact hB.members m (List.mem_append_right _ hB₂)

/- A body is within the scope when each of its nodes is. -/
theorem within_bodyIn_of
    {b : BodyScope}
    {ts : List SyntaxTree}
    {body : Body}
    (hNodes :
      ∀ t ∈ ts, ∀ part,
        f.bodyOf b t = .ok part → Body.Within b.scope part)
    (hRead : f.bodyIn b ts = .ok body) :
    Body.Within b.scope body := by
  induction ts generalizing body with
  | nil =>
      cases hRead
      exact Body.within_empty b.scope
  | cons t ts ih =>
      rcases bodyIn_cons_ok hRead with
        ⟨first, others, hFirst, hOthers, rfl⟩
      apply Body.Within.append
      · exact hNodes t List.mem_cons_self first hFirst
      · apply ih _ hOthers
        exact fun u hu => hNodes u (List.mem_cons_of_mem t hu)

theorem within_bodyOf
    {b : BodyScope}
    {t : SyntaxTree}
    {body : Body}
    (hRead : f.bodyOf b t = .ok body) :
    Body.Within b.scope body := by
  induction t generalizing b body with
  | node kind start stop field isNamed children ih =>
      unfold bodyOf at hRead
      split at hRead
      · rcases Result.bind_eq_ok_iff.mp hRead with
          ⟨constant, hConstant, hPure⟩
        rcases Result.bind_eq_ok_iff.mp hConstant with
          ⟨name, hName, hField⟩
        cases hField
        cases hPure
        constructor
        · intro field hField
          rw [List.mem_singleton.mp hField]
          exact within_ofName b.scope b.className
        · exact fun _ hMember => absurd hMember List.not_mem_nil
      · split at hRead
        · exact within_bodyIn_of (b := ⟨b.className, b.scope, false⟩)
            (fun c hc part hPart => ih c hc hPart) hRead
        · split at hRead
          · rcases Result.bind_eq_ok_iff.mp hRead with
              ⟨fields, hFields, hPure⟩
            cases hPure
            constructor
            · exact within_fieldsOf hFields
            · exact fun _ hMember =>
                absurd hMember List.not_mem_nil
          · split at hRead
            · rcases Result.bind_eq_ok_iff.mp hRead with
                ⟨member, hMember, hPure⟩
              cases hPure
              constructor
              · exact fun _ hField =>
                  absurd hField List.not_mem_nil
              · intro m hm
                rw [List.nil_append] at hm
                rw [List.mem_singleton.mp hm]
                exact within_memberOf hMember
            · split at hRead
              · rcases Result.bind_eq_ok_iff.mp hRead with
                  ⟨member, hMember, hPure⟩
                cases hPure
                constructor
                · exact fun _ hField =>
                    absurd hField List.not_mem_nil
                · intro m hm
                  rw [List.append_nil] at hm
                  rw [List.mem_singleton.mp hm]
                  exact within_memberOf hMember
              · cases hRead
                exact Body.within_empty b.scope

theorem within_membersOf
    {b : BodyScope}
    {t : SyntaxTree}
    {body : Body}
    (hRead : f.membersOf b t = .ok body) :
    Body.Within b.scope body := by
  unfold membersOf at hRead
  split at hRead
  · cases hRead
    exact Body.within_empty b.scope
  · exact within_bodyIn_of
      (fun _ _ _ hPart => within_bodyOf hPart) hRead

end SourceFile

end DeclaredApi

------------------------------------------------------------
-- Headers
------------------------------------------------------------

namespace DeclaredApi

namespace SourceFile

open DeclaredType

variable {f : SourceFile} {scope : List String}

theorem within_superclassOf
    {t : SyntaxTree}
    {superclass : Option DeclaredType}
    {type : DeclaredType}
    (hRead : f.superclassOf scope t = .ok superclass)
    (hSome : superclass = some type) :
    Within scope type := by
  unfold superclassOf at hRead
  split at hRead
  · cases hRead
    cases hSome
  · split at hRead
    · cases hRead
    · rcases Result.bind_eq_ok_iff.mp hRead with
        ⟨first, hFirst, hPure⟩
      cases hPure
      cases hSome
      exact within_typeOf hFirst

theorem within_interfacesOf
    {t : SyntaxTree}
    {interfaces : List DeclaredType}
    (hRead : f.interfacesOf scope t = .ok interfaces) :
    ∀ type ∈ interfaces, Within scope type := by
  unfold interfacesOf at hRead
  split at hRead
  · cases hRead
    exact fun type hType => absurd hType List.not_mem_nil
  · intro type hType
    rcases Result.exists_of_mem_mapM hRead hType with
      ⟨u, _, hU⟩
    exact within_typeOf hU

/- Only the header of a record declares fields. -/
theorem within_headerFields
    {kind : ClassKind}
    {t : SyntaxTree}
    {fields : List FieldDecl}
    (hRead : f.headerFields scope kind t = .ok fields) :
    ∀ field ∈ fields, Within scope field.type := by
  unfold headerFields at hRead
  split at hRead
  · exact within_recordFields hRead
  · cases hRead
    exact fun field hField => absurd hField List.not_mem_nil

/- Implied modifiers are added to the declared ones. -/
theorem contains_mergeModifiers
    {modifier : String}
    (modifiers : List String)
    (hPublic : modifier ≠ "public") :
    (Outline.mergeModifiers modifiers [modifier]).contains
      modifier = true := by
  simp only [Outline.mergeModifiers, List.foldl_cons,
    List.foldl_nil]
  split
  · next hBoth => simp [hPublic] at hBoth
  · split
    · next hContains => exact hContains
    · simp

/- A nested class that is not static is a plain class. -/
theorem kind_of_not_static
    {outer : Outer}
    {kind : ClassKind}
    {t : SyntaxTree}
    (hNested : outer.enclosing.isSome = true)
    (hStatic :
      (classModifiers outer kind t).contains "static" = false) :
    kind = .plain := by
  apply Decidable.byContradiction
  intro hKind
  unfold classModifiers at hStatic
  rw [if_pos (by simp [hNested, hKind])] at hStatic
  rw [contains_mergeModifiers _ (by decide)] at hStatic
  cases hStatic

end SourceFile

end DeclaredApi

------------------------------------------------------------
-- Classes
------------------------------------------------------------

namespace DeclaredApi

namespace SourceFile

variable {f : SourceFile}

/- What is known of a class that was read. -/
structure ClassRead
    (outer : Outer)
    (c : ClassDecl)
    (scope : List String) : Prop where
  enclosing_eq : c.enclosing = outer.enclosing
  scope_eq :
    scope =
      if c.isInner then
        c.typeParameters.map TypeParameter.name ++ outer.scope
      else
        c.typeParameters.map TypeParameter.name
  within :
    ∀ member type,
      c.Declares member type →
        type.Within (MemberDecl.declaredNames member ++ scope)

/-
  The names in scope go on from outside exactly where the
  class is inner, since a nested class that is not static
  is plain.
-/
theorem classScope_eq
    {outer : Outer}
    {kind : ClassKind}
    {t : SyntaxTree}
    {c : ClassDecl}
    (own : List String)
    (hEnclosing : c.enclosing = outer.enclosing)
    (hKind : c.kind = kind)
    (hModifiers : c.modifiers = classModifiers outer kind t) :
    classScope outer (classModifiers outer kind t) own =
      if c.isInner then own ++ outer.scope else own := by
  unfold classScope ClassDecl.isInner ClassDecl.isStatic
  rw [hEnclosing, hKind, hModifiers]
  cases hNested : outer.enclosing.isSome with
  | false => simp
  | true =>
      cases hStatic :
          (classModifiers outer kind t).contains "static" with
      | true => simp
      | false => simp [kind_of_not_static hNested hStatic]

theorem classOf_ok
    {outer : Outer}
    {t : SyntaxTree}
    {c : ClassDecl}
    {scope : List String}
    (hRead : f.classOf outer t = .ok (c, scope)) :
    ClassRead outer c scope := by
  have hOrigin := classOrigin_of_classOf hRead
  rcases hOrigin.own with ⟨own, hOwn, hScope⟩
  rcases hOrigin.members with
    ⟨components, body, hComponents, hBody, hFields,
      hConstructors, hMethods⟩
  have hNames :=
    map_name_typeParameters hOrigin.typeParameters_eq
  rw [hOwn] at hNames
  injection hNames with hNames
  have hBodyWithin := within_membersOf hBody
  constructor
  · exact hOrigin.enclosing_eq
  · rw [← hNames, hScope, hOrigin.modifiers_eq]
    exact classScope_eq own hOrigin.enclosing_eq rfl
      hOrigin.modifiers_eq
  · intro member type hDeclares
    cases hDeclares with
    | superclass hSome =>
        exact within_superclassOf hOrigin.superclass_eq hSome
    | interface hInterface =>
        exact within_interfacesOf hOrigin.interfaces_eq type
          hInterface
    | bound hParameter hBound =>
        exact within_typeParameters hOrigin.typeParameters_eq
          hParameter hBound
    | field hField =>
        rw [hFields] at hField
        rcases List.mem_append.mp hField with hHeader | hPlain
        · exact within_headerFields hComponents _ hHeader
        · exact hBodyWithin.fields _ hPlain
    | member hMember hDeclares =>
        rw [hConstructors, hMethods] at hMember
        exact hBodyWithin.members _ hMember type hDeclares

end SourceFile

end DeclaredApi

------------------------------------------------------------
-- Nested Declarations
------------------------------------------------------------

namespace DeclaredApi

namespace SourceFile

open ClassDecl

variable {f : SourceFile} {classes : List ClassDecl}

/-
  The class around a declaration is one of the classes, and
  sees every name that is in scope there.
-/
def Surrounds
    (classes : List ClassDecl)
    (outer : Outer) : Prop :=
  ∀ name,
    outer.enclosing = some name →
      ∃ c ∈ classes,
        c.name = name ∧ ∀ v ∈ outer.scope, Sees classes v c

/- Classes that are read below a node see their variables. -/
def Sighted
    (classes : List ClassDecl)
    (read : Outer → Except SourceError (List ClassDecl)) :
    Prop :=
  ∀ outer found,
    read outer = .ok found →
      (∀ c ∈ found, c ∈ classes) →
        Surrounds classes outer →
          ∀ c ∈ found, c.Sighted classes

/- The names in scope in a class are seen from it. -/
theorem sees_of_mem_scope
    {outer : Outer}
    {c : ClassDecl}
    {scope : List String}
    {v : String}
    (hRead : ClassRead outer c scope)
    (hSurrounds : Surrounds classes outer)
    (hMem : v ∈ scope) :
    Sees classes v c := by
  rw [hRead.scope_eq] at hMem
  cases hInner : c.isInner with
  | false =>
      rw [hInner, if_neg (by decide)] at hMem
      exact Sees.own hMem
  | true =>
      rw [hInner, if_pos rfl] at hMem
      rcases List.mem_append.mp hMem with hOwn | hOuter
      · exact Sees.own hOwn
      · cases hEnclosing : c.enclosing with
        | none => simp [isInner, hEnclosing] at hInner
        | some name =>
            rcases hSurrounds name
                (hRead.enclosing_eq ▸ hEnclosing) with
              ⟨around, hAround, rfl, hSees⟩
            exact Sees.outer hInner hEnclosing hAround
              (hSees v hOuter)

/- A class that is read sees the variables of its types. -/
theorem ClassRead.sighted
    {outer : Outer}
    {c : ClassDecl}
    {scope : List String}
    (hRead : ClassRead outer c scope)
    (hSurrounds : Surrounds classes outer) :
    c.Sighted classes := by
  intro member type hDeclares v hv
  rcases List.mem_append.mp
      (hRead.within member type hDeclares v hv) with
    hMember | hScope
  · exact Or.inl hMember
  · exact Or.inr (sees_of_mem_scope hRead hSurrounds hScope)

/- A class surrounds what its body declares. -/
theorem ClassRead.surrounds
    {outer : Outer}
    {c : ClassDecl}
    {scope : List String}
    (hRead : ClassRead outer c scope)
    (hSurrounds : Surrounds classes outer)
    (hMem : c ∈ classes) :
    Surrounds classes (insideOf c scope) := by
  intro name hName
  injection hName with hName
  refine ⟨c, hMem, hName, ?_⟩
  intro v hv
  exact sees_of_mem_scope hRead hSurrounds hv

theorem sighted_classesIn
    {ts : List SyntaxTree}
    (hNodes :
      ∀ t ∈ ts,
        Sighted classes (fun outer => f.classesOf outer t)) :
    Sighted classes (fun outer => f.classesIn outer ts) := by
  intro outer found hRead hSubset hSurrounds
  induction ts generalizing found with
  | nil =>
      cases hRead
      exact fun c hc => absurd hc List.not_mem_nil
  | cons t ts ih =>
      simp only [classesIn] at hRead
      rcases Result.bind_eq_ok_iff.mp hRead with
        ⟨first, hFirst, hRead⟩
      rcases Result.bind_eq_ok_iff.mp hRead with
        ⟨others, hOthers, hPure⟩
      cases hPure
      intro c hc
      rcases List.mem_append.mp hc with hHead | hTail
      · exact hNodes t List.mem_cons_self outer first hFirst
          (fun d hd => hSubset d (List.mem_append_left _ hd))
          hSurrounds c hHead
      · exact ih
          (fun u hu => hNodes u (List.mem_cons_of_mem t hu))
          others hOthers
          (fun d hd => hSubset d (List.mem_append_right _ hd))
          c hTail

/- The body of a class is one of the parts of its node. -/
theorem sighted_classesInBody
    {ts : List SyntaxTree}
    (hBodies :
      ∀ t ∈ ts,
        Sighted classes
          (fun outer => f.classesIn outer t.children)) :
    Sighted classes
      (fun outer => f.classesInBody outer ts) := by
  intro outer found hRead hSubset hSurrounds
  induction ts with
  | nil =>
      cases hRead
      exact fun c hc => absurd hc List.not_mem_nil
  | cons t ts ih =>
      have hBody := hBodies t List.mem_cons_self
      rcases t with ⟨kind, start, stop, field, isNamed, children⟩
      simp only [classesInBody] at hRead
      split at hRead
      · exact hBody outer found hRead hSubset hSurrounds
      · apply ih _ hRead
        exact fun u hu => hBodies u (List.mem_cons_of_mem _ hu)

/-
  The induction over a node also carries what its children
  declare, since a body is read from the declaration around.
-/
theorem sighted_parts
    (t : SyntaxTree) :
    Sighted classes (fun outer => f.classesOf outer t) ∧
      Sighted classes
        (fun outer => f.classesIn outer t.children) := by
  induction t with
  | node kind start stop field isNamed children ih =>
      have hChildren :
          Sighted classes
            (fun outer => f.classesIn outer children) :=
        sighted_classesIn (fun c hc => (ih c hc).1)
      refine ⟨?_, hChildren⟩
      intro outer found hRead hSubset hSurrounds
      simp only [classesOf] at hRead
      split at hRead
      · split at hRead
        · cases hRead
          exact fun c hc => absurd hc List.not_mem_nil
        · rcases Result.bind_eq_ok_iff.mp hRead with
            ⟨⟨d, scope⟩, hClass, hRead⟩
          rcases Result.bind_eq_ok_iff.mp hRead with
            ⟨inner, hInner, hPure⟩
          cases hPure
          have hClassRead := classOf_ok hClass
          intro c hc
          rcases List.mem_cons.mp hc with rfl | hNested
          · exact hClassRead.sighted hSurrounds
          · apply sighted_classesInBody
              (fun u hu => (ih u hu).2) _ inner hInner
            · exact fun e he =>
                hSubset e (List.mem_cons_of_mem d he)
            · exact hClassRead.surrounds hSurrounds
                (hSubset d List.mem_cons_self)
            · exact hNested
      · split at hRead
        · exact hChildren { outer with implicit := [] } found
            hRead hSubset hSurrounds
        · cases hRead
          exact fun c hc => absurd hc List.not_mem_nil

/- The classes of a file see the variables of their types. -/
theorem sighted_of_build
    {source : SourceText}
    {table : SymbolTable}
    {file : SyntaxTree}
    {found : List ClassDecl}
    (hBuild : build source table file = .ok found)
    (hSubset : ∀ c ∈ found, c ∈ classes) :
    ∀ c ∈ found, c.Sighted classes := by
  rcases Result.bind_eq_ok_iff.mp hBuild with
    ⟨context, hContext, hRead⟩
  apply sighted_classesIn
    (fun t _ => (sighted_parts t).1) {} found hRead hSubset
  intro name hName
  cases hName

end SourceFile

end DeclaredApi
