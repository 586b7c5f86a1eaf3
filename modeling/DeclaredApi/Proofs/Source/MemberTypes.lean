import DeclaredApi.Proofs.Declaration.Variables
import DeclaredApi.Proofs.Source.Forest
import DeclaredApi.Proofs.Source.Origins
import DeclaredApi.Proofs.Source.Reading

/-
  Types of the members of a class.

  The members of a class declare types in their nodes: a type
  of fields, of results, of parameters, or the bound of a type
  parameter.  Each such node has its place in the class that
  is built: what the node is read as, with the dimensions
  that stand after a name, is a type of a member.

  Main declarations:
    * `MembersDeclare`
    * `SourceFile.MemberType`
    * `SourceFile.ClassType`
    * `SourceFile.readAs_of_memberType`
    * `SourceFile.readAs_of_classType`
-/

------------------------------------------------------------
-- Types of Declared Members
------------------------------------------------------------

namespace DeclaredApi

/- One of some fields, methods or constructors has a type. -/
inductive MembersDeclare
    (fields : List FieldDecl)
    (members : List MemberDecl) : DeclaredType → Prop
| field
    {field : FieldDecl}
    (hField : field ∈ fields) :
    MembersDeclare fields members field.type
| member
    {m : MemberDecl}
    {t : DeclaredType}
    (hMember : m ∈ members)
    (hDeclares : m.Declares t) :
    MembersDeclare fields members t

/- A class has a type for one of its members. -/
def ClassDecl.DeclaresForMember
    (c : ClassDecl)
    (t : DeclaredType) : Prop :=
  MembersDeclare c.fields (c.constructors ++ c.methods) t

/- A body has a type for one of its members. -/
def SourceFile.Body.Declares
    (b : Body)
    (t : DeclaredType) : Prop :=
  MembersDeclare b.fields (b.constructors ++ b.methods) t

theorem MembersDeclare.mono
    {fields more : List FieldDecl}
    {members others : List MemberDecl}
    {t : DeclaredType}
    (hDeclare : MembersDeclare fields members t)
    (hFields : fields ⊆ more)
    (hMembers : members ⊆ others) :
    MembersDeclare more others t := by
  cases hDeclare with
  | field hField => exact .field (hFields hField)
  | member hMember hDeclares =>
      exact .member (hMembers hMember) hDeclares

namespace SourceFile

theorem Body.Declares.append_left
    {a : Body}
    {t : DeclaredType}
    (b : Body)
    (hDeclares : a.Declares t) :
    (a.append b).Declares t := by
  apply MembersDeclare.mono hDeclares
  · exact List.subset_append_left _ _
  · intro m hm
    simp only [append, List.mem_append] at hm ⊢
    tauto

theorem Body.Declares.append_right
    {b : Body}
    {t : DeclaredType}
    (a : Body)
    (hDeclares : b.Declares t) :
    (a.append b).Declares t := by
  apply MembersDeclare.mono hDeclares
  · exact List.subset_append_right _ _
  · intro m hm
    simp only [append, List.mem_append] at hm ⊢
    tauto

end SourceFile

end DeclaredApi

------------------------------------------------------------
-- Type Nodes
------------------------------------------------------------

namespace DeclaredApi

namespace SourceFile

open SyntaxTree

/- A formal parameter has a node as its type. -/
inductive ParameterType
    (p node : SyntaxTree) : Prop
| plain
    (hKind : p.kind = "formal_parameter")
    (hType : p.childAt? "type" = some node)
| variadic
    (hKind : p.kind = "spread_parameter")
    (hType : (Outline.typeChildren p).head? = some node)

/- A node has a parameter of some type in its header. -/
inductive HeaderType
    (t node : SyntaxTree) : Prop
| parameter
    {list p : SyntaxTree}
    (hList : t.childAt? "parameters" = some list)
    (hMem : p ∈ list.namedChildren)
    (hType : ParameterType p node)

/- A method or constructor has a node as one of its types. -/
inductive SignatureType
    (t node : SyntaxTree) : Prop
| result
    (hKind : t.kind = memberKind .method)
    (hType : t.childAt? "type" = some node)
| parameter
    (hType : HeaderType t node)
| bound
    {p bound : SyntaxTree}
    (hMem : p ∈ parameterNodes (memberParameterList t))
    (hBound : p.childOf? ["type_bound"] = some bound)
    (hType : node ∈ Outline.typeChildren bound)

/-
  Some nodes of a class body declare a member that has a node
  as one of its types, with the names in scope there.
-/
inductive MemberType
    (f : SourceFile)
    (scope : List String)
    (node : SyntaxTree) :
    List String → List SyntaxTree → Prop
| field
    {t : SyntaxTree}
    {ts : List SyntaxTree}
    (hKind :
      t.kind = "field_declaration" ∨
        t.kind = "constant_declaration")
    (hDeclares : t.childrenAt "declarator" ≠ [])
    (hType : t.childAt? "type" = some node) :
    MemberType f scope node scope (t :: ts)
| signature
    {t : SyntaxTree}
    {ts : List SyntaxTree}
    {names : List String}
    (kind : MemberKind)
    (hKind : t.kind = memberKind kind)
    (hNames :
      f.parameterNames (memberParameterList t) = .ok names)
    (hType : SignatureType t node) :
    MemberType f scope node (names ++ scope) (t :: ts)
| members
    {t : SyntaxTree}
    {ts : List SyntaxTree}
    {inScope : List String}
    (hKind : t.kind = Outline.enumBodyKind)
    (hInside : MemberType f scope node inScope t.children) :
    MemberType f scope node inScope (t :: ts)
| later
    {t : SyntaxTree}
    {ts : List SyntaxTree}
    {inScope : List String}
    (hRest : MemberType f scope node inScope ts) :
    MemberType f scope node inScope (t :: ts)

/- A class has a node as the type of one of its members. -/
inductive ClassType
    (f : SourceFile)
    (scope : List String)
    (t node : SyntaxTree) : List String → Prop
| body
    {inScope : List String}
    (hType :
      MemberType f scope node inScope (bodyNodes t.children)) :
    ClassType f scope t node inScope
| component
    (hKind : Outline.classKind t.kind = .record)
    (hType : HeaderType t node) :
    ClassType f scope t node scope

end SourceFile

end DeclaredApi

------------------------------------------------------------
-- Members
------------------------------------------------------------

namespace DeclaredApi

namespace SourceFile

open SyntaxTree

variable {f : SourceFile}
variable {scope : List String}
variable {t node : SyntaxTree}
variable {holds more : DeclaredType → Prop}

/-
  Something holds of what a node is read as, once the array
  dimensions after a name are added to it.
-/
def ReadAs
    (f : SourceFile)
    (scope : List String)
    (node : SyntaxTree)
    (holds : DeclaredType → Prop) : Prop :=
  ∃ type dimensions,
    f.typeOf scope node = .ok type ∧
      holds (type.addDimensions dimensions)

theorem ReadAs.mono
    (hRead : f.ReadAs scope node holds)
    (hMore : ∀ type, holds type → more type) :
    f.ReadAs scope node more := by
  rcases hRead with ⟨type, dimensions, hType, hHolds⟩
  exact ⟨type, dimensions, hType, hMore _ hHolds⟩

/- Without dimensions, what is read holds as it is. -/
theorem readAs_of_holds
    {type : DeclaredType}
    (hType : f.typeOf scope node = .ok type)
    (hHolds : holds type) :
    f.ReadAs scope node holds := by
  refine ⟨type, 0, hType, ?_⟩
  cases type <;> exact hHolds

/- The fields of a declaration have its type. -/
theorem readAs_of_fieldsOf
    {implicit : List String}
    {fields : List FieldDecl}
    (hOk : f.fieldsOf scope implicit t = .ok fields)
    (hDeclares : t.childrenAt "declarator" ≠ [])
    (hType : t.childAt? "type" = some node) :
    f.ReadAs scope node
      (fun type => ∃ field ∈ fields, field.type = type) := by
  rcases Result.bind_eq_ok_iff.mp hOk with
    ⟨type, hRead, hFields⟩
  rw [typeAt_of_atField? hType] at hRead
  rcases List.exists_mem_of_ne_nil _ hDeclares with
    ⟨declarator, hDeclarator⟩
  rcases Result.exists_mem_of_mapM hFields hDeclarator with
    ⟨field, hField, hOk⟩
  rcases Result.bind_eq_ok_iff.mp hOk with ⟨_, _, hOk⟩
  rcases Result.bind_eq_ok_iff.mp hOk with
    ⟨dimensions, _, hPure⟩
  cases hPure
  exact ⟨type, dimensions, hRead, _, hField, rfl⟩

/- A parameter has the type that is written in it. -/
theorem readAs_of_parameterType
    {p : SyntaxTree}
    {found : List ParameterDecl}
    (hOk : f.parametersIn scope p = .ok found)
    (hType : ParameterType p node) :
    f.ReadAs scope node
      (fun type => ∃ q ∈ found, q.type = type) := by
  cases hType with
  | plain hKind hType =>
      rw [parametersIn, if_pos hKind] at hOk
      rcases Result.bind_eq_ok_iff.mp hOk with
        ⟨parameter, hPlain, hPure⟩
      cases hPure
      rcases Result.bind_eq_ok_iff.mp hPlain with
        ⟨type, hRead, hPlain⟩
      rw [typeAt_of_atField? hType] at hRead
      rcases Result.bind_eq_ok_iff.mp hPlain with
        ⟨dimensions, _, hPlain⟩
      rcases Result.bind_eq_ok_iff.mp hPlain with
        ⟨name, _, hPure⟩
      cases hPure
      exact ⟨type, dimensions, hRead, _, List.mem_cons_self,
        rfl⟩
  | variadic hKind hType =>
      have hOther : p.kind ≠ "formal_parameter" := by
        rw [hKind]
        decide
      rw [parametersIn, if_neg hOther, if_pos hKind] at hOk
      rcases Result.bind_eq_ok_iff.mp hOk with
        ⟨parameter, hVariadic, hPure⟩
      cases hPure
      rcases List.head?_eq_some_iff.mp hType with
        ⟨others, hChildren⟩
      unfold variadicParameter at hVariadic
      rw [hChildren] at hVariadic
      rcases Result.bind_eq_ok_iff.mp hVariadic with
        ⟨type, hRead, hVariadic⟩
      cases hDeclarator : p.childOf? ["variable_declarator"] with
      | none =>
          rw [hDeclarator] at hVariadic
          cases hVariadic
      | some declarator =>
          rw [hDeclarator] at hVariadic
          rcases Result.bind_eq_ok_iff.mp hVariadic with
            ⟨name, _, hPure⟩
          cases hPure
          exact ⟨type, 1, hRead, _, List.mem_cons_self, rfl⟩

theorem readAs_of_headerType
    {parameters : List ParameterDecl}
    (hOk :
      f.parametersOf scope (t.childAt? "parameters") =
        .ok parameters)
    (hType : HeaderType t node) :
    f.ReadAs scope node
      (fun type => ∃ q ∈ parameters, q.type = type) := by
  cases hType with
  | parameter hList hMem hType =>
      rw [hList] at hOk
      rcases Result.bind_eq_ok_iff.mp hOk with
        ⟨found, hFound, hPure⟩
      cases hPure
      rcases Result.exists_mem_of_mapM hFound hMem with
        ⟨here, hHere, hOk⟩
      apply (readAs_of_parameterType hOk hType).mono
      rintro type ⟨q, hq, rfl⟩
      exact ⟨q, List.mem_flatten_of_mem hHere hq, rfl⟩

/- A method or constructor has the types of its signature. -/
theorem readAs_of_signatureType
    {kind : MemberKind}
    {own implicit : List String}
    {m : MemberDecl}
    (hOk : f.memberOf scope kind implicit t = .ok m)
    (hKind : t.kind = memberKind kind)
    (hOwn :
      f.parameterNames (memberParameterList t) = .ok own)
    (hType : SignatureType t node) :
    f.ReadAs (own ++ scope) node m.Declares := by
  rcases exists_memberOrigin hOk with ⟨read, hOrigin⟩
  cases hOwn.symm.trans hOrigin.own_eq
  cases hType with
  | result hMethod hType =>
      cases kind with
      | constructor =>
          rw [hMethod] at hKind
          exact absurd hKind (by decide)
      | method =>
          rcases Result.bind_eq_ok_iff.mp hOrigin.returns_eq with
            ⟨type, hRead, hReturns⟩
          rw [typeAt_of_atField? hType] at hRead
          rcases Result.bind_eq_ok_iff.mp hReturns with
            ⟨dimensions, _, hPure⟩
          exact ⟨type, dimensions, hRead,
            .returns (Except.ok.inj hPure).symm⟩
  | parameter hType =>
      apply (readAs_of_headerType hOrigin.parameters_eq
        hType).mono
      rintro type ⟨q, hq, rfl⟩
      exact .parameter hq
  | bound hMem hBound hType =>
      rcases Result.exists_mem_of_mapM
          hOrigin.typeParameters_eq hMem with
        ⟨parameter, hParameter, hOk⟩
      rcases Result.bind_eq_ok_iff.mp hOk with ⟨_, _, hOk⟩
      rcases Result.bind_eq_ok_iff.mp hOk with
        ⟨bounds, hBounds, hPure⟩
      cases hPure
      unfold parameterBounds at hBounds
      rw [hBound] at hBounds
      rcases Result.exists_mem_of_mapM hBounds hType with
        ⟨type, hMemType, hRead⟩
      exact readAs_of_holds hRead (.bound hParameter hMemType)

end SourceFile

end DeclaredApi

------------------------------------------------------------
-- Classes
------------------------------------------------------------

namespace DeclaredApi

namespace SourceFile

open SyntaxTree

variable {f : SourceFile}
variable {scope : List String}
variable {t node : SyntaxTree}

/- Every type of a member in a body is one of the body. -/
theorem readAs_of_memberType
    {b : BodyScope}
    {ts : List SyntaxTree}
    {inScope : List String}
    {body : Body}
    (hScope : b.scope = scope)
    (hType : f.MemberType scope node inScope ts)
    (hOk : f.bodyIn b ts = .ok body) :
    f.ReadAs inScope node body.Declares := by
  induction hType generalizing b body with
  | field hKind hDeclares hType =>
      rcases bodyIn_cons_ok hOk with
        ⟨first, others, hFirst, _, rfl⟩
      rw [bodyOf_field b hKind, hScope] at hFirst
      rcases Result.bind_eq_ok_iff.mp hFirst with
        ⟨fields, hFields, hPure⟩
      cases hPure
      apply (readAs_of_fieldsOf hFields hDeclares hType).mono
      rintro type ⟨field, hField, rfl⟩
      exact Body.Declares.append_left others
        (MembersDeclare.field hField)
  | signature kind hKind hOwn hType =>
      rcases bodyIn_cons_ok hOk with
        ⟨first, others, hFirst, _, rfl⟩
      rcases exists_memberOf_of_bodyOf hKind hFirst with
        ⟨implicit, m, hMember, hMem⟩
      rw [hScope] at hMember
      apply (readAs_of_signatureType hMember hKind hOwn
        hType).mono
      intro type hDeclares
      exact Body.Declares.append_left others
        (MembersDeclare.member hMem hDeclares)
  | members hKind _ ih =>
      rcases bodyIn_cons_ok hOk with
        ⟨first, others, hFirst, _, rfl⟩
      rw [bodyOf_members b hKind] at hFirst
      exact (ih (b := { b with isInterface := false }) hScope
        hFirst).mono fun _ => Body.Declares.append_left others
  | later _ ih =>
      rcases bodyIn_cons_ok hOk with
        ⟨first, others, _, hOthers, rfl⟩
      exact (ih hScope hOthers).mono
        fun _ => Body.Declares.append_right first

/- The first node in the field of a body has its nodes. -/
theorem bodyNodes_eq_of_atField?
    (ts : List SyntaxTree) :
    bodyNodes ts =
      ((atField? "body" ts).map SyntaxTree.children).getD [] := by
  induction ts with
  | nil => rfl
  | cons t ts ih =>
      rcases t with ⟨kind, start, stop, field, isNamed, children⟩
      rw [bodyNodes, ih, atField?, atField?, List.find?_cons]
      by_cases hBody : field = some "body"
      · simp [hBody, SyntaxTree.field, SyntaxTree.children]
      · simp [hBody, SyntaxTree.field]

/- Every type of a member of a class is one of the class. -/
theorem readAs_of_classType
    {outer : Outer}
    {c : ClassDecl}
    {inScope : List String}
    (hOk : f.classOf outer t = .ok (c, scope))
    (hType : f.ClassType scope t node inScope) :
    f.ReadAs inScope node c.DeclaresForMember := by
  have hOrigin := classOrigin_of_classOf hOk
  rcases hOrigin.members with
    ⟨components, body, hHeader, hMembers, hFields,
      hConstructors, hMethods⟩
  unfold ClassDecl.DeclaresForMember
  rw [hFields, hConstructors, hMethods]
  cases hType with
  | body hType =>
      rw [bodyNodes_eq_of_atField?] at hType
      unfold membersOf childAt? at hMembers
      cases hBody : atField? "body" t.children with
      | none =>
          rw [hBody] at hType
          cases hType
      | some block =>
          rw [hBody] at hType hMembers
          apply (readAs_of_memberType rfl hType hMembers).mono
          intro type hDeclares
          exact hDeclares.mono (List.subset_append_right _ _)
            (List.Subset.refl _)
  | component hKind hType =>
      have hRecord : c.kind = .record :=
        hOrigin.kind_eq.trans hKind
      rw [headerFields, if_pos hRecord] at hHeader
      rcases Result.bind_eq_ok_iff.mp hHeader with
        ⟨parameters, hParameters, hPure⟩
      cases hPure
      apply (readAs_of_headerType hParameters hType).mono
      rintro type ⟨q, hq, rfl⟩
      exact .field
        (List.mem_append_left _ (List.mem_map_of_mem hq))

end SourceFile

end DeclaredApi
