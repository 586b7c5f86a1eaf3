import DeclaredApi.Proofs.Source.Scoping
import DeclaredApi.Source.Classes

/-
  Files that look names up alike.

  The symbol table and the context of a file decide what its
  simple names stand for, and but for the package nothing
  else.  So a file is built alike with two of them that
  answer its lookups alike.

  Main declarations:
    * `SourceFile.withNames`
    * `SourceFile.LooksUpAlike`
    * `SourceFile.LooksUpAlike.typeOf`
    * `SourceFile.LooksUpAlike.memberOf`
    * `SourceFile.LooksUpAlike.classesIn`
    * `SourceFile.build_congr`
-/

------------------------------------------------------------
-- Names
------------------------------------------------------------

namespace DeclaredApi

namespace SourceFile

/- The file with other names to look up. -/
def withNames
    (f : SourceFile)
    (table : SymbolTable)
    (context : FileContext) : SourceFile :=
  { f with
    table := table
    context := context }

/- The file has the same package and the same names there. -/
structure LooksUpAlike
    (f : SourceFile)
    (table : SymbolTable)
    (context : FileContext) : Prop where
  package : context.package = f.context.package
  lookup :
    ∀ name,
      (f.withNames table context).lookup name = f.lookup name

variable {f : SourceFile}
variable {table : SymbolTable} {context : FileContext}

/- What a node writes does not depend on the names. -/
theorem segmentsIn_withNames
    (ts : List SyntaxTree) :
    (f.withNames table context).segmentsIn ts = f.segmentsIn ts := by
  have hEach :
      ∀ t, (f.withNames table context).segments t = f.segments t := by
    intro t
    induction t with
    | node kind start stop field isNamed children ih =>
        have hChildren :
            (f.withNames table context).segmentsIn children =
              f.segmentsIn children := by
          induction children with
          | nil => rfl
          | cons t ts ihTail =>
              rw [segmentsIn, segmentsIn,
                ih t List.mem_cons_self,
                ihTail fun c hc =>
                  ih c (List.mem_cons_of_mem t hc)]
        rw [segments, segments, hChildren]
        rfl
  induction ts with
  | nil => rfl
  | cons t ts ih => rw [segmentsIn, segmentsIn, hEach, ih]

theorem LooksUpAlike.qualify
    (hAlike : f.LooksUpAlike table context)
    (name : String) :
    (f.withNames table context).qualify name = f.qualify name := by
  have hPackage :
      (f.withNames table context).context.package =
        f.context.package :=
    hAlike.package
  rw [SourceFile.qualify, SourceFile.qualify, hAlike.lookup,
    hPackage]

theorem LooksUpAlike.scopedName
    (hAlike : f.LooksUpAlike table context)
    (nodes : List SyntaxTree) :
    (f.withNames table context).scopedName nodes =
      f.scopedName nodes := by
  have hSegments :
      (f.withNames table context).qualifySegments =
        f.qualifySegments := by
    funext words
    cases words with
    | nil => rfl
    | cons head rest =>
        rw [qualifySegments, qualifySegments, hAlike.lookup]
  rw [SourceFile.scopedName, SourceFile.scopedName,
    segmentsIn_withNames, hSegments]

theorem LooksUpAlike.rawName
    (hAlike : f.LooksUpAlike table context)
    (nodes : List SyntaxTree) :
    (f.withNames table context).rawName nodes = f.rawName nodes := by
  unfold SourceFile.rawName
  simp only [hAlike.qualify, hAlike.scopedName]
  rfl

theorem LooksUpAlike.nameType
    (hAlike : f.LooksUpAlike table context)
    (scope : List String)
    (name : String) :
    (f.withNames table context).nameType scope name =
      f.nameType scope name := by
  rw [SourceFile.nameType, SourceFile.nameType, hAlike.qualify]

end SourceFile

end DeclaredApi

------------------------------------------------------------
-- Types
------------------------------------------------------------

namespace DeclaredApi

namespace SourceFile

variable {f : SourceFile}
variable {table : SymbolTable} {context : FileContext}
variable {scope : List String}

/- A node and the arguments in it are read alike. -/
structure TypeAlike
    (f : SourceFile)
    (table : SymbolTable)
    (context : FileContext)
    (scope : List String)
    (t : SyntaxTree) : Prop where
  typeOf_eq :
    (f.withNames table context).typeOf scope t = f.typeOf scope t
  arguments_eq :
    (f.withNames table context).argumentsIn scope t.children =
      f.argumentsIn scope t.children
  bound_eq :
    ∀ keyword,
      (f.withNames table context).boundIn scope keyword t.children =
        f.boundIn scope keyword t.children

theorem typeAt_of_alike
    {wanted : String}
    {ts : List SyntaxTree}
    (hEach : ∀ t ∈ ts, TypeAlike f table context scope t) :
    (f.withNames table context).typeAt scope wanted ts =
      f.typeAt scope wanted ts := by
  induction ts with
  | nil => rfl
  | cons t ts ih =>
      rw [typeAt, typeAt, (hEach t List.mem_cons_self).typeOf_eq,
        ih fun c hc => hEach c (List.mem_cons_of_mem t hc)]

theorem lastType_of_alike
    {ts : List SyntaxTree}
    (hEach : ∀ t ∈ ts, TypeAlike f table context scope t) :
    (f.withNames table context).lastType scope ts =
      f.lastType scope ts := by
  induction ts with
  | nil => rfl
  | cons t ts ih =>
      rw [lastType, lastType,
        (hEach t List.mem_cons_self).typeOf_eq,
        ih fun c hc => hEach c (List.mem_cons_of_mem t hc)]

theorem argumentsOf_of_alike
    {ts : List SyntaxTree}
    (hEach : ∀ t ∈ ts, TypeAlike f table context scope t) :
    (f.withNames table context).argumentsOf scope ts =
      f.argumentsOf scope ts := by
  induction ts with
  | nil => rfl
  | cons t ts ih =>
      have hArguments := (hEach t List.mem_cons_self).arguments_eq
      rcases t with ⟨kind, start, stop, field, isNamed, children⟩
      rw [SyntaxTree.children] at hArguments
      rw [argumentsOf, argumentsOf, hArguments,
        ih fun c hc => hEach c (List.mem_cons_of_mem _ hc)]

theorem boundIn_of_alike
    {ts : List SyntaxTree}
    (keyword : Option String)
    (hEach : ∀ t ∈ ts, TypeAlike f table context scope t) :
    (f.withNames table context).boundIn scope keyword ts =
      f.boundIn scope keyword ts := by
  induction ts generalizing keyword with
  | nil => rfl
  | cons t ts ih =>
      have hType := (hEach t List.mem_cons_self).typeOf_eq
      have hRest := fun keyword =>
        ih keyword fun c hc => hEach c (List.mem_cons_of_mem t hc)
      rcases t with ⟨kind, start, stop, field, isNamed, children⟩
      rw [boundIn, boundIn, hType, hRest, hRest]

theorem argumentsIn_of_alike
    {ts : List SyntaxTree}
    (hEach : ∀ t ∈ ts, TypeAlike f table context scope t) :
    (f.withNames table context).argumentsIn scope ts =
      f.argumentsIn scope ts := by
  induction ts with
  | nil => rfl
  | cons t ts ih =>
      have hType := (hEach t List.mem_cons_self).typeOf_eq
      have hBound := (hEach t List.mem_cons_self).bound_eq none
      rcases t with ⟨kind, start, stop, field, isNamed, children⟩
      rw [SyntaxTree.children] at hBound
      rw [argumentsIn, argumentsIn, hType, hBound,
        ih fun c hc => hEach c (List.mem_cons_of_mem _ hc)]

/- So every node is read as the same type. -/
theorem LooksUpAlike.typeAlike
    (hAlike : f.LooksUpAlike table context)
    (scope : List String)
    (t : SyntaxTree) :
    TypeAlike f table context scope t := by
  induction t with
  | node kind start stop field isNamed children ih =>
      refine ⟨?_, argumentsIn_of_alike ih,
        fun keyword => boundIn_of_alike keyword ih⟩
      have hRead : (f.withNames table context).read = f.read := rfl
      have hDimensions :
          (f.withNames table context).dimensionsAt = f.dimensionsAt :=
        rfl
      unfold SourceFile.typeOf
      simp only [hRead, hDimensions, hAlike.nameType,
        hAlike.scopedName, hAlike.rawName,
        argumentsOf_of_alike ih, typeAt_of_alike ih,
        lastType_of_alike ih]

theorem LooksUpAlike.typeOf
    (hAlike : f.LooksUpAlike table context) :
    (f.withNames table context).typeOf = f.typeOf := by
  funext scope t
  exact (hAlike.typeAlike scope t).typeOf_eq

theorem LooksUpAlike.typeAt
    (hAlike : f.LooksUpAlike table context) :
    (f.withNames table context).typeAt = f.typeAt := by
  funext scope wanted ts
  exact typeAt_of_alike fun t _ => hAlike.typeAlike scope t

end SourceFile

end DeclaredApi

------------------------------------------------------------
-- Members
------------------------------------------------------------

namespace DeclaredApi

namespace SourceFile

variable {f : SourceFile}
variable {table : SymbolTable} {context : FileContext}

theorem LooksUpAlike.typeParameters
    (hAlike : f.LooksUpAlike table context) :
    (f.withNames table context).typeParameters = f.typeParameters := by
  have hBounds :
      (f.withNames table context).parameterBounds =
        f.parameterBounds := by
    funext scope t
    rw [parameterBounds, parameterBounds, hAlike.typeOf]
  have hParameter :
      (f.withNames table context).typeParameter = f.typeParameter := by
    funext scope t
    rw [typeParameter, typeParameter, hBounds]
    rfl
  funext scope list
  rw [SourceFile.typeParameters, SourceFile.typeParameters,
    hParameter]

theorem LooksUpAlike.fieldsOf
    (hAlike : f.LooksUpAlike table context) :
    (f.withNames table context).fieldsOf = f.fieldsOf := by
  funext scope implicit t
  rw [SourceFile.fieldsOf, SourceFile.fieldsOf, hAlike.typeAt]
  rfl

theorem LooksUpAlike.parametersOf
    (hAlike : f.LooksUpAlike table context) :
    (f.withNames table context).parametersOf = f.parametersOf := by
  have hPlain :
      (f.withNames table context).plainParameter = f.plainParameter := by
    funext scope t
    rw [plainParameter, plainParameter, hAlike.typeAt]
    rfl
  have hVariadic :
      (f.withNames table context).variadicParameter =
        f.variadicParameter := by
    funext scope t
    unfold variadicParameter
    rw [hAlike.typeOf]
    rfl
  have hIn :
      (f.withNames table context).parametersIn = f.parametersIn := by
    funext scope t
    rw [parametersIn, parametersIn, hPlain, hVariadic]
  funext scope list
  unfold SourceFile.parametersOf
  rw [hIn]

theorem LooksUpAlike.memberOf
    (hAlike : f.LooksUpAlike table context) :
    (f.withNames table context).memberOf = f.memberOf := by
  have hReturn :
      (f.withNames table context).returnType = f.returnType := by
    funext scope kind t
    unfold returnType
    rw [hAlike.typeAt]
    rfl
  funext classScope kind implicit t
  rw [SourceFile.memberOf, SourceFile.memberOf, hReturn,
    hAlike.typeParameters, hAlike.parametersOf]
  rfl

end SourceFile

end DeclaredApi

------------------------------------------------------------
-- Classes
------------------------------------------------------------

namespace DeclaredApi

namespace SourceFile

variable {f : SourceFile}
variable {table : SymbolTable} {context : FileContext}

theorem LooksUpAlike.membersOf
    (hAlike : f.LooksUpAlike table context) :
    (f.withNames table context).membersOf = f.membersOf := by
  have hOf :
      ∀ t b,
        (f.withNames table context).bodyOf b t = f.bodyOf b t := by
    intro t
    induction t with
    | node kind start stop field isNamed children ih =>
        have hChildren :
            ∀ b,
              (f.withNames table context).bodyIn b children =
                f.bodyIn b children := by
          intro b
          induction children with
          | nil => rfl
          | cons t ts ihTail =>
              rw [bodyIn, bodyIn, ih t List.mem_cons_self,
                ihTail fun c hc =>
                  ih c (List.mem_cons_of_mem t hc)]
        intro b
        rw [bodyOf, bodyOf, hAlike.fieldsOf, hAlike.memberOf,
          hChildren]
        rfl
  have hIn :
      ∀ b ts,
        (f.withNames table context).bodyIn b ts = f.bodyIn b ts := by
    intro b ts
    induction ts with
    | nil => rfl
    | cons t ts ih => rw [bodyIn, bodyIn, hOf, ih]
  funext b t
  unfold SourceFile.membersOf
  simp only [hIn]

theorem LooksUpAlike.classOf
    (hAlike : f.LooksUpAlike table context) :
    (f.withNames table context).classOf = f.classOf := by
  have hSuperclass :
      (f.withNames table context).superclassOf = f.superclassOf := by
    funext scope t
    unfold superclassOf
    rw [hAlike.typeOf]
  have hInterfaces :
      (f.withNames table context).interfacesOf = f.interfacesOf := by
    funext scope t
    unfold interfacesOf
    rw [hAlike.typeOf]
  have hHeader :
      (f.withNames table context).headerFields = f.headerFields := by
    funext scope kind t
    rw [headerFields, headerFields, recordFields, recordFields,
      hAlike.parametersOf]
  have hPackage :
      (f.withNames table context).context.package =
        f.context.package :=
    hAlike.package
  have hName :
      (f.withNames table context).qualifiedName =
        f.qualifiedName := by
    funext outer name
    unfold qualifiedName
    rw [hPackage]
  funext outer t
  rw [SourceFile.classOf, SourceFile.classOf, hName, hPackage,
    hAlike.typeParameters, hSuperclass, hInterfaces, hHeader,
    hAlike.membersOf]
  rfl

theorem classesIn_of_alike
    {ts : List SyntaxTree}
    (outer : Outer)
    (hEach :
      ∀ t ∈ ts,
        ∀ outer,
          (f.withNames table context).classesOf outer t =
            f.classesOf outer t) :
    (f.withNames table context).classesIn outer ts =
      f.classesIn outer ts := by
  induction ts with
  | nil => rfl
  | cons t ts ih =>
      rw [classesIn, classesIn, hEach t List.mem_cons_self,
        ih fun c hc => hEach c (List.mem_cons_of_mem t hc)]

theorem classesInBody_of_alike
    {ts : List SyntaxTree}
    (outer : Outer)
    (hEach :
      ∀ t ∈ ts,
        ∀ outer,
          (f.withNames table context).classesIn outer t.children =
            f.classesIn outer t.children) :
    (f.withNames table context).classesInBody outer ts =
      f.classesInBody outer ts := by
  induction ts with
  | nil => rfl
  | cons t ts ih =>
      have hChildren := hEach t List.mem_cons_self
      have hRest :=
        ih fun c hc => hEach c (List.mem_cons_of_mem t hc)
      rcases t with ⟨kind, start, stop, field, isNamed, children⟩
      rw [SyntaxTree.children] at hChildren
      rw [classesInBody, classesInBody, hChildren, hRest]

theorem LooksUpAlike.classesOf
    (hAlike : f.LooksUpAlike table context)
    (t : SyntaxTree) :
    (∀ outer,
        (f.withNames table context).classesOf outer t =
          f.classesOf outer t) ∧
      ∀ outer,
        (f.withNames table context).classesIn outer t.children =
          f.classesIn outer t.children := by
  induction t with
  | node kind start stop field isNamed children ih =>
      have hIn :
          ∀ outer,
            (f.withNames table context).classesIn outer children =
              f.classesIn outer children :=
        fun outer =>
          classesIn_of_alike outer fun t ht => (ih t ht).1
      have hBody :
          ∀ outer,
            (f.withNames table context).classesInBody outer children =
              f.classesInBody outer children :=
        fun outer =>
          classesInBody_of_alike outer fun t ht => (ih t ht).2
      refine ⟨?_, hIn⟩
      intro outer
      rw [SourceFile.classesOf, SourceFile.classesOf,
        hAlike.classOf]
      simp only [hIn, hBody]

/- The classes of a file are read alike. -/
theorem LooksUpAlike.classesIn
    (hAlike : f.LooksUpAlike table context)
    (outer : Outer)
    (ts : List SyntaxTree) :
    (f.withNames table context).classesIn outer ts =
      f.classesIn outer ts :=
  classesIn_of_alike outer fun t _ => (hAlike.classesOf t).1

/- A table that answers alike gives the same names. -/
theorem looksUpAlike_of_resolve
    (hResolve :
      ∀ short file,
        table.resolve short file = f.table.resolve short file) :
    f.LooksUpAlike table f.context where
  package := rfl
  lookup := by
    intro name
    rw [SourceFile.lookup, SourceFile.lookup, withNames,
      hResolve]

/- A file is built from its lookups in the table. -/
theorem build_congr
    {source : SourceText}
    {table other : SymbolTable}
    (hResolve :
      ∀ short file,
        other.resolve short file = table.resolve short file)
    (tree : SyntaxTree) :
    build source other tree = build source table tree := by
  have hClasses :
      ∀ context : FileContext,
        SourceFile.classesIn ⟨source, other, context⟩ {}
            tree.children =
          SourceFile.classesIn ⟨source, table, context⟩ {}
            tree.children := by
    intro context
    exact LooksUpAlike.classesIn (f := ⟨source, table, context⟩)
      (looksUpAlike_of_resolve hResolve) {} tree.children
  rw [build, build]
  simp only [hClasses]

end SourceFile

end DeclaredApi
