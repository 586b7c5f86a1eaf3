import DeclaredApi.ClassSignature.Basic
import DeclaredApi.Scope.Lookup
import DeclaredApi.Sorting
import DeclaredApi.Structured.Projection

/-
  Class documents.

  A class signature is written as an object that holds only
  the keys that say something: fields by name, constructors
  in the order of their signatures, methods in the order of
  their names and signatures.  An API document groups classes
  by package.

  Key definitions include:
    * `ClassDocument.Scope`
    * `ClassDocument.member`
    * `ClassDocument.ofSignature`
    * `ApiDocument.build`
-/

------------------------------------------------------------
-- Scopes
------------------------------------------------------------

namespace DeclaredApi

namespace ClassDocument

/- Writing a document classifies names. -/
abbrev Writer := StateM Classifier

/- What the types of a class are written with. -/
structure Scope where
  root : String
  declares : String → Bool

/- The scope of a class. -/
def scopeOf
    (root : String)
    (registry : Registry)
    (scope : ClassScope) : Scope :=
  ⟨root, registry.declares scope none⟩

/- The scope of a member that declares type parameters. -/
def Scope.withNames
    (s : Scope)
    (names : List String) : Scope :=
  { s with
    declares := fun name =>
      names.contains name || s.declares name }

/- The structured form of a reference in a scope. -/
def Scope.project
    (s : Scope)
    (reference : TypeRef) : Writer Json :=
  Structured.project s.root (some s.declares) reference

/- A key that is written only if a condition holds. -/
def flag
    (key : String)
    (holds : Bool) : List (String × Json) :=
  if holds then [(key, .bool true)] else []

/- A list that is written under a key unless it is empty. -/
def listField
    {α : Type}
    (key : String)
    (items : List α)
    (form : α → Writer Json) :
    Writer (List (String × Json)) :=
  if items.isEmpty then
    pure []
  else do
    let forms ← items.mapM form
    pure [(key, .list forms)]

end ClassDocument

end DeclaredApi

------------------------------------------------------------
-- Members
------------------------------------------------------------

namespace DeclaredApi

namespace ClassDocument

/- A type parameter. -/
def typeParameter
    (s : Scope)
    (p : TypeParameterRef) : Writer Json := do
  let bounds ← listField "bounds" p.bounds s.project
  pure (.object (("name", .str p.name) :: bounds))

/- A field. -/
def field
    (s : Scope)
    (f : FieldRef) : Writer Json := do
  let type ← s.project f.type
  pure (.object
    (("type", type) ::
      flag "static" (f.modifiers.contains "static") ++
      flag "final" (f.modifiers.contains "final")))

/- A parameter. -/
def parameter
    (s : Scope)
    (p : ParameterRef) : Writer Json := do
  let type ← s.project p.type
  pure (.object
    ([("name", .str p.name), ("type", type)] ++
      flag "varargs" p.variadic))

/- A return, if there is one. -/
def returnField
    (s : Scope) :
    Option ReturnRef → Writer (List (String × Json))
| none => pure []
| some r => do
    let type ← s.project r.type
    pure [("returns",
      .object [("type", type), ("nullable", .bool r.nullable)])]

/- The name of a method and whether it is static. -/
def memberHeader (m : MemberRef) : List (String × Json) :=
  match m.kind with
  | .constructor => []
  | .method =>
      ("name", .str m.name) ::
        flag "static" (m.modifiers.contains "static")

/- A method or constructor. -/
def member
    (classScope : Scope)
    (m : MemberRef) : Writer Json := do
  let s :=
    classScope.withNames
      (m.typeParameters.map TypeParameterRef.name)
  let typeParameters ←
    listField "type_parameters" m.typeParameters
      (typeParameter s)
  let parameters ←
    listField "parameters" m.parameters (parameter s)
  let returns ← returnField s m.returns
  pure (.object
    (memberHeader m ++ typeParameters ++ parameters ++ returns))

end ClassDocument

end DeclaredApi

------------------------------------------------------------
-- Classes
------------------------------------------------------------

namespace DeclaredApi

namespace ClassDocument

/- Fields in the order of their names. -/
def sortFields (fields : List FieldRef) : List FieldRef :=
  Sorting.sort (Sorting.keyLess FieldRef.name) fields

/- Constructors in the order of their signatures. -/
def sortConstructors
    (root : String)
    (members : List MemberRef) : List MemberRef :=
  Sorting.sort (Sorting.keyLess (MemberRef.signature root))
    members

/- Methods in the order of their names, then signatures. -/
def sortMethods
    (root : String)
    (members : List MemberRef) : List MemberRef :=
  Sorting.sort
    (fun a b =>
      Sorting.listLess [a.name, a.signature root]
        [b.name, b.signature root])
    members

/- The keys that say what a class is. -/
def header (c : ClassSignature) : List (String × Json) :=
  [("scope", Json.str c.visibility.word)] ++
    (if c.kind = .plain then
      []
    else
      [("kind", .str c.kind.documentLabel)]) ++
    flag "static" c.isStatic ++ flag "final" c.isFinal

/- The superclass, if there is one. -/
def superclassField
    (s : Scope) :
    Option TypeRef → Writer (List (String × Json))
| none => pure []
| some reference => do
    let form ← s.project reference
    pure [("extends", form)]

/- The fields, as an object with their names as keys. -/
def fieldsField
    (s : Scope)
    (fields : List FieldRef) :
    Writer (List (String × Json)) :=
  if fields.isEmpty then
    pure []
  else do
    let forms ← (sortFields fields).mapM (fun f => do
      let form ← field s f
      pure (f.name, form))
    pure [("fields", Json.ofFields forms)]

/- The document of a class. -/
def ofSignature
    (root : String)
    (registry : Registry)
    (c : ClassSignature) : Writer Json := do
  let s := scopeOf root registry c.scope
  let typeParameters ←
    listField "type_parameters" c.typeParameters
      (typeParameter s)
  let superclass ← superclassField s c.superclass
  let interfaces ←
    listField "implements" c.interfaces s.project
  let fields ← fieldsField s c.fields
  let constructors ←
    listField "constructors"
      (sortConstructors root c.constructors) (member s)
  let methods ←
    listField "methods" (sortMethods root c.methods) (member s)
  pure (.object
    (header c ++ typeParameters ++ superclass ++ interfaces ++
      fields ++ constructors ++ methods))

end ClassDocument

end DeclaredApi

------------------------------------------------------------
-- API Documents
------------------------------------------------------------

namespace DeclaredApi

namespace ApiDocument

/- The version of the document format. -/
def defaultVersion : String :=
  "1.0"

/- The key of the language that the classes are written in. -/
def language : String :=
  "java"

/- Put a class into the package that holds it. -/
def putClass
    (package localName : String)
    (form : Json)
    (packages : List (String × Json)) :
    List (String × Json) :=
  let classes :=
    match packages.lookup package with
    | some entry =>
        match entry.get? "classes" with
        | some known => known.fields
        | none => []
    | none => []
  Json.put package
    (.object
      [("classes", .object (Json.put localName form classes))])
    packages

/- The packages of some classes, added one by one. -/
def packagesFrom
    (root : String)
    (registry : Registry)
    (packages : List (String × Json)) :
    List ClassSignature →
    StateM Classifier (List (String × Json))
| [] => pure packages
| c :: cs => do
    let form ← ClassDocument.ofSignature root registry c
    packagesFrom root registry
      (putClass c.package c.localName form packages) cs

/- The document of some classes, in the order of their names. -/
def build
    (root : String)
    (registry : Registry)
    (version : String)
    (signatures : List ClassSignature) :
    StateM Classifier Json := do
  let packages ←
    packagesFrom root registry []
      (Sorting.sort (Sorting.keyLess ClassSignature.name)
        signatures)
  pure (.object
    [("version", .str version),
      ("languages",
        .object
          [(language,
            .object [("packages", .object packages)])])])

end ApiDocument

end DeclaredApi
