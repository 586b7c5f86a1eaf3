import DeclaredApi.Source.Types

/-
  Members of source declarations.

  Type parameters, fields, formal parameters, methods and
  constructors become declarations.  Array dimensions that
  are written after a name are added to the declared type.

  Key definitions include:
    * `SourceFile.parameterNames`
    * `SourceFile.typeParameters`
    * `SourceFile.fieldsOf`
    * `SourceFile.parametersOf`
    * `SourceFile.memberOf`
-/

------------------------------------------------------------
-- Type Parameters
------------------------------------------------------------

namespace DeclaredApi

namespace SourceFile

/- The type parameters in an optional list of them. -/
def parameterNodes
    (list : Option SyntaxTree) : List SyntaxTree :=
  match list with
  | none => []
  | some t =>
      t.namedChildren.filter
        (fun c => c.kind = "type_parameter")

/- The name of a type parameter. -/
def parameterName
    (f : SourceFile)
    (t : SyntaxTree) : Except SourceError String :=
  f.source.readOptional
    (t.childOf? ["type_identifier", "identifier"])

/- The names of the type parameters in an optional list. -/
def parameterNames
    (f : SourceFile)
    (list : Option SyntaxTree) :
    Except SourceError (List String) :=
  (parameterNodes list).mapM f.parameterName

/- The bounds of a type parameter. -/
def parameterBounds
    (f : SourceFile)
    (scope : List String)
    (t : SyntaxTree) : Except SourceError (List DeclaredType) :=
  match t.childOf? ["type_bound"] with
  | none => .ok []
  | some bound =>
      (Outline.typeChildren bound).mapM (f.typeOf scope)

/- A type parameter. -/
def typeParameter
    (f : SourceFile)
    (scope : List String)
    (t : SyntaxTree) : Except SourceError TypeParameter := do
  let name ← f.parameterName t
  let bounds ← f.parameterBounds scope t
  pure (.mk name bounds)

/- The type parameters in an optional list. -/
def typeParameters
    (f : SourceFile)
    (scope : List String)
    (list : Option SyntaxTree) :
    Except SourceError (List TypeParameter) :=
  (parameterNodes list).mapM (f.typeParameter scope)

end SourceFile

end DeclaredApi

------------------------------------------------------------
-- Fields
------------------------------------------------------------

namespace DeclaredApi

namespace SourceFile

/- A field, from its declarator and the type before it. -/
def declaredField
    (f : SourceFile)
    (type : DeclaredType)
    (modifiers : List String)
    (declarator : SyntaxTree) :
    Except SourceError FieldDecl := do
  let name ← f.readAt "name" declarator.children
  let dimensions ← f.dimensionsAt declarator.children
  pure
    { name := name
      type := type.addDimensions dimensions
      modifiers := modifiers }

/- The fields of one declaration, which share a type. -/
def fieldsOf
    (f : SourceFile)
    (scope implicit : List String)
    (t : SyntaxTree) : Except SourceError (List FieldDecl) := do
  let modifiers :=
    Outline.mergeModifiers (Outline.modifiers t) implicit
  let type ← f.typeAt scope "type" t.children
  (t.childrenAt "declarator").mapM
    (f.declaredField type modifiers)

/- A constant of an enumeration. -/
def enumConstant
    (f : SourceFile)
    (className : String)
    (t : SyntaxTree) : Except SourceError FieldDecl := do
  let name ← f.readAt "name" t.children
  pure
    { name := name
      type := .ofName className
      modifiers := ["public", "static", "final"] }

end SourceFile

end DeclaredApi

------------------------------------------------------------
-- Formal Parameters
------------------------------------------------------------

namespace DeclaredApi

namespace SourceFile

/- A parameter with a declared type. -/
def plainParameter
    (f : SourceFile)
    (scope : List String)
    (t : SyntaxTree) : Except SourceError ParameterDecl := do
  let type ← f.typeAt scope "type" t.children
  let dimensions ← f.dimensionsAt t.children
  let name ← f.readAt "name" t.children
  pure { name := name, type := type.addDimensions dimensions }

/- A variadic parameter, which is an array of its type. -/
def variadicParameter
    (f : SourceFile)
    (scope : List String)
    (t : SyntaxTree) : Except SourceError ParameterDecl :=
  match Outline.typeChildren t with
  | [] => .error .unreadable
  | first :: _ => do
      let type ← f.typeOf scope first
      match t.childOf? ["variable_declarator"] with
      | none => .error .unreadable
      | some declarator => do
          let name ← f.readAt "name" declarator.children
          pure
            { name := name
              type := type.addDimensions 1
              variadic := true }

/- The parameters that a node declares: one or none. -/
def parametersIn
    (f : SourceFile)
    (scope : List String)
    (t : SyntaxTree) :
    Except SourceError (List ParameterDecl) :=
  if t.kind = "formal_parameter" then do
    let parameter ← f.plainParameter scope t
    pure [parameter]
  else if t.kind = "spread_parameter" then do
    let parameter ← f.variadicParameter scope t
    pure [parameter]
  else
    .ok []

/- The parameters in an optional list. -/
def parametersOf
    (f : SourceFile)
    (scope : List String)
    (list : Option SyntaxTree) :
    Except SourceError (List ParameterDecl) :=
  match list with
  | none => .ok []
  | some t => do
      let found ←
        t.namedChildren.mapM (f.parametersIn scope)
      pure found.flatten

/- The fields that the header of a record declares. -/
def recordFields
    (f : SourceFile)
    (scope : List String)
    (t : SyntaxTree) : Except SourceError (List FieldDecl) := do
  let parameters ←
    f.parametersOf scope (t.childAt? "parameters")
  pure (parameters.map (fun p =>
    { name := p.name
      type := p.type
      modifiers := ["private", "final"] }))

end SourceFile

end DeclaredApi

------------------------------------------------------------
-- Methods and Constructors
------------------------------------------------------------

namespace DeclaredApi

namespace SourceFile

/- The list of type parameters of a member, if it has one. -/
def memberParameterList (t : SyntaxTree) : Option SyntaxTree :=
  match t.childAt? "type_parameters" with
  | some list => some list
  | none => t.childOf? ["type_parameters"]

/- The return type of a member; constructors have none. -/
def returnType
    (f : SourceFile)
    (scope : List String)
    (kind : MemberKind)
    (t : SyntaxTree) :
    Except SourceError (Option DeclaredType) :=
  match kind with
  | .constructor => .ok none
  | .method => do
      let type ← f.typeAt scope "type" t.children
      let dimensions ← f.dimensionsAt t.children
      pure (some (type.addDimensions dimensions))

/- A method or constructor of a class. -/
def memberOf
    (f : SourceFile)
    (classScope : List String)
    (kind : MemberKind)
    (implicit : List String)
    (t : SyntaxTree) : Except SourceError MemberDecl := do
  let list := memberParameterList t
  let names ← f.parameterNames list
  let scope := names ++ classScope
  let returns ← f.returnType scope kind t
  let name ← f.readAt "name" t.children
  let typeParameters ← f.typeParameters scope list
  let parameters ←
    f.parametersOf scope (t.childAt? "parameters")
  pure
    { name := name
      kind := kind
      typeParameters := typeParameters
      parameters := parameters
      returns := returns
      modifiers :=
        Outline.mergeModifiers (Outline.modifiers t) implicit }

end SourceFile

end DeclaredApi
