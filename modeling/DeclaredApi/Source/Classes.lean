import DeclaredApi.Source.Members

/-
  Class declarations of source files.

  Every type that a file declares becomes a class
  declaration, outer types before the types inside them.  An
  inner class sees the type parameters of the classes around
  it; a static one sees only its own.

  Key definitions include:
    * `SourceFile.Body`
    * `SourceFile.bodyIn`
    * `SourceFile.Outer`
    * `SourceFile.classOf`
    * `SourceFile.classesOf`
    * `SourceFile.classesIn`
    * `SourceFile.build`
-/

------------------------------------------------------------
-- Class Bodies
------------------------------------------------------------

namespace DeclaredApi

namespace SourceFile

/- The members of a class. -/
structure Body where
  fields : List FieldDecl := []
  constructors : List MemberDecl := []
  methods : List MemberDecl := []

/- The members of one body, then those of another. -/
def Body.append (a b : Body) : Body where
  fields := a.fields ++ b.fields
  constructors := a.constructors ++ b.constructors
  methods := a.methods ++ b.methods

/- What the members of a class are read with. -/
structure BodyScope where
  className : String
  scope : List String
  isInterface : Bool

/- The modifiers that a kind of interface member implies. -/
def BodyScope.implied
    (b : BodyScope)
    (modifiers : List String) : List String :=
  if b.isInterface then modifiers else []

mutual

/- The members that a node of a class body declares. -/
def bodyOf
    (f : SourceFile)
    (b : BodyScope) : SyntaxTree → Except SourceError Body
| .node kind start stop field isNamed children =>
    let t : SyntaxTree :=
      .node kind start stop field isNamed children
    if kind = "enum_constant" then do
      let constant ← f.enumConstant b.className t
      pure { fields := [constant] }
    else if kind = Outline.enumBodyKind then
      bodyIn f { b with isInterface := false } children
    else if kind = "field_declaration" ||
        kind = "constant_declaration" then do
      let fields ←
        f.fieldsOf b.scope
          (b.implied ["public", "static", "final"]) t
      pure { fields := fields }
    else if kind = "method_declaration" then do
      let member ←
        f.memberOf b.scope .method (b.implied ["public"]) t
      pure { methods := [member] }
    else if kind = "constructor_declaration" then do
      let member ← f.memberOf b.scope .constructor [] t
      pure { constructors := [member] }
    else
      .ok {}

/- The members that some nodes of a class body declare. -/
def bodyIn
    (f : SourceFile)
    (b : BodyScope) :
    List SyntaxTree → Except SourceError Body
| [] => .ok {}
| t :: ts => do
    let first ← bodyOf f b t
    let others ← bodyIn f b ts
    pure (first.append others)

end

/- The members of the body of a declaration. -/
def membersOf
    (f : SourceFile)
    (b : BodyScope)
    (t : SyntaxTree) : Except SourceError Body :=
  match t.childAt? "body" with
  | none => .ok {}
  | some body => f.bodyIn b body.children

end SourceFile

end DeclaredApi

------------------------------------------------------------
-- Headers
------------------------------------------------------------

namespace DeclaredApi

namespace SourceFile

/-
  What surrounds a declaration: the class around it, if it
  is nested, the type parameters in scope there, and the
  modifiers that it has by implication.
-/
structure Outer where
  enclosing : Option String := none
  scope : List String := []
  implicit : List String := []

/- The superclass of a declaration. -/
def superclassOf
    (f : SourceFile)
    (scope : List String)
    (t : SyntaxTree) :
    Except SourceError (Option DeclaredType) :=
  match t.childOf? ["superclass"] with
  | none => .ok none
  | some clause =>
      match Outline.typeChildren clause with
      | [] => .error .unreadable
      | first :: _ => do
          let type ← f.typeOf scope first
          pure (some type)

/- The interfaces of a declaration. -/
def interfacesOf
    (f : SourceFile)
    (scope : List String)
    (t : SyntaxTree) : Except SourceError (List DeclaredType) :=
  match t.childOf?
      ["super_interfaces", "extends_interfaces"] with
  | none => .ok []
  | some clause =>
      let list := (clause.childOf? ["type_list"]).getD clause
      (Outline.typeChildren list).mapM (f.typeOf scope)

/- The fields that the header of a declaration declares. -/
def headerFields
    (f : SourceFile)
    (scope : List String)
    (kind : ClassKind)
    (t : SyntaxTree) : Except SourceError (List FieldDecl) :=
  if kind = .record then f.recordFields scope t else .ok []

/- The qualified name of a declaration. -/
def qualifiedName
    (f : SourceFile)
    (outer : Outer)
    (name : String) : String :=
  match outer.enclosing with
  | some enclosing => enclosing ++ "." ++ name
  | none => Name.inside f.context.package name

/- The modifiers of a declaration, implied ones included. -/
def classModifiers
    (outer : Outer)
    (kind : ClassKind)
    (t : SyntaxTree) : List String :=
  let modifiers :=
    Outline.mergeModifiers (Outline.modifiers t) outer.implicit
  if outer.enclosing.isSome && kind ≠ .plain then
    Outline.mergeModifiers modifiers ["static"]
  else
    modifiers

/- The type parameters in scope in a declaration. -/
def classScope
    (outer : Outer)
    (modifiers own : List String) : List String :=
  if outer.enclosing.isSome && !modifiers.contains "static" then
    own ++ outer.scope
  else
    own

end SourceFile

end DeclaredApi

------------------------------------------------------------
-- Classes
------------------------------------------------------------

namespace DeclaredApi

namespace SourceFile

/- A class declaration and the type parameters in its scope. -/
def classOf
    (f : SourceFile)
    (outer : Outer)
    (t : SyntaxTree) :
    Except SourceError (ClassDecl × List String) := do
  let simpleName ← f.readAt "name" t.children
  let name := f.qualifiedName outer simpleName
  let kind := Outline.classKind t.kind
  let modifiers := classModifiers outer kind t
  let parameterList := t.childAt? "type_parameters"
  let own ← f.parameterNames parameterList
  let scope := classScope outer modifiers own
  let typeParameters ← f.typeParameters scope parameterList
  let superclass ← f.superclassOf scope t
  let interfaces ← f.interfacesOf scope t
  let components ← f.headerFields scope kind t
  let body ←
    f.membersOf
      { className := name
        scope := scope
        isInterface := kind = .interface } t
  pure
    ({ name := name
       package := f.context.package
       kind := kind
       modifiers := modifiers
       typeParameters := typeParameters
       superclass := superclass
       interfaces := interfaces
       fields := components ++ body.fields
       constructors := body.constructors
       methods := body.methods
       enclosing := outer.enclosing },
      scope)

/- What surrounds the declarations in the body of a class. -/
def insideOf
    (c : ClassDecl)
    (scope : List String) : Outer where
  enclosing := some c.name
  scope := scope
  implicit :=
    if c.kind = .interface then ["public", "static"] else []

mutual

/- The classes that a node declares, itself first. -/
def classesOf
    (f : SourceFile)
    (outer : Outer) :
    SyntaxTree → Except SourceError (List ClassDecl)
| .node kind start stop field isNamed children =>
    if Outline.declarationKinds.contains kind then
      if (SyntaxTree.atField? "name" children).isNone then
        .ok []
      else do
        let (c, scope) ←
          f.classOf outer
            (.node kind start stop field isNamed children)
        let inner ←
          classesInBody f (insideOf c scope) children
        pure (c :: inner)
    else if kind = Outline.enumBodyKind then
      classesIn f { outer with implicit := [] } children
    else
      .ok []

/- The classes in the body among some nodes. -/
def classesInBody
    (f : SourceFile)
    (outer : Outer) :
    List SyntaxTree → Except SourceError (List ClassDecl)
| [] => .ok []
| .node _ _ _ field _ children :: ts =>
    if field = some "body" then
      classesIn f outer children
    else
      classesInBody f outer ts

/- The classes that some nodes declare. -/
def classesIn
    (f : SourceFile)
    (outer : Outer) :
    List SyntaxTree → Except SourceError (List ClassDecl)
| [] => .ok []
| t :: ts => do
    let first ← classesOf f outer t
    let others ← classesIn f outer ts
    pure (first ++ others)

end

/- Every class of a file, outer classes first. -/
def build
    (source : SourceText)
    (table : SymbolTable)
    (file : SyntaxTree) :
    Except SourceError (List ClassDecl) := do
  let context ← Outline.context source file
  classesIn ⟨source, table, context⟩ {} file.children

end SourceFile

end DeclaredApi
