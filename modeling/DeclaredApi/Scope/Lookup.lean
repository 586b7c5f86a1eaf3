import DeclaredApi.Scope.Registry

/-
  Lookup of type variables.

  A variable is looked for among the type parameters of the
  member, then in the class, then in the classes that it
  links to, breadth first and each class once.

  Key definitions include:
    * `UndeclaredVariable`
    * `Registry.search`
    * `Registry.findVariable`
    * `Registry.requireVariable`
-/

------------------------------------------------------------
-- Breadth-First Search
------------------------------------------------------------

namespace DeclaredApi

namespace Registry

/-
  Search the pending scopes, oldest first.  Every step takes
  one of them, and only the first visit of a class adds the
  classes that it links to.
-/
def search
    (registry : Registry)
    (name : String) :
    (fuel : Nat) →
    (visited : List String) →
    (pending : List ClassScope) → Option TypeParameter
| 0, _, _ => none
| _ + 1, _, [] => none
| fuel + 1, visited, current :: pending =>
    if visited.contains current.name then
      search registry name fuel visited pending
    else
      match current.declaration? name with
      | some parameter => some parameter
      | none =>
          let visited := current.name :: visited
          let found :=
            (current.links.filterMap registry.lookup).filter
              (fun scope => !visited.contains scope.name)
          search registry name fuel visited (pending ++ found)

end Registry

end DeclaredApi

------------------------------------------------------------
-- Visible Variables
------------------------------------------------------------

namespace DeclaredApi

/- A variable that no class or member in scope declares. -/
structure UndeclaredVariable where
  name : String
  context : String
deriving DecidableEq, Repr

namespace UndeclaredVariable

/- The report of an undeclared variable. -/
def message (e : UndeclaredVariable) : String :=
  "Type variable '" ++ e.name ++
    "' is not declared in the context of '" ++ e.context ++ "'"

end UndeclaredVariable

namespace Registry

/- The declaration of a variable visible from a class. -/
def findInClass
    (registry : Registry)
    (scope : ClassScope)
    (name : String) : Option TypeParameter :=
  registry.search name
    (registry.linkCount + scope.links.length + 2) [] [scope]

/- The declaration of a variable visible from a member. -/
def findVariable
    (registry : Registry)
    (scope : ClassScope)
    (member : Option MemberDecl)
    (name : String) : Option TypeParameter :=
  let own :=
    match member with
    | none => none
    | some m =>
        m.typeParameters.find? (fun p => p.name = name)
  match own with
  | some parameter => some parameter
  | none => registry.findInClass scope name

/- A variable is visible from a class or member. -/
def declares
    (registry : Registry)
    (scope : ClassScope)
    (member : Option MemberDecl)
    (name : String) : Bool :=
  (registry.findVariable scope member name).isSome

/- The name of a scope, as reports show it. -/
def contextName
    (scope : ClassScope)
    (member : Option MemberDecl) : String :=
  match member with
  | none => scope.name
  | some m => scope.name ++ "#" ++ m.name

/- As `findVariable`, where the variable must be declared. -/
def requireVariable
    (registry : Registry)
    (scope : ClassScope)
    (member : Option MemberDecl)
    (name : String) :
    Except UndeclaredVariable TypeParameter :=
  match registry.findVariable scope member name with
  | some parameter => .ok parameter
  | none => .error ⟨name, contextName scope member⟩

end Registry

end DeclaredApi
