import DeclaredApi.Declaration.Class
import DeclaredApi.Text.Quoted

/-
  Scopes of type variables.

  A class scope holds the type variables that a class
  declares, and names the classes whose variables are also
  visible in it: the class around an inner class and the
  declared supertypes.  A registry keeps the first scope
  registered under a name.

  Key definitions include:
    * `ClassScope`
    * `ClassScope.ofDecl`
    * `ClassScope.links`
    * `Registry`
    * `Registry.lookup`
    * `Registry.register`
-/

------------------------------------------------------------
-- Class Scopes
------------------------------------------------------------

namespace DeclaredApi

/- The type variables of a class and the classes it links to. -/
structure ClassScope where
  name : String
  parameters : List (String × TypeParameter) := []
  enclosing : Option String := none
  supertypes : List String := []
deriving Inhabited

namespace ClassScope

/-
  Set the declaration of a name.  A name that is present
  keeps its place and takes the new declaration.
-/
def setVariable
    (p : TypeParameter) :
    List (String × TypeParameter) →
    List (String × TypeParameter)
| [] => [(p.name, p)]
| (name, q) :: rest =>
    if name = p.name then
      (name, p) :: rest
    else
      (name, q) :: setVariable p rest

/- The scope of a class declaration. -/
def ofDecl (c : ClassDecl) : ClassScope where
  name := c.name
  parameters :=
    c.typeParameters.foldl (fun acc p => setVariable p acc) []
  enclosing := if c.isInner then c.enclosing else none
  supertypes := c.supertypes

/- The declaration of a variable in the class itself. -/
def declaration?
    (scope : ClassScope)
    (name : String) : Option TypeParameter :=
  scope.parameters.lookup name

/- The names of the classes that a scope links to. -/
def links (scope : ClassScope) : List String :=
  (scope.enclosing.toList.filter (fun name => name != "")) ++
    scope.supertypes

/- A scope as a text: its name and its variables. -/
def shown (scope : ClassScope) : String :=
  "ClassReference(" ++ Text.quote scope.name ++
    ", variables=[" ++
    ", ".intercalate
      (scope.parameters.map (fun v => Text.quote v.1)) ++ "])"

end ClassScope

end DeclaredApi

------------------------------------------------------------
-- Registries
------------------------------------------------------------

namespace DeclaredApi

/- The scopes of classes, with the first one of a name first. -/
abbrev Registry := List ClassScope

namespace Registry

/- The scope registered under a name. -/
def lookup
    (registry : Registry)
    (name : String) : Option ClassScope :=
  registry.find? (fun scope => scope.name = name)

/-
  The scope of a class, registered unless its name already
  has one.
-/
def register
    (c : ClassDecl)
    (registry : Registry) : ClassScope × Registry :=
  match registry.lookup c.name with
  | some scope => (scope, registry)
  | none =>
      let scope := ClassScope.ofDecl c
      (scope, registry ++ [scope])

/- The number of links of all the scopes. -/
def linkCount : Registry → Nat
| [] => 0
| scope :: rest => scope.links.length + linkCount rest

/- The number of variables of all the scopes. -/
def variableCount : Registry → Nat
| [] => 0
| scope :: rest =>
    scope.parameters.length + variableCount rest

end Registry

end DeclaredApi
