import DeclaredApi.Classifier
import DeclaredApi.Json.Value
import DeclaredApi.TypeRef.Basic

/-
  The structured form of type references.

  A named type without arguments is written as its base, any
  other reference as an object.  Under a declaration scope a
  name that is taken for a type variable and that the scope
  does not declare is replaced by the root object type with
  the same dimensions.

  Key definitions include:
    * `Structured.Declared`
    * `Structured.leaf`
    * `Structured.project`
-/

------------------------------------------------------------
-- Keys
------------------------------------------------------------

namespace DeclaredApi

namespace Structured

def baseKey : String :=
  "base"

def parametersKey : String :=
  "parameters"

def genericKey : String :=
  "generic"

def relationKey : String :=
  "bounds_type"

def boundsKey : String :=
  "bounds"

end Structured

end DeclaredApi

------------------------------------------------------------
-- Projection
------------------------------------------------------------

namespace DeclaredApi

namespace Structured

/-
  The type variables that a scope declares; absent where
  there is no scope to judge by.
-/
abbrev Declared :=
  Option (String → Bool)

/- The element name that is written for a bare type. -/
def leaf
    (root : String)
    (declared : Declared)
    (element : String) : StateM Classifier String :=
  match declared with
  | none => pure element
  | some declares => do
      let bare ← Classifier.isVariable element
      if bare && !declares element then
        pure root
      else
        pure element

mutual

/- The structured form of a reference. -/
def project
    (root : String)
    (declared : Declared) :
    TypeRef → StateM Classifier Json
| .simple element dimensions [] => do
    let element ← leaf root declared element
    pure (.str (element ++ Name.brackets dimensions))
| .simple element dimensions (a :: as) => do
    let arguments ← projectAll root declared (a :: as)
    pure (.object
      [(baseKey, .str (element ++ Name.brackets dimensions)),
        (parametersKey, .list arguments)])
| .wildcard relation bounds => do
    let bounds ← projectAll root declared bounds
    pure (.object
      [(baseKey, .str "?"), (genericKey, .bool true),
        (relationKey, .str relation.word),
        (boundsKey, .list bounds)])

/- The structured forms of a list of references. -/
def projectAll
    (root : String)
    (declared : Declared) :
    List TypeRef → StateM Classifier (List Json)
| [] => pure []
| r :: rs => do
    let form ← project root declared r
    let forms ← projectAll root declared rs
    pure (form :: forms)

end

end Structured

end DeclaredApi
