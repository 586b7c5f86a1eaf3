import DeclaredApi.TypeRef.Basic

/-
  The canonical text of a type reference.

  `TypeRef.compact` writes arguments before array brackets
  and a wildcard without constraint as a bare question mark,
  so that the text depends on the root object type.

  Key definitions include:
    * `TypeRef.compact`
    * `TypeRef.compactAll`
-/

------------------------------------------------------------
-- Canonical Text
------------------------------------------------------------

namespace DeclaredApi

namespace TypeRef

mutual

/- The canonical text of a reference. -/
def compact
    (root : String) : TypeRef → String
| .simple element dimensions [] =>
    element ++ Name.brackets dimensions
| .simple element dimensions (a :: as) =>
    element ++ "<" ++
      ", ".intercalate (compactAll root (a :: as)) ++
      ">" ++ Name.brackets dimensions
| .wildcard relation bounds =>
    if isUnbounded root (.wildcard relation bounds) then
      "?"
    else
      "? " ++ relation.word ++ " " ++
        " & ".intercalate (compactAll root bounds)

/- The canonical texts of a list of references. -/
def compactAll
    (root : String) : List TypeRef → List String
| [] => []
| r :: rs => compact root r :: compactAll root rs

end

end TypeRef

end DeclaredApi
