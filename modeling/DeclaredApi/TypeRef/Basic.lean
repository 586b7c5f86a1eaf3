import DeclaredApi.Name

/-
  Type references.

  A type reference describes one use of a type in a declared
  API: a named type with array dimensions and type arguments,
  or a wildcard with upper or lower bounds.

  Key definitions include:
    * `BoundRelation`
    * `BoundRelation.word`
    * `TypeRef`
    * `TypeRef.WellFormed`
    * `TypeRef.nesting`
    * `TypeRef.named`
    * `TypeRef.unbounded`
    * `TypeRef.addDimensions`
-/

------------------------------------------------------------
-- Bound Relations
------------------------------------------------------------

namespace DeclaredApi

/- The direction of the bounds of a wildcard. -/
inductive BoundRelation where
| upper
| lower
deriving DecidableEq, Repr

namespace BoundRelation

/- The keyword that introduces bounds of this direction. -/
def word : BoundRelation → String
| .upper => "extends"
| .lower => "super"

/- The direction that a keyword introduces. -/
def ofWord? (w : String) : Option BoundRelation :=
  if w = "extends" then
    some .upper
  else if w = "super" then
    some .lower
  else
    none

/- A keyword is the word of the direction it introduces. -/
theorem eq_word_of_ofWord?
    {w : String}
    {relation : BoundRelation}
    (hOf : ofWord? w = some relation) :
    w = relation.word := by
  unfold ofWord? at hOf
  split at hOf
  · next hUpper =>
      cases hOf
      exact hUpper
  · split at hOf
    · next hLower =>
        cases hOf
        exact hLower
    · cases hOf

end BoundRelation

end DeclaredApi

------------------------------------------------------------
-- Type References
------------------------------------------------------------

namespace DeclaredApi

/-
  A named type with its array dimensions and arguments, or
  a wildcard with its bounds in declaration order.
-/
inductive TypeRef where
| simple
    (element : String)
    (dimensions : Nat)
    (arguments : List TypeRef)
| wildcard
    (relation : BoundRelation)
    (bounds : List TypeRef)
deriving Repr, Inhabited

end DeclaredApi

------------------------------------------------------------
-- Decidable Equality
------------------------------------------------------------

namespace DeclaredApi

namespace TypeRef

mutual

/- Decide whether two references are the same tree. -/
def decEq :
    (a b : TypeRef) → Decidable (a = b)
| .simple e₁ d₁ as₁, .simple e₂ d₂ as₂ =>
    if he : e₁ = e₂ then
      if hd : d₁ = d₂ then
        match decEqList as₁ as₂ with
        | isTrue ha => isTrue (by rw [he, hd, ha])
        | isFalse ha =>
            isFalse (fun h => ha (by injection h))
      else
        isFalse (fun h => hd (by injection h))
    else
      isFalse (fun h => he (by injection h))
| .wildcard r₁ bs₁, .wildcard r₂ bs₂ =>
    if hr : r₁ = r₂ then
      match decEqList bs₁ bs₂ with
      | isTrue hb => isTrue (by rw [hr, hb])
      | isFalse hb =>
          isFalse (fun h => hb (by injection h))
    else
      isFalse (fun h => hr (by injection h))
| .simple _ _ _, .wildcard _ _ =>
    isFalse (fun h => by injection h)
| .wildcard _ _, .simple _ _ _ =>
    isFalse (fun h => by injection h)

/- Decide whether two lists hold the same trees. -/
def decEqList :
    (as bs : List TypeRef) → Decidable (as = bs)
| [], [] => isTrue rfl
| [], _ :: _ => isFalse (fun h => by injection h)
| _ :: _, [] => isFalse (fun h => by injection h)
| a :: as, b :: bs =>
    match decEq a b with
    | isTrue h =>
        match decEqList as bs with
        | isTrue hs => isTrue (by rw [h, hs])
        | isFalse hs =>
            isFalse (fun h => hs (by injection h))
    | isFalse h =>
        isFalse (fun hab => h (by injection hab))

end

instance : DecidableEq TypeRef :=
  decEq

end TypeRef

end DeclaredApi

------------------------------------------------------------
-- Parts of a Reference
------------------------------------------------------------

namespace DeclaredApi

namespace TypeRef

/- The reference to a type without arguments. -/
def named (element : String) : TypeRef :=
  .simple element 0 []

/- The wildcard whose only bound is the root object type. -/
def unbounded (root : String) : TypeRef :=
  .wildcard .upper [named root]

/- A wildcard written as a bare question mark. -/
def isUnbounded
    (root : String) : TypeRef → Bool
| .wildcard .upper [.simple element 0 []] => element = root
| _ => false

/- A reference that is a wildcard. -/
def isWildcard : TypeRef → Bool
| .simple _ _ _ => false
| .wildcard _ _ => true

/- The element name with its brackets; `?` for a wildcard. -/
def base : TypeRef → String
| .simple element dimensions _ =>
    element ++ Name.brackets dimensions
| .wildcard _ _ => "?"

/- A bare primitive name. -/
def isPrimitive : TypeRef → Bool
| .simple element 0 _ => Name.isPrimitive element
| _ => false

/- A named type with at least one array dimension. -/
def isArray : TypeRef → Bool
| .simple _ dimensions _ => dimensions != 0
| .wildcard _ _ => false

/- A named type with more dimensions; wildcards have none. -/
def addDimensions
    (count : Nat) : TypeRef → TypeRef
| .simple element dimensions arguments =>
    .simple element (dimensions + count) arguments
| .wildcard relation bounds => .wildcard relation bounds

end TypeRef

end DeclaredApi

------------------------------------------------------------
-- Well-Formed References
------------------------------------------------------------

namespace DeclaredApi

namespace TypeRef

mutual

/-
  Element names are dotted, primitive names carry no
  arguments, and a wildcard has at least one bound, none of
  which is a wildcard.
-/
def WellFormed : TypeRef → Prop
| .simple element _ arguments =>
    Name.isDotted element = true ∧
      (Name.isPrimitive element = true → arguments = []) ∧
      AllWellFormed arguments
| .wildcard _ bounds =>
    bounds ≠ [] ∧
      (∀ b ∈ bounds, b.isWildcard = false) ∧
      AllWellFormed bounds

/- Every reference of a list is well formed. -/
def AllWellFormed : List TypeRef → Prop
| [] => True
| r :: rs => WellFormed r ∧ AllWellFormed rs

end

mutual

/- How deep type arguments are nested in a reference. -/
def nesting : TypeRef → Nat
| .simple _ _ [] => 0
| .simple _ _ (a :: as) => 1 + nestingAll (a :: as)
| .wildcard _ bounds => nestingAll bounds

/- The deepest nesting in a list of references. -/
def nestingAll : List TypeRef → Nat
| [] => 0
| r :: rs => max (nesting r) (nestingAll rs)

end

end TypeRef

end DeclaredApi
