/-
  Stable insertion sort.

  Elements that the order does not tell apart keep their
  places relative to each other.

  Key definitions include:
    * `Sorting.insert`
    * `Sorting.sort`
    * `Sorting.listLess`
    * `Sorting.keyLess`
-/

------------------------------------------------------------
-- Sorting
------------------------------------------------------------

namespace DeclaredApi

namespace Sorting

variable {α : Type}

/- Insert an element before the first one not less than it. -/
def insert
    (less : α → α → Bool)
    (a : α) : List α → List α
| [] => [a]
| b :: bs =>
    if less b a then
      b :: insert less a bs
    else
      a :: b :: bs

/- The elements of a list in order. -/
def sort
    (less : α → α → Bool) : List α → List α
| [] => []
| a :: as => insert less a (sort less as)

end Sorting

end DeclaredApi

------------------------------------------------------------
-- Orders
------------------------------------------------------------

namespace DeclaredApi

namespace Sorting

/- Texts in the order of their code points. -/
def textLess (a b : String) : Bool :=
  decide (a < b)

/- Lists of texts, compared item by item. -/
def listLess : List String → List String → Bool
| _, [] => false
| [], _ :: _ => true
| a :: as, b :: bs =>
    if a = b then listLess as bs else textLess a b

/- Elements in the order of a text that each one has. -/
def keyLess
    {α : Type}
    (key : α → String)
    (a b : α) : Bool :=
  textLess (key a) (key b)

end Sorting

end DeclaredApi
