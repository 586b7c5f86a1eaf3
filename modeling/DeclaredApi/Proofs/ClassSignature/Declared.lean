import DeclaredApi.Proofs.ClassSignature.Description
import DeclaredApi.Proofs.Resolution.Declared

/-
  Description of classes with declared variables.

  The description of a class reports what the resolution of
  its types reports.  So when none of them has an undeclared
  variable, neither has the description.

  Main declarations:
    * `DescribeError.IsUndeclared`
    * `Description.avoids_resolveAt`
    * `Description.avoids_describe`
-/

------------------------------------------------------------
-- Types at Paths
------------------------------------------------------------

namespace DeclaredApi

/- The report of an undeclared variable in a class. -/
def DescribeError.IsUndeclared (e : DescribeError) : Prop :=
  (∃ path owner cause, e = .undeclared path owner cause) ∨
    ∃ cause, e = .unresolved (.undeclared cause)

namespace Description

open DescribeError

variable {d : Description}

/- A description of a type reports what resolution reports. -/
theorem avoids_resolveAt
    {member : Option MemberDecl}
    {t : DeclaredType}
    (path : String)
    (hResolve :
      Action.Avoids ResolveError.IsUndeclared
        ((d.resolution member).resolve t)) :
    Action.Avoids IsUndeclared (d.resolveAt member path t) := by
  intro interner
  have hRun := hResolve interner
  unfold resolveAt
  revert hRun
  rcases (d.resolution member).resolve t interner with
    ⟨result, interner'⟩
  intro hRun
  cases result with
  | ok reference => exact Result.avoids_ok _ _
  | error e =>
      have hGood := hRun e rfl
      cases e with
      | undeclared cause => exact absurd ⟨cause, rfl⟩ hGood
      | invalid _ | unsupportedType | wildcardComponent
      | wildcardBound =>
          apply Result.avoids_error
          rintro (⟨path, owner, cause, hEq⟩ | ⟨cause, hEq⟩)
          · cases hEq
          · cases hEq

/- So does the description of the class. -/
theorem avoids_describe
    {c : ClassDecl}
    (hResolve :
      ∀ member t,
        c.Declares member t →
          Action.Avoids ResolveError.IsUndeclared
            ((d.resolution member).resolve t)) :
    Action.Avoids IsUndeclared (d.describe c) :=
  holds_describe (Action.compositional_avoids IsUndeclared)
    (fun member t hDeclares path =>
      avoids_resolveAt path (hResolve member t hDeclares))

end Description

end DeclaredApi
