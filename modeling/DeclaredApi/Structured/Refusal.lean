import DeclaredApi.Proofs.Structured.Offences

/-
  References of structured forms.

  Validation accepts whatever is read from a form, so reading
  a form ends with a reference or with a refusal of the form.

  Key definitions include:
    * `Structured.ofValid`
    * `Structured.read`
-/

------------------------------------------------------------
-- References and Refusals
------------------------------------------------------------

namespace DeclaredApi

namespace Structured

/- Validation never fails while a form is read. -/
theorem readNode_ne_invalid
    (config : Config)
    (path : String)
    (node : Json)
    (interner : Interner)
    (e : TypeRef.BuildError) :
    (readNode config path node interner).1 ≠
      .error (.invalid e) :=
  fun hError =>
    blamed_of_readNode node interner path none (.invalid e)
      hError

/- A result that is no failure of validation. -/
def ofValid
    {α : Type}
    (result : Except Failure α)
    (hValid : ∀ e, result ≠ .error (.invalid e)) :
    Except StructuredError α :=
  match result, hValid with
  | .ok a, _ => .ok a
  | .error (.refused e), _ => .error e
  | .error (.invalid e), hValid => absurd rfl (hValid e)

/- The reference of a form, or why the form is refused. -/
def read
    (config : Config)
    (path : String)
    (node : Json) :
    ExceptT StructuredError (StateM Interner) TypeRef :=
  fun interner =>
    let run := readNode config path node interner
    (ofValid run.1 (readNode_ne_invalid config path node interner),
      run.2)

end Structured

end DeclaredApi
