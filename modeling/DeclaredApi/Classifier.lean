import DeclaredApi.Memo
import DeclaredApi.Name

/-
  Classification of bare type names.

  Primitive names and their arrays are concrete.  Any other
  name is concrete exactly when the probe confirms it, and
  is taken for a type variable otherwise; the answer for a
  base is remembered until the probe changes.

  Key definitions include:
    * `Probe`
    * `Probe.qualified`
    * `Probe.confirms`
    * `Classifier`
    * `Classifier.install`
    * `Classifier.isConcrete`
    * `Classifier.isVariable`
-/

------------------------------------------------------------
-- Probes
------------------------------------------------------------

namespace DeclaredApi

/-
  A probe answers whether a name is a declared type, or gives
  no answer because it fails.  The calls of a recorded probe
  are kept in a log.
-/
structure Probe where
  answer : String → Option Bool
  recorded : Bool := false

namespace Probe

/- Names with a package are concrete. -/
def qualified : Probe :=
  { answer := fun name => some (name.toList.contains '.') }

/- A probe that fails confirms nothing. -/
def confirms
    (probe : Probe)
    (name : String) : Bool :=
  (probe.answer name).getD false

end Probe

end DeclaredApi

------------------------------------------------------------
-- Classifiers
------------------------------------------------------------

namespace DeclaredApi

/-
  The probe in use, the decisions made with it by base, and
  the log of recorded calls.
-/
structure Classifier where
  probe : Probe := .qualified
  decisions : Memo String Bool := {}
  calls : List String := []

namespace Classifier

/- Put a probe in place and forget all decisions. -/
def install
    (probe : Probe)
    (c : Classifier) : Classifier :=
  { c with probe := probe, decisions := {} }

/- Forget all decisions. -/
def forget (c : Classifier) : Classifier :=
  { c with decisions := {} }

/- Ask the probe about the element name of a base. -/
def ask
    (base : String)
    (c : Classifier) : Bool × Classifier :=
  let element := (Name.splitDimensions base).1
  (c.probe.confirms element,
    if c.probe.recorded then
      { c with calls := c.calls ++ [element] }
    else
      c)

/- A base that denotes a concrete type. -/
def isConcrete
    (base : String) : StateM Classifier Bool :=
  fun c =>
    if Name.isPrimitiveFamily base then
      (true, c)
    else
      match c.decisions.find? base with
      | some decision =>
          (decision,
            { c with decisions := c.decisions.countHit })
      | none =>
          let counted :=
            { c with decisions := c.decisions.countMiss }
          let (decision, asked) := ask base counted
          let (stored, decisions) :=
            asked.decisions.putIfAbsent base decision
          (stored, { asked with decisions := decisions })

/- A base that is taken for a type variable. -/
def isVariable
    (base : String) : StateM Classifier Bool := do
  let concrete ← isConcrete base
  pure (!concrete)

/- Empty the log of calls and return it. -/
def takeCalls : StateM Classifier (List String) :=
  fun c => (c.calls, { c with calls := [] })

end Classifier

end DeclaredApi
