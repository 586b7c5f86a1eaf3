import DeclaredApi.Classifier
import DeclaredApi.Proofs.Action
import DeclaredApi.Proofs.Memo
import DeclaredApi.Proofs.Name.Dimensions

/-
  Decisions of the classifier.

  A base is concrete if its element name is primitive or the
  probe confirms it.  A decision that is remembered was made
  by the probe in place, so remembering makes no difference
  to the answers.

  Main declarations:
    * `Probe.regards`
    * `Classifier.Sound`
    * `Classifier.yields_isConcrete`
    * `Classifier.yields_isVariable`
-/

------------------------------------------------------------
-- Decisions of a Probe
------------------------------------------------------------

namespace DeclaredApi

/- A base is concrete by a probe, without any memory. -/
def Probe.regards
    (probe : Probe)
    (base : String) : Bool :=
  Name.isPrimitiveFamily base ||
    probe.confirms (Name.splitDimensions base).1

/- A base is regarded as its element name is. -/
theorem Probe.regards_element
    {base : String}
    (probe : Probe)
    (hBase : Name.isBase base = true) :
    probe.regards (Name.splitDimensions base).1 =
      probe.regards base := by
  have hSplit :
      Name.splitDimensions (Name.splitDimensions base).1 =
        ((Name.splitDimensions base).1, 0) := by
    simpa [Name.brackets] using
      Name.splitDimensions_append_brackets hBase 0
  unfold regards Name.isPrimitiveFamily
  rw [hSplit]

namespace Classifier

/- A classifier has a probe and remembers its decisions. -/
structure Sound
    (probe : Probe)
    (c : Classifier) : Prop where
  probe_eq : c.probe = probe
  decided :
    ∀ base decision,
      c.decisions.find? base = some decision →
        decision =
          probe.confirms (Name.splitDimensions base).1

/- Without decisions there is nothing to be wrong about. -/
theorem sound_forget
    (c : Classifier) :
    Sound c.probe c.forget where
  probe_eq := rfl
  decided := by
    intro base decision hFind
    cases hFind

theorem sound_install
    (probe : Probe)
    (c : Classifier) :
    Sound probe (c.install probe) where
  probe_eq := rfl
  decided := by
    intro base decision hFind
    cases hFind

end Classifier

end DeclaredApi

------------------------------------------------------------
-- Answers
------------------------------------------------------------

namespace DeclaredApi

namespace Classifier

open DeclaredApi.Action

variable {probe : Probe}
variable {c : Classifier}

/- Asking gives the answer of the probe and logs the call. -/
theorem yields_ask
    (base : String) :
    Yields (Sound probe)
      (probe.confirms (Name.splitDimensions base).1)
      (ask base) := by
  rintro c ⟨rfl, hDecided⟩
  unfold ask
  refine ⟨rfl, ?_⟩
  simp only
  split
  · exact ⟨rfl, hDecided⟩
  · exact ⟨rfl, hDecided⟩

/- What is remembered is the answer of the probe. -/
theorem Sound.remember
    (base : String)
    (hSound : Sound probe c) :
    let answer := probe.confirms (Name.splitDimensions base).1
    let stored := c.decisions.putIfAbsent base answer
    stored.1 = answer ∧
      Sound probe { c with decisions := stored.2 } := by
  intro answer stored
  have hSound' : Sound probe { c with decisions := stored.2 } :=
    { probe_eq := hSound.probe_eq
      decided := by
        intro other decision hFind
        rcases Memo.find?_of_find?_putIfAbsent hFind with
          hOld | ⟨rfl, rfl⟩
        · exact hSound.decided other decision hOld
        · rfl }
  refine ⟨?_, hSound'⟩
  exact hSound'.decided base stored.1
    (Memo.find?_putIfAbsent_self base answer)

/- Each answer is the one of the probe. -/
theorem yields_isConcrete
    (base : String) :
    Yields (Sound probe) (probe.regards base)
      (isConcrete base) := by
  intro c hSound
  unfold isConcrete Probe.regards
  cases hFamily : Name.isPrimitiveFamily base with
  | true => exact ⟨rfl, hSound⟩
  | false =>
      simp only [Bool.false_eq_true, if_false, Bool.false_or]
      cases hFind : c.decisions.find? base with
      | some decision =>
          exact ⟨hSound.decided base decision hFind,
            hSound.probe_eq, hSound.decided⟩
      | none =>
          have hCounted :
              Sound probe
                { c with decisions := c.decisions.countMiss } :=
            ⟨hSound.probe_eq, hSound.decided⟩
          rcases yields_ask base _ hCounted with
            ⟨hAnswer, hAsked⟩
          simp only [hAnswer]
          exact hAsked.remember base

theorem yields_isVariable
    (base : String) :
    Yields (Sound probe) (!probe.regards base)
      (isVariable base) :=
  (yields_isConcrete base).bind (yields_pure _)

end Classifier

end DeclaredApi
