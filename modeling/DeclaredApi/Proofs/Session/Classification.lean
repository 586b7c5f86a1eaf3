import DeclaredApi.Proofs.ClassSignature.Document
import DeclaredApi.Proofs.Session.History

/-
  Classification after a history.

  Every operation leaves the classifier with decisions of the
  probe that is in place: a new probe comes without decisions
  and a reset forgets them.

  Main declarations:
    * `Session.Decided`
    * `Session.Operation.decided_step`
    * `Session.FollowsReset.decided`
-/

------------------------------------------------------------
-- Decisions of Sessions
------------------------------------------------------------

namespace DeclaredApi

namespace Session

/- What is remembered was decided by the probe in place. -/
def Decided (s : Session) : Prop :=
  Classifier.Sound s.classifier.probe s.classifier

/- Classifying keeps the probe and its decisions. -/
theorem decided_onClassifier
    {α : Type}
    {run : StateM Classifier α}
    {s : Session}
    (hRun :
      ∀ probe, Action.Settles (Classifier.Sound probe) run)
    (hDecided : s.Decided) :
    Decided (onClassifier run s).2 := by
  have hAfter :
      Classifier.Sound s.classifier.probe
        (run s.classifier).2 :=
    (hRun s.classifier.probe).keeps hDecided
  have hProbe :
      (run s.classifier).2.probe = s.classifier.probe :=
    hAfter.probe_eq
  rw [← hProbe] at hAfter
  exact hAfter

end Session

end DeclaredApi

------------------------------------------------------------
-- Runs
------------------------------------------------------------

namespace DeclaredApi

namespace Session

/- Every operation leaves decisions of the probe in place. -/
theorem Operation.decided_step
    {s : Session}
    (op : Operation)
    (hDecided : s.Decided) :
    Decided (op.step s) := by
  cases op with
  | configure config => exact hDecided
  | install probe => exact Classifier.sound_install probe _
  | reset => exact Classifier.sound_forget _
  | parse text => exact hDecided
  | parseValue value => exact hDecided
  | intern reference hWellFormed => exact hDecided
  | readStructured path node => exact hDecided
  | project declared reference =>
      exact decided_onClassifier
        (fun _ => (Structured.yields_project _).settles)
        hDecided
  | isConcrete base =>
      exact decided_onClassifier
        (fun _ => (Classifier.yields_isConcrete _).settles)
        hDecided
  | isVariable base =>
      exact decided_onClassifier
        (fun _ => (Classifier.yields_isVariable _).settles)
        hDecided
  | isVariableRef reference =>
      rcases reference with ⟨element, dimensions, arguments⟩ | _
      · cases arguments with
        | nil =>
            exact decided_onClassifier
              (fun _ => (Classifier.yields_isVariable _).settles)
              hDecided
        | cons a as => exact hDecided
      · exact hDecided
  | register c => exact hDecided
  | resolve scope member erases t => exact hDecided
  | describe erases c => exact hDecided
  | classDocument signature =>
      exact decided_onClassifier
        (fun _ => ClassDocument.settles_ofSignature _ _ _)
        hDecided
  | document version signatures =>
      exact decided_onClassifier
        (fun _ => ApiDocument.settles_build _ _ _ _) hDecided
  | analyze erases installs entries =>
      have hAnalyze :
          Action.Returns Decided (fun _ => True)
            (Session.analyze erases installs entries) :=
        analyze_keeps installs entries
          (fun probe _ _ => Classifier.sound_install probe _)
          (fun _ _ hDecided => hDecided)
          (fun _ _ hDecided => ⟨hDecided, fun _ _ => trivial⟩)
      exact (hAnalyze s hDecided).1

theorem decided_run
    {s : Session}
    (ops : List Operation)
    (hDecided : s.Decided) :
    Decided (run ops s) := by
  induction ops generalizing s with
  | nil => exact hDecided
  | cons op ops ih => exact ih (op.decided_step hDecided)

/- So it is after any history since a reset. -/
theorem FollowsReset.decided
    {s : Session}
    (hReset : s.FollowsReset) :
    s.Decided := by
  rcases hReset with ⟨start, ops, _, rfl⟩
  exact decided_run ops (Classifier.sound_forget _)

end Session

end DeclaredApi
