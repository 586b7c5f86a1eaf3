import Mathlib.Logic.Basic
import DeclaredApi.Proofs.Classifier.Probing
import DeclaredApi.Session

/-
  Answers about bases.

  A session is asked whether bases are concrete or variables,
  while probes are installed and caches are reset in between.
  All answers are those of the probe in place, without any
  memory.  What is remembered shows in the calls of the probe
  alone: since the last change it was called once for each
  base that is not primitive.

  Main declarations:
    * `Session.Inquiry`
    * `Session.serveAll`
    * `Session.ruleAll`
    * `Session.asked_serveAll`
    * `Session.classification_is_transparent`
-/

------------------------------------------------------------
-- Inquiries
------------------------------------------------------------

namespace DeclaredApi

namespace Session

/- A query about a base, or a change of what is remembered. -/
inductive Inquiry where
| isConcrete (base : String)
| isVariable (base : String)
| install (probe : Probe)
| reset

namespace Inquiry

/- The base that a query is about. -/
def base? : Inquiry → Option String
| .isConcrete base => some base
| .isVariable base => some base
| .install _ => none
| .reset => none

/- What a session answers, and what it is afterwards. -/
def serve : Inquiry → Session → Option Bool × Session
| .isConcrete base, s => (Session.isConcrete base s).map some id
| .isVariable base, s => (Session.isVariable base s).map some id
| .install probe, s => (none, (Session.install probe s).2)
| .reset, s => (none, (Session.reset s).2)

/- What a probe answers, and the probe that is next. -/
def rule : Inquiry → Probe → Option Bool × Probe
| .isConcrete base, probe => (some (probe.regards base), probe)
| .isVariable base, probe => (some (!probe.regards base), probe)
| .install other, _ => (none, other)
| .reset, probe => (none, probe)

end Inquiry

/- A session answers one inquiry after the other. -/
def serveAll :
    List Inquiry → Session → List (Option Bool) × Session
| [], s => ([], s)
| inquiry :: inquiries, s =>
    let (answer, next) := inquiry.serve s
    let (answers, after) := serveAll inquiries next
    (answer :: answers, after)

/- So do the probes, without remembering anything. -/
def ruleAll :
    List Inquiry → Probe → List (Option Bool) × Probe
| [], probe => ([], probe)
| inquiry :: inquiries, probe =>
    let (answer, next) := inquiry.rule probe
    let (answers, after) := ruleAll inquiries next
    (answer :: answers, after)

theorem serveAll_append
    (earlier later : List Inquiry)
    (s : Session) :
    (serveAll (earlier ++ later) s).2 =
      (serveAll later (serveAll earlier s).2).2 := by
  induction earlier generalizing s with
  | nil => rfl
  | cons inquiry earlier ih => exact ih (inquiry.serve s).2

end Session

end DeclaredApi

------------------------------------------------------------
-- Answers of Probes
------------------------------------------------------------

namespace DeclaredApi

namespace Session

open Classifier

variable {probe : Probe}
variable {log bases : List String}
variable {s : Session}

/- The classifier of a session answers. -/
@[simp]
theorem fst_onClassifier
    {α : Type}
    (run : StateM Classifier α)
    (s : Session) :
    (onClassifier run s).1 = (run s.classifier).1 :=
  rfl

/- And it is replaced by the one after the answer. -/
@[simp]
theorem classifier_onClassifier
    {α : Type}
    (run : StateM Classifier α)
    (s : Session) :
    (onClassifier run s).2.classifier = (run s.classifier).2 :=
  rfl

/- A base is concrete as the probe regards it. -/
theorem asked_concrete
    (hAsked : Asked probe log bases s.classifier)
    (base : String) :
    (isConcrete base s).1 = probe.regards base ∧
      Asked probe log (bases ++ [base])
        (isConcrete base s).2.classifier := by
  rw [isConcrete, fst_onClassifier, classifier_onClassifier]
  exact asked_isConcrete hAsked base

/- Otherwise it is taken for a variable. -/
theorem asked_variable
    (hAsked : Asked probe log bases s.classifier)
    (base : String) :
    (isVariable base s).1 = !probe.regards base ∧
      Asked probe log (bases ++ [base])
        (isVariable base s).2.classifier := by
  rcases asked_isConcrete hAsked base with ⟨hAnswer, hAfter⟩
  simp only [isVariable, fst_onClassifier,
    classifier_onClassifier, Classifier.isVariable_eq, hAnswer,
    true_and]
  exact hAfter

/- A query is answered by the probe, and adds its base. -/
theorem asked_query
    {inquiry : Inquiry}
    {base : String}
    (hAsked : Asked probe log bases s.classifier)
    (hBase : inquiry.base? = some base) :
    (inquiry.serve s).1 = (inquiry.rule probe).1 ∧
      Asked (inquiry.rule probe).2 log (bases ++ [base])
        (inquiry.serve s).2.classifier := by
  cases inquiry with
  | isConcrete queried =>
      cases hBase
      rcases asked_concrete hAsked base with ⟨hAnswer, hAfter⟩
      simp only [Inquiry.serve, Inquiry.rule, Prod.map_fst,
        Prod.map_snd, hAnswer, id_eq, true_and]
      exact hAfter
  | isVariable queried =>
      cases hBase
      rcases asked_variable hAsked base with ⟨hAnswer, hAfter⟩
      simp only [Inquiry.serve, Inquiry.rule, Prod.map_fst,
        Prod.map_snd, hAnswer, id_eq, true_and]
      exact hAfter
  | install other => cases hBase
  | reset => cases hBase

/- After a change nothing has been asked yet. -/
theorem asked_change
    {inquiry : Inquiry}
    (hProbe : s.classifier.probe = probe)
    (hChange : inquiry.base? = none) :
    (inquiry.serve s).1 = (inquiry.rule probe).1 ∧
      Asked (inquiry.rule probe).2
        (inquiry.serve s).2.classifier.calls []
        (inquiry.serve s).2.classifier := by
  cases inquiry with
  | isConcrete base => cases hChange
  | isVariable base => cases hChange
  | install other => exact ⟨rfl, asked_of_empty rfl rfl⟩
  | reset => exact ⟨rfl, asked_of_empty hProbe rfl⟩

/-
  The answers of a session are those of the probes, and the
  probe afterwards has been asked about some bases.
-/
theorem serveAll_eq_ruleAll
    (inquiries : List Inquiry)
    (hAsked : Asked probe log bases s.classifier) :
    (serveAll inquiries s).1 = (ruleAll inquiries probe).1 ∧
      ∃ log bases,
        Asked (ruleAll inquiries probe).2 log bases
          (serveAll inquiries s).2.classifier := by
  induction inquiries generalizing probe log bases s with
  | nil => exact ⟨rfl, log, bases, hAsked⟩
  | cons inquiry inquiries ih =>
      rw [serveAll, ruleAll]
      cases hBase : inquiry.base? with
      | some base =>
          rcases asked_query hAsked hBase with ⟨hAnswer, hNext⟩
          rcases ih hNext with ⟨hAnswers, hAfter⟩
          exact ⟨congrArg₂ List.cons hAnswer hAnswers, hAfter⟩
      | none =>
          rcases asked_change hAsked.probe_eq hBase with
            ⟨hAnswer, hNext⟩
          rcases ih hNext with ⟨hAnswers, hAfter⟩
          exact ⟨congrArg₂ List.cons hAnswer hAnswers, hAfter⟩

/- Queries in a row add their bases in this order. -/
theorem asked_queries
    {queries : List Inquiry}
    (hAsked : Asked probe log bases s.classifier)
    (hQueries : ∀ query ∈ queries, query.base? ≠ none) :
    Asked (ruleAll queries probe).2 log
      (bases ++ queries.filterMap Inquiry.base?)
      (serveAll queries s).2.classifier := by
  induction queries generalizing probe bases s with
  | nil => simpa [serveAll, ruleAll] using hAsked
  | cons query queries ih =>
      rw [List.forall_mem_cons] at hQueries
      rcases Option.ne_none_iff_exists'.mp hQueries.1 with
        ⟨base, hBase⟩
      have hNext := (asked_query hAsked hBase).2
      rw [List.filterMap_cons_some hBase, List.append_cons]
      exact ih hNext hQueries.2

/- After a change, or at the start, nothing has been asked. -/
theorem asked_of_last_change
    {earlier : List Inquiry}
    (start : Session)
    (hLast : ∀ last ∈ earlier.getLast?, last.base? = none) :
    let before := (serveAll earlier (reset start).2).2
    Asked before.classifier.probe before.classifier.calls []
      before.classifier := by
  intro before
  rcases List.eq_nil_or_concat earlier with
    rfl | ⟨others, last, rfl⟩
  · exact asked_of_empty rfl rfl
  · rw [List.concat_eq_append] at hLast
    have hChange := hLast last List.getLast?_concat
    have hBefore :
        before =
          (last.serve (serveAll others (reset start).2).2).2 := by
      unfold before
      rw [List.concat_eq_append, serveAll_append]
      rfl
    rw [hBefore]
    have hAsked :=
      (asked_change (s := (serveAll others (reset start).2).2)
        rfl hChange).2
    exact hAsked.probe_eq ▸ hAsked

/-
  Classification is transparent.  Whatever is asked of a
  session after a reset, every answer is the one that the
  probe in place gives without any memory: a base is concrete
  if its element is primitive or confirmed by the probe, and
  a probe that fails confirms nothing.  A base is answered
  like itself with more dimensions.  Since the last change of
  the probe or reset, the probe was called once for each base
  that was queried and is not primitive, in the order of
  their first queries, with the element name of the base.
  These are the misses; all other queries of bases that are
  not primitive are hits, and primitive bases do not count.
-/
theorem classification_is_transparent
    (start : Session)
    (inquiries : List Inquiry) :
    let s := (reset start).2
    let after := (serveAll inquiries s).2
    (serveAll inquiries s).1 =
        (ruleAll inquiries s.classifier.probe).1 ∧
      (∀ base dimensions,
        (isConcrete (base ++ Name.brackets dimensions)
            after).1 =
          (isConcrete base after).1 ∧
        (isVariable (base ++ Name.brackets dimensions)
            after).1 =
          (isVariable base after).1) ∧
      ∀ earlier recent,
        inquiries = earlier ++ recent →
          (∀ last ∈ earlier.getLast?, last.base? = none) →
            (∀ query ∈ recent, query.base? ≠ none) →
              let before := (serveAll earlier s).2
              let bases := recent.filterMap Inquiry.base?
              after.classifier.calls =
                  before.classifier.calls ++
                    (if after.classifier.probe.recorded then
                      (probed bases).map (fun base =>
                        (Name.splitDimensions base).1)
                    else
                      []) ∧
                after.classifier.decisions.misses =
                  (probed bases).length ∧
                after.classifier.decisions.hits +
                    after.classifier.decisions.misses =
                  bases.countP
                    (fun base =>
                      !Name.isPrimitiveFamily base) := by
  intro s after
  have hStart :
      Asked s.classifier.probe s.classifier.calls []
        s.classifier :=
    asked_of_empty rfl rfl
  rcases serveAll_eq_ruleAll inquiries hStart with
    ⟨hAnswers, log, bases, hAsked⟩
  refine ⟨hAnswers, ?_, ?_⟩
  · intro base dimensions
    constructor
    · rw [(asked_concrete hAsked _).1,
        (asked_concrete hAsked _).1, Probe.regards_brackets]
    · rw [(asked_variable hAsked _).1,
        (asked_variable hAsked _).1, Probe.regards_brackets]
  · rintro earlier recent rfl hLast hQueries before bases
    have hRecent :=
      asked_queries (asked_of_last_change start hLast) hQueries
    rw [List.nil_append, ← serveAll_append] at hRecent
    refine ⟨?_, hRecent.misses, hRecent.lookups⟩
    rw [hRecent.calls, hRecent.probe_eq]

/- A probe that confirms one name and fails on another. -/
def partialProbe : Probe where
  answer := fun name =>
    if name = "A" then some true
    else if name = "B" then none
    else some false
  recorded := true

/- The probe is installed after a query. -/
def earlierInquiries : List Inquiry :=
  [.isConcrete "B", .install partialProbe]

/- There are four queries of bases that are not primitive. -/
def recentInquiries : List Inquiry :=
  [.isConcrete "A[]", .isVariable "int[]", .isVariable "B",
    .isConcrete "A", .isConcrete "A[]"]

/- The probe is called for the array and for its element. -/
theorem classification_is_transparent_partial :
    let s := (reset {}).2
    let inquiries := earlierInquiries ++ recentInquiries
    let after := (serveAll inquiries s).2
    (serveAll inquiries s).1 =
        [some false, none, some true, some false, some true,
          some true, some true] ∧
      after.classifier.calls = ["A", "B", "A"] ∧
      after.classifier.decisions.misses = 3 ∧
      after.classifier.decisions.hits +
          after.classifier.decisions.misses = 4 := by
  intro s inquiries after
  rcases classification_is_transparent {} inquiries with
    ⟨hAnswers, _, hSince⟩
  have hLast :
      ∀ last ∈ earlierInquiries.getLast?, last.base? = none := by
    simp [earlierInquiries, Inquiry.base?]
  have hQueries :
      ∀ query ∈ recentInquiries, query.base? ≠ none := by
    simp [recentInquiries, Inquiry.base?]
  rcases hSince earlierInquiries recentInquiries rfl hLast
      hQueries with
    ⟨hCalls, hMisses, hLookups⟩
  refine ⟨?_, ?_, ?_, ?_⟩
  · exact hAnswers.trans (by decide +kernel)
  · exact hCalls.trans (by decide +kernel)
  · exact hMisses.trans (by decide +kernel)
  · exact hLookups.trans (by decide +kernel)

end Session

end DeclaredApi
