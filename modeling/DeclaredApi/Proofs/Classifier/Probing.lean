import DeclaredApi.Proofs.Classifier.Decisions

/-
  Calls of probes.

  A probe is called for the first query of every base that is
  not primitive, with the element name of the base.  Until
  the probe changes or the decisions are forgotten, the bases
  that were queried determine all that the classifier has
  remembered, counted and recorded.

  Main declarations:
    * `Probe.regards_brackets`
    * `Classifier.probed`
    * `Classifier.Asked`
    * `Classifier.asked_of_empty`
    * `Classifier.asked_isConcrete`
-/

------------------------------------------------------------
-- Bases of the Same Element
------------------------------------------------------------

namespace DeclaredApi

/- A base with more dimensions is regarded as it is. -/
theorem Probe.regards_brackets
    (probe : Probe)
    (base : String)
    (dimensions : Nat) :
    probe.regards (base ++ Name.brackets dimensions) =
      probe.regards base := by
  unfold regards Name.isPrimitiveFamily
  rw [Name.splitDimensions_brackets]

end DeclaredApi

------------------------------------------------------------
-- Probed Bases
------------------------------------------------------------

namespace DeclaredApi

namespace Classifier

/-
  The bases that a probe is called for, in the order of their
  first queries.
-/
def probed (bases : List String) : List String :=
  (bases.filter
    (fun base => !Name.isPrimitiveFamily base)).eraseDups

theorem mem_probed
    {bases : List String}
    {base : String} :
    base ∈ probed bases ↔
      base ∈ bases ∧ Name.isPrimitiveFamily base = false := by
  simp [probed, List.mem_eraseDups]

/- A base is new to the probe when it is queried first. -/
theorem probed_concat
    (bases : List String)
    (base : String) :
    probed (bases ++ [base]) =
      if Name.isPrimitiveFamily base ∨ base ∈ probed bases then
        probed bases
      else
        probed bases ++ [base] := by
  simp only [mem_probed]
  unfold probed
  rw [List.filter_append, List.eraseDups_append]
  cases hFamily : Name.isPrimitiveFamily base with
  | true => simp [hFamily, List.removeAll]
  | false =>
      by_cases hMem : base ∈ bases
      · simp [hFamily, hMem, List.removeAll]
      · simp [hFamily, hMem, List.removeAll,
          List.eraseDups_cons]

/- Each base is looked up with its own decision. -/
theorem lookup_decisions
    (decide : String → Bool)
    (bases : List String)
    (base : String) :
    (bases.map (fun b => (b, decide b))).lookup base =
      if base ∈ bases then some (decide base) else none := by
  induction bases with
  | nil => rfl
  | cons b bases ih =>
      rw [List.map_cons, List.lookup_cons, ih]
      by_cases hSame : base = b
      · simp [hSame]
      · simp [hSame, beq_eq_false_iff_ne.mpr hSame]

end Classifier

end DeclaredApi

------------------------------------------------------------
-- Queries
------------------------------------------------------------

namespace DeclaredApi

namespace Classifier

variable {c : Classifier}
variable {base : String}

/- A base is a variable when it is not concrete. -/
theorem isVariable_eq
    (base : String)
    (c : Classifier) :
    isVariable base c =
      (!(isConcrete base c).1, (isConcrete base c).2) :=
  rfl

/- Primitive bases and their arrays leave no trace. -/
theorem isConcrete_of_family
    (hFamily : Name.isPrimitiveFamily base = true) :
    isConcrete base c = (true, c) := by
  rw [isConcrete, if_pos hFamily]

/- What is remembered is counted as a hit. -/
theorem isConcrete_of_some
    {decision : Bool}
    (hFamily : Name.isPrimitiveFamily base = false)
    (hFind : c.decisions.find? base = some decision) :
    isConcrete base c =
      (decision,
        { c with decisions := c.decisions.countHit }) := by
  rw [isConcrete, hFind]
  simp [hFamily]

/- A recorded probe has one more call. -/
theorem ask_eq
    (base : String)
    (c : Classifier) :
    ask base c =
      (c.probe.confirms (Name.splitDimensions base).1,
        { c with
          calls :=
            c.calls ++
              if c.probe.recorded then
                [(Name.splitDimensions base).1]
              else
                [] }) := by
  unfold ask
  cases c.probe.recorded with
  | true => rfl
  | false => simp only [Bool.false_eq_true, if_false, List.append_nil]

/- Otherwise the probe is called, and its answer remembered. -/
theorem isConcrete_of_none
    (hFamily : Name.isPrimitiveFamily base = false)
    (hFind : c.decisions.find? base = none) :
    let element := (Name.splitDimensions base).1
    let answer := c.probe.confirms element
    isConcrete base c =
      (answer,
        { probe := c.probe
          decisions :=
            { entries := c.decisions.entries ++ [(base, answer)]
              hits := c.decisions.hits
              misses := c.decisions.misses + 1 }
          calls :=
            c.calls ++
              if c.probe.recorded then [element] else [] }) := by
  intro element answer
  have hCounted : c.decisions.countMiss.find? base = none := hFind
  rw [isConcrete, hFind]
  simp only [hFamily, Bool.false_eq_true, if_false, ask_eq,
    Memo.putIfAbsent, hCounted]
  rfl

/-
  A probe has been asked about the bases that were queried:
  once about each that it was called for, with the element
  name.  Bases of primitive elements are not even counted.
-/
structure Asked
    (probe : Probe)
    (log bases : List String)
    (c : Classifier) : Prop where
  probe_eq : c.probe = probe
  entries :
    c.decisions.entries =
      (probed bases).map (fun base =>
        (base, probe.confirms (Name.splitDimensions base).1))
  calls :
    c.calls =
      log ++
        if probe.recorded then
          (probed bases).map (fun base =>
            (Name.splitDimensions base).1)
        else
          []
  misses : c.decisions.misses = (probed bases).length
  lookups :
    c.decisions.hits + c.decisions.misses =
      bases.countP (fun base => !Name.isPrimitiveFamily base)

variable {probe : Probe}
variable {log bases : List String}

/- Without decisions no base has been queried. -/
theorem asked_of_empty
    (hProbe : c.probe = probe)
    (hEmpty : c.decisions = {}) :
    Asked probe c.calls [] c where
  probe_eq := hProbe
  entries := by
    rw [hEmpty]
    rfl
  calls := by
    cases probe.recorded <;> exact (List.append_nil _).symm
  misses := by
    rw [hEmpty]
    rfl
  lookups := by
    rw [hEmpty]
    rfl

/- The decisions are those of the probe on probed bases. -/
theorem Asked.find?_decisions
    (hAsked : Asked probe log bases c)
    (base : String) :
    c.decisions.find? base =
      if base ∈ probed bases then
        some (probe.confirms (Name.splitDimensions base).1)
      else
        none := by
  rw [Memo.find?, hAsked.entries]
  exact lookup_decisions
    (fun b => probe.confirms (Name.splitDimensions b).1) _ base

/- A primitive base adds nothing. -/
theorem Asked.family
    (hAsked : Asked probe log bases c)
    (hFamily : Name.isPrimitiveFamily base = true) :
    Asked probe log (bases ++ [base]) c := by
  have hProbed := probed_concat bases base
  rw [hFamily, if_pos (Or.inl rfl)] at hProbed
  exact
    { probe_eq := hAsked.probe_eq
      entries := by rw [hProbed, hAsked.entries]
      calls := by rw [hProbed, hAsked.calls]
      misses := by rw [hProbed, hAsked.misses]
      lookups := by
        rw [hAsked.lookups, List.countP_append,
          List.countP_singleton, hFamily]
        rfl }

/- A base that was queried before adds a hit. -/
theorem Asked.hit
    (hAsked : Asked probe log bases c)
    (hFamily : Name.isPrimitiveFamily base = false)
    (hOld : base ∈ probed bases) :
    Asked probe log (bases ++ [base])
      { c with decisions := c.decisions.countHit } := by
  have hProbed := probed_concat bases base
  rw [if_pos (Or.inr hOld)] at hProbed
  exact
    { probe_eq := hAsked.probe_eq
      entries := by
        rw [hProbed]
        exact hAsked.entries
      calls := by
        rw [hProbed]
        exact hAsked.calls
      misses := by
        rw [hProbed]
        exact hAsked.misses
      lookups := by
        rw [List.countP_append, List.countP_singleton, hFamily,
          ← hAsked.lookups]
        exact Nat.add_right_comm _ 1 _ }

/- A new base adds a decision, a call and a miss. -/
theorem Asked.miss
    (hAsked : Asked probe log bases c)
    (hFamily : Name.isPrimitiveFamily base = false)
    (hNew : base ∉ probed bases) :
    let element := (Name.splitDimensions base).1
    Asked probe log (bases ++ [base])
      { probe := c.probe
        decisions :=
          { entries :=
              c.decisions.entries ++
                [(base, c.probe.confirms element)]
            hits := c.decisions.hits
            misses := c.decisions.misses + 1 }
        calls :=
          c.calls ++
            if c.probe.recorded then [element] else [] } := by
  intro element
  have hProbed := probed_concat bases base
  rw [hFamily, if_neg (by simpa using hNew)] at hProbed
  rw [hAsked.probe_eq]
  exact
    { probe_eq := rfl
      entries := by
        rw [hProbed, List.map_append, ← hAsked.entries]
        rfl
      calls := by
        rw [hProbed, hAsked.calls]
        cases probe.recorded with
        | true => simp [element]
        | false => simp
      misses := by
        rw [hProbed, List.length_append, ← hAsked.misses]
        rfl
      lookups := by
        rw [List.countP_append, List.countP_singleton, hFamily,
          ← hAsked.lookups]
        rfl }

/- A query is answered by the probe, and adds its base. -/
theorem asked_isConcrete
    (hAsked : Asked probe log bases c)
    (base : String) :
    (isConcrete base c).1 = probe.regards base ∧
      Asked probe log (bases ++ [base])
        (isConcrete base c).2 := by
  have hFind := hAsked.find?_decisions base
  unfold Probe.regards
  cases hFamily : Name.isPrimitiveFamily base with
  | true =>
      rw [isConcrete_of_family hFamily]
      exact ⟨rfl, hAsked.family hFamily⟩
  | false =>
      by_cases hOld : base ∈ probed bases
      · rw [if_pos hOld] at hFind
        rw [isConcrete_of_some hFamily hFind]
        exact ⟨rfl, hAsked.hit hFamily hOld⟩
      · rw [if_neg hOld] at hFind
        rw [isConcrete_of_none hFamily hFind]
        refine ⟨?_, hAsked.miss hFamily hOld⟩
        rw [hAsked.probe_eq, Bool.false_or]

end Classifier

end DeclaredApi
