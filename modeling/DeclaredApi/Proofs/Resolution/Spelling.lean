import DeclaredApi.Proofs.Declaration.Spelling
import DeclaredApi.Proofs.Session.History
import DeclaredApi.Proofs.TypeRef.Validation

/-
  Resolution of declared types by their spelling.

  Without erasure, the reference of a declared type is what
  the grammar reads from its spelling, unless one of the
  variables in it has no reference.  The first of them, from
  left to right, is then what is reported.

  Main declarations:
    * `Resolution.fault?`
    * `Resolution.outcome`
    * `Resolution.reference_eq_outcome`
    * `Session.resolve_agrees_with_spelling`
    * `Session.visible_variable_refused`
-/

------------------------------------------------------------
-- Faults of Variables
------------------------------------------------------------

namespace DeclaredApi

namespace Resolution

/- Why a variable has no reference without erasure. -/
def fault?
    (r : Resolution)
    (v : String) : Option ResolveError :=
  if r.registry.declares r.scope r.member v then
    if Name.isBase v then none else some (.invalid .badBase)
  else
    some (.undeclared
      ⟨v, Registry.contextName r.scope r.member⟩)

/- A value, unless one of some variables has a fault. -/
def outcome
    {α : Type}
    (r : Resolution)
    (vs : List String)
    (value : α) : Except ResolveError α :=
  match vs.findSome? r.fault? with
  | some e => .error e
  | none => .ok value

variable {r : Resolution}
variable {α β : Type}

theorem outcome_nil
    (value : α) :
    r.outcome [] value = .ok value :=
  rfl

/- Faults are met in the order of computations. -/
theorem outcome_bind
    {vs ws : List String}
    {a : α}
    {b : β}
    {f : α → Except ResolveError β}
    (hNext : f a = r.outcome ws b) :
    (r.outcome vs a >>= f) = r.outcome (vs ++ ws) b := by
  unfold outcome at hNext ⊢
  rw [List.findSome?_append]
  cases vs.findSome? r.fault? with
  | none => exact hNext
  | some e => rfl

/- What always succeeds meets no more faults. -/
theorem outcome_bind_ok
    {vs : List String}
    {a : α}
    {b : β}
    {f : α → Except ResolveError β}
    (hNext : f a = .ok b) :
    (r.outcome vs a >>= f) = r.outcome vs b := by
  have hBind :
      (r.outcome vs a >>= f) = r.outcome (vs ++ []) b :=
    outcome_bind (hNext.trans (outcome_nil b).symm)
  rwa [List.append_nil] at hBind

theorem outcome_of_no_fault
    {vs : List String}
    (value : α)
    (hNone : ∀ v ∈ vs, r.fault? v = none) :
    r.outcome vs value = .ok value := by
  unfold outcome
  rw [List.findSome?_eq_none_iff.mpr hNone]

/- The first fault is the outcome. -/
theorem outcome_of_first_fault
    {before after : List String}
    {v : String}
    {e : ResolveError}
    (value : α)
    (hBefore : ∀ u ∈ before, r.fault? u = none)
    (hFault : r.fault? v = some e) :
    r.outcome (before ++ v :: after) value = .error e := by
  unfold outcome
  rw [List.findSome?_append,
    List.findSome?_eq_none_iff.mpr hBefore, Option.none_or,
    List.findSome?_cons, hFault]

/- There is no value if one of the variables has a fault. -/
theorem fault?_eq_none_of_outcome
    {vs : List String}
    {value result : α}
    (hOk : r.outcome vs value = .ok result) :
    ∀ v ∈ vs, r.fault? v = none := by
  unfold outcome at hOk
  split at hOk
  · cases hOk
  · next hNone => exact List.findSome?_eq_none_iff.mp hNone

/- A visible variable has no fault just if it is a base. -/
theorem fault?_eq_none_iff
    {v : String}
    (hDeclared :
      r.registry.declares r.scope r.member v = true) :
    r.fault? v = none ↔ Name.isBase v = true := by
  rw [fault?, if_pos hDeclared]
  cases Name.isBase v <;> simp

end Resolution

end DeclaredApi

------------------------------------------------------------
-- References and Phrases
------------------------------------------------------------

namespace DeclaredApi

namespace Resolution

open DeclaredType

variable {r : Resolution}

/- A visible variable is referred to by its name. -/
theorem variableRef_eq_outcome
    (hSymbolic : r.erases = false)
    (v : String) :
    r.variableRef v =
      r.outcome [v]
        (.simple (Name.splitDimensions v).1
          (Name.splitDimensions v).2 []) := by
  unfold outcome
  simp only [List.findSome?_cons, List.findSome?_nil]
  unfold variableRef fault? ResolveScope.require
    Registry.requireVariable Registry.declares
  rw [hSymbolic]
  have hLookup :
      r.toScope.registry.findVariable r.toScope.scope
          r.toScope.member v =
        r.registry.findVariable r.scope r.member v :=
    rfl
  rw [hLookup]
  cases r.registry.findVariable r.scope r.member v with
  | none => rfl
  | some p =>
      unfold Name.isBase
      cases hName :
          Name.isDotted (Name.splitDimensions v).1 with
      | false =>
          simp [bind, Except.bind, ResolveScope.ofBase,
            TypeRef.ofBase, hName]
      | true =>
          simp [bind, Except.bind, ResolveScope.ofBase,
            TypeRef.ofBase, hName]

/- A class name with brackets has a reference. -/
theorem ofBase_of_isDotted
    {name : String}
    {arguments : List TypeRef}
    (dimensions : Nat)
    (hDotted : Name.isDotted name = true)
    (hPrimitive :
      Name.isPrimitive name = true → arguments = []) :
    ResolveScope.ofBase (name ++ Name.brackets dimensions)
        arguments =
      .ok (.simple name dimensions arguments) := by
  unfold ResolveScope.ofBase
  rw [TypeRef.ofBase_of_isDotted dimensions hDotted hPrimitive]

theorem mapM_reference_eq_outcome
    {ts : List DeclaredType}
    (hEach :
      ∀ t ∈ ts, t.Spellable →
        r.reference t =
          r.outcome t.readVariables
            (t.phrase.tree r.config.rootObject))
    (hSpellable : AllSpellable ts) :
    ts.mapM r.reference =
      r.outcome (readVariablesAll ts)
        ((ts.map phrase).map
          (Phrase.tree r.config.rootObject)) := by
  induction ts with
  | nil => rfl
  | cons t ts ih =>
      rw [AllSpellable] at hSpellable
      have hHead := hEach t List.mem_cons_self hSpellable.1
      have hTail :=
        ih (fun u hu => hEach u (List.mem_cons_of_mem t hu))
          hSpellable.2
      rw [List.mapM_cons, readVariablesAll, hHead, hTail]
      apply outcome_bind
      exact outcome_bind_ok rfl

/- A bound that is no wildcard is accepted. -/
theorem boundReference_eq_reference
    {t : DeclaredType}
    (hPlain :
      ∀ reference,
        r.reference t = .ok reference →
          reference.isWildcard = false) :
    r.boundReference t = r.reference t := by
  rw [boundReference]
  cases hReference : r.reference t with
  | error e => rfl
  | ok reference =>
      have hAccepted := hPlain reference hReference
      simp only [bind, Except.bind, hAccepted]
      rfl

/- The reference of a plain type is no wildcard. -/
theorem isWildcard_of_outcome
    {t : DeclaredType}
    {reference : TypeRef}
    (hSpellable : t.Spellable)
    (hPlain : t.isWildcard = false)
    (hReference :
      r.reference t =
        r.outcome t.readVariables
          (t.phrase.tree r.config.rootObject))
    (hOk : r.reference t = .ok reference) :
    reference.isWildcard = false := by
  have hTree :
      (t.phrase.tree r.config.rootObject).isWildcard = false :=
    Phrase.isWildcard_tree_of_isNamed _
      (isNamed_phrase hSpellable hPlain)
  rw [hReference] at hOk
  unfold outcome at hOk
  split at hOk
  · cases hOk
  · exact Except.ok.inj hOk ▸ hTree

/- A wildcard keeps the references of its bounds. -/
theorem bind_boundReference_eq_outcome
    {relation : BoundRelation}
    {t : DeclaredType}
    {ts : List DeclaredType}
    (hEach :
      ∀ u ∈ t :: ts, u.Spellable →
        r.reference u =
          r.outcome u.readVariables
            (u.phrase.tree r.config.rootObject))
    (hPlain : ∀ b ∈ t :: ts, b.isWildcard = false)
    (hSpellable : AllSpellable (t :: ts)) :
    (do
      let bounds ← (t :: ts).mapM r.boundReference
      pure (.wildcard relation bounds)) =
      r.outcome (readVariablesAll (t :: ts))
        ((Phrase.bounded relation t.phrase
          (phraseAll ts)).tree r.config.rootObject) := by
  have hAccepted :
      (t :: ts).mapM r.boundReference =
        (t :: ts).mapM r.reference := by
    apply Result.mapM_congr
    intro u hu
    apply boundReference_eq_reference
    intro reference hOk
    have hOne := (allSpellable_iff (t :: ts)).mp hSpellable u hu
    exact isWildcard_of_outcome hOne (hPlain u hu)
      (hEach u hu hOne) hOk
  rw [hAccepted, mapM_reference_eq_outcome hEach hSpellable]
  apply outcome_bind_ok
  rw [Phrase.tree, Phrase.treeAll_eq_map, phraseAll_eq_map]
  rfl

/-
  Without erasure the reference of a type is the tree of its
  phrase, or the first fault of the variables in it.
-/
theorem reference_eq_outcome
    {t : DeclaredType}
    (hSymbolic : r.erases = false)
    (hSpellable : t.Spellable) :
    r.reference t =
      r.outcome t.readVariables
        (t.phrase.tree r.config.rootObject) := by
  induction t using inductionOnRead with
  | named name dimensions parameters =>
      rw [Spellable] at hSpellable
      have hBase :
          ResolveScope.ofBase
              (name ++ Name.brackets dimensions) [] =
            .ok (.simple name dimensions []) :=
        ofBase_of_isDotted dimensions hSpellable (fun _ => rfl)
      rw [reference, readVariables, outcome_nil, phrase,
        Phrase.tree_ofName, List.map_nil, namedRef, hSymbolic,
        ← hBase]
      simp only [Bool.false_eq_true, if_false, bind,
        Except.bind]
  | applied name dimensions parameters arguments ih =>
      rw [Spellable] at hSpellable
      rcases hSpellable with
        ⟨hDotted, hReference, _, hArguments⟩
      rw [reference, readVariables, phrase, Phrase.tree_ofName,
        phraseAll_eq_map, referenceAll_eq_mapM,
        mapM_reference_eq_outcome ih hArguments]
      apply outcome_bind_ok
      apply ofBase_of_isDotted dimensions hDotted
      intro hPrimitive
      rw [hReference] at hPrimitive
      cases hPrimitive
  | arrayOf component ih =>
      rw [Spellable] at hSpellable
      have hTree :
          (component.phrase.tree
            r.config.rootObject).isWildcard = false :=
        Phrase.isWildcard_tree_of_isNamed _
          (isNamed_phrase hSpellable.2 hSpellable.1)
      rw [reference, readVariables, phrase,
        Phrase.tree_addDimensions, ih hSpellable.2]
      apply outcome_bind_ok
      rw [hTree]
      rfl
  | unbounded =>
      rw [reference, readVariables, outcome_nil, phrase,
        Phrase.tree]
  | bounded hReads ih =>
      rw [hReads.spellable_iff] at hSpellable
      rw [reference_wildcard hReads, hReads.readVariables_eq,
        hReads.phrase_eq]
      exact bind_boundReference_eq_outcome ih hSpellable.1
        hSpellable.2
  | typeVariable name =>
      rw [reference, readVariables, phrase, Phrase.tree_ofName]
      exact variableRef_eq_outcome hSymbolic name
  | unsupported => simp [Spellable] at hSpellable

end Resolution

end DeclaredApi

------------------------------------------------------------
-- Agreement with the Grammar
------------------------------------------------------------

namespace DeclaredApi

namespace Session

/-
  Symbolic resolution agrees with the spelling of a type.  If
  all the variables in it are visible by names that a
  reference may have, what is resolved is what the grammar
  reads.  The first variable for which this is not so is
  reported: as undeclared if it is not visible, and as a bad
  base if its name is refused.
-/
theorem resolve_agrees_with_spelling
    {s : Session}
    {t : DeclaredType}
    (hReset : s.FollowsReset)
    (hSpellable : t.Spellable)
    (hNesting : t.nesting ≤ s.config.depthLimit)
    (scope : ClassScope)
    (member : Option MemberDecl) :
    ((∀ v ∈ t.readVariables,
        s.registry.declares scope member v = true ∧
          Name.isBase v = true) →
      ∃ reference,
        Signature.read s.config.rootObject s.config.depthLimit
            t.spelling =
          .ok reference ∧
          (resolve scope member false t s).1 =
            .ok reference) ∧
      ∀ before v after,
        t.readVariables = before ++ v :: after →
          (∀ u ∈ before,
            s.registry.declares scope member u = true ∧
              Name.isBase u = true) →
            (s.registry.declares scope member v = false →
              (resolve scope member false t s).1 =
                .error (.undeclared
                  ⟨v, Registry.contextName scope member⟩)) ∧
              (s.registry.declares scope member v = true →
                Name.isBase v = false →
                  (resolve scope member false t s).1 =
                    .error (.invalid .badBase)) := by
  have hOutcome :=
    Resolution.reference_eq_outcome
      (r := ⟨s.config, s.registry, scope, member, false⟩)
      rfl hSpellable
  have hNoFault :
      ∀ vs : List String,
        (∀ v ∈ vs,
          s.registry.declares scope member v = true ∧
            Name.isBase v = true) →
          ∀ v ∈ vs,
            Resolution.fault?
              ⟨s.config, s.registry, scope, member, false⟩ v =
              none := by
    intro vs hEach v hv
    simp [Resolution.fault?, hEach v hv]
  rw [resolve_eq_reference hReset, hOutcome]
  refine ⟨?_, ?_⟩
  · intro hEach
    refine ⟨t.phrase.tree s.config.rootObject, ?_, ?_⟩
    · exact DeclaredType.read_spelling hSpellable
        (fun v hv => (hEach v hv).2) hNesting
    · exact Resolution.outcome_of_no_fault _
        (hNoFault _ hEach)
  · intro before v after hSplit hBefore
    rw [hSplit]
    refine ⟨?_, ?_⟩
    · intro hHidden
      apply Resolution.outcome_of_first_fault _
        (hNoFault before hBefore)
      simp [Resolution.fault?, hHidden]
    · intro hVisible hName
      apply Resolution.outcome_of_first_fault _
        (hNoFault before hBefore)
      simp [Resolution.fault?, hVisible, hName]

/- A class with a type variable. -/
def boxClass : ClassDecl where
  name := "a.Box"
  typeParameters := [.mk "T" []]

/- A history in which the class is registered. -/
def boxHistory : List Operation :=
  [.parse "T", .register boxClass]

/- An array of a class that takes two wildcards. -/
def boxArray : DeclaredType :=
  .arrayOf
    (.applied "a.Map" 1 []
      [.wildcard [.typeVariable "U"]
        [.arrayOf (.typeVariable "T"), .named "a.B" 2 []],
        .wildcard [] []])

/- A wildcard with two variables that are not declared. -/
def boxWildcard : DeclaredType :=
  .wildcard
    [.applied "a.List" 0 []
      [.typeVariable "T", .typeVariable "X"],
      .typeVariable "Y"]
    []

/- Variables in bounds that are not read need no scope. -/
theorem resolve_agrees_with_spelling_boxed :
    let s : Session := run boxHistory (reset {}).2
    let scope : ClassScope := .ofDecl boxClass
    boxArray.spelling = "a.Map<? super T[] & a.B[][], ?>[][]" ∧
      (∃ reference,
        Signature.read s.config.rootObject s.config.depthLimit
            boxArray.spelling =
          .ok reference ∧
          (resolve scope none false boxArray s).1 =
            .ok reference) ∧
        (resolve scope none false boxWildcard s).1 =
          .error (.undeclared ⟨"X", "a.Box"⟩) := by
  intro s scope
  have hReset : s.FollowsReset :=
    ⟨{}, boxHistory,
      by simp [boxHistory, Operation.KeepsRoot], rfl⟩
  have hArray : boxArray.Spellable := by
    simp only [boxArray, DeclaredType.Spellable,
      DeclaredType.AllSpellable, DeclaredType.isWildcard]
    decide +kernel
  have hWildcard : boxWildcard.Spellable := by
    simp only [boxWildcard, DeclaredType.Spellable,
      DeclaredType.AllSpellable, DeclaredType.isWildcard]
    decide +kernel
  refine ⟨by decide +kernel, ?_, ?_⟩
  · exact (resolve_agrees_with_spelling hReset hArray
      (by decide +kernel) scope none).1 (by decide +kernel)
  · exact ((resolve_agrees_with_spelling hReset hWildcard
      (by decide +kernel) scope none).2 ["T"] "X" ["Y"]
      (by decide +kernel) (by decide +kernel)).1
      (by decide +kernel)

/- A class with a variable whose name no reference may have. -/
def accentedClass : ClassDecl where
  name := "a.Box"
  typeParameters := [.mk "Größe" []]

/- A type with the variable, and one that is not declared. -/
def accentedMap : DeclaredType :=
  .applied "a.Map" 0 []
    [.typeVariable "Größe", .typeVariable "X"]

/-
  A variable that is visible is refused for its name, which
  the grammar does not read, and so is it in front of one
  that is not declared.
-/
theorem visible_variable_refused :
    let s : Session := run [.register accentedClass] (reset {}).2
    let scope : ClassScope := .ofDecl accentedClass
    s.FollowsReset ∧
      (accentedMap.Spellable ∧
        accentedMap.nesting ≤ s.config.depthLimit ∧
        accentedMap.readVariables = ["Größe", "X"] ∧
        s.registry.declares scope none "Größe" = true ∧
        s.registry.declares scope none "X" = false ∧
        (resolve scope none false accentedMap s).1 =
          .error (.invalid .badBase)) ∧
      (resolve scope none false (.typeVariable "Größe") s).1 =
        .error (.invalid .badBase) ∧
      (Signature.read s.config.rootObject s.config.depthLimit
        (DeclaredType.typeVariable "Größe").spelling).isOk =
        false := by
  intro s scope
  have hReset : s.FollowsReset :=
    ⟨{}, [.register accentedClass],
      by simp [Operation.KeepsRoot], rfl⟩
  have hSpellable : accentedMap.Spellable := by
    simp only [accentedMap, DeclaredType.Spellable,
      DeclaredType.AllSpellable]
    decide +kernel
  refine ⟨hReset, ⟨hSpellable, ?_, ?_, ?_, ?_, ?_⟩, ?_, ?_⟩
  · decide +kernel
  · decide +kernel
  · decide +kernel
  · decide +kernel
  · decide +kernel
  · decide +kernel
  · decide +kernel

end Session

end DeclaredApi
