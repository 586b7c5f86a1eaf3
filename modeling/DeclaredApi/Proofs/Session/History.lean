import DeclaredApi.Analysis
import DeclaredApi.Proofs.ClassSignature.Description
import DeclaredApi.Proofs.ClassSignature.Reference
import DeclaredApi.Proofs.Resolution.Stored
import DeclaredApi.Proofs.Structured.Soundness

/-
  Histories of sessions.

  A history is a sequence of operations on a session.  Each
  of them keeps the invariants that storing well-formed
  references keeps under every configuration that is set.
  A reset makes the interner sound, so it is sound after
  every history since a reset in which the root object type
  stays the same.

  Main declarations:
    * `Session.Operation`
    * `Session.Operation.step`
    * `Session.run`
    * `Session.Satisfies`
    * `Session.Satisfies.step_of_not_mayStore`
    * `Session.Operation.satisfies_step`
    * `Session.satisfies_run`
    * `Session.interner_run`
    * `Session.Holds`
    * `Session.holds_run`
    * `Session.FollowsReset`
    * `Session.resolve_eq_reference`
    * `Session.describe_eq_signature`
-/

------------------------------------------------------------
-- Operations
------------------------------------------------------------

namespace DeclaredApi

namespace Session

/- An operation on a session, with what it is given. -/
inductive Operation where
| configure (config : Config)
| install (probe : Probe)
| reset
| parse (text : String)
| parseValue (value : Json)
| intern
    (reference : TypeRef)
    (hWellFormed : reference.WellFormed)
| readStructured (path : String) (node : Json)
| project
    (declared : Structured.Declared)
    (reference : TypeRef)
| isConcrete (base : String)
| isVariable (base : String)
| isVariableRef (reference : TypeRef)
| register (c : ClassDecl)
| resolve
    (scope : ClassScope)
    (member : Option MemberDecl)
    (erases : Bool)
    (t : DeclaredType)
| describe (erases : Bool) (c : ClassDecl)
| classDocument (signature : ClassSignature)
| document
    (version : String)
    (signatures : List ClassSignature)
| analyze
    (erases installs : Bool)
    (entries : List SourceEntry)

namespace Operation

/- The session that an operation leaves. -/
def step : Operation → Session → Session
| .configure config, s => (Session.configure config s).2
| .install probe, s => (Session.install probe s).2
| .reset, s => (Session.reset s).2
| .parse text, s => (Session.parse text s).2
| .parseValue value, s => (Session.parseValue value s).2
| .intern reference _, s =>
    { s with
      interner :=
        (Interner.intern s.config reference s.interner).2 }
| .readStructured path node, s =>
    (Session.readStructured path node s).2
| .project declared reference, s =>
    (Session.project declared reference s).2
| .isConcrete base, s => (Session.isConcrete base s).2
| .isVariable base, s => (Session.isVariable base s).2
| .isVariableRef reference, s =>
    (Session.isVariableRef reference s).2
| .register c, s => (Session.register c s).2
| .resolve scope member erases t, s =>
    (Session.resolve scope member erases t s).2
| .describe erases c, s => (Session.describe erases c s).2
| .classDocument signature, s =>
    (Session.classDocument signature s).2
| .document version signatures, s =>
    (Session.document version signatures s).2
| .analyze erases installs entries, s =>
    (Session.analyze erases installs entries s).2

/- An operation configures nothing that is not allowed. -/
def Configures
    (allowed : Config → Prop) : Operation → Prop
| .configure config => allowed config
| _ => True

/- An operation leaves the root object type as it is. -/
def KeepsRoot
    (root : String) : Operation → Prop
| .configure config => config.rootObject = root
| _ => True

/- An operation may store references. -/
def MayStore : Operation → Prop
| .parse _ => True
| .parseValue _ => True
| .intern _ _ => True
| .readStructured _ _ => True
| .resolve _ _ _ _ => True
| .describe _ _ => True
| .analyze _ _ _ => True
| _ => False

end Operation

/- The session that a sequence of operations leaves. -/
def run : List Operation → Session → Session
| [], s => s
| op :: ops, s => run ops (op.step s)

end Session

end DeclaredApi

------------------------------------------------------------
-- Parts of an Analysis
------------------------------------------------------------

namespace DeclaredApi

namespace Session

variable {inv : Session → Prop}

/- What registering keeps is kept by registering a list. -/
theorem registerAll_keeps
    {s : Session}
    (classes : List ClassDecl)
    (hRegister : ∀ c s, inv s → inv (register c s).2)
    (hInv : inv s) :
    inv (registerAll classes s).2 := by
  induction classes generalizing s with
  | nil => exact hInv
  | cons c classes ih => exact ih (hRegister c s hInv)

/- What describing keeps is kept by describing a list. -/
theorem describeAll_keeps
    {erases : Bool}
    (classes : List ClassDecl)
    (hDescribe :
      ∀ c,
        Action.Returns inv (fun _ => True)
          (describe erases c)) :
    Action.Returns inv (fun _ => True)
      (describeAll erases classes) := by
  induction classes with
  | nil => exact Action.returns_pure trivial
  | cons c classes ih =>
      rw [describeAll]
      apply (hDescribe c).bind
      intro signature _
      apply ih.bind
      intro signatures _
      exact Action.returns_pure trivial

/- What each part of an analysis keeps is kept by it. -/
theorem analyze_keeps
    {erases : Bool}
    (installs : Bool)
    (entries : List SourceEntry)
    (hInstall : ∀ probe s, inv s → inv (install probe s).2)
    (hRegister : ∀ c s, inv s → inv (register c s).2)
    (hDescribe :
      ∀ c,
        Action.Returns inv (fun _ => True)
          (describe erases c)) :
    Action.Returns inv (fun _ => True)
      (analyze erases installs entries) := by
  have hRest :
      Action.Returns inv (fun _ => True) (do
        let classes :=
          SourceEntry.buildAll (SourceEntry.scanAll entries)
            entries
        monadLift (registerAll classes)
        let signatures ← describeAll erases classes
        pure (Sorting.sort (Sorting.keyLess ClassSignature.name)
          signatures) :
        Action DescribeError (List ClassSignature)) := by
    apply (Action.returns_lift fun s =>
      registerAll_keeps _ hRegister).bind
    intro _ _
    apply (describeAll_keeps _ hDescribe).bind
    intro signatures _
    exact Action.returns_pure trivial
  unfold analyze
  simp only
  split
  · apply (Action.returns_lift (hInstall _)).bind
    exact fun _ _ => hRest
  · exact hRest

end Session

end DeclaredApi

------------------------------------------------------------
-- Kept Invariants
------------------------------------------------------------

namespace DeclaredApi

namespace Session

variable {allowed : Config → Prop}
variable {inv : Interner → Prop}

/-
  A session has an allowed configuration, and an interner
  that an invariant holds of.
-/
structure Satisfies
    (allowed : Config → Prop)
    (inv : Interner → Prop)
    (s : Session) : Prop where
  config : allowed s.config
  interner : inv s.interner

/- Configuration and interner are all that is asked for. -/
theorem Satisfies.of_interner
    {s : Session}
    {classifier : Classifier}
    {registry : Registry}
    (hSatisfies : Satisfies allowed inv s) :
    Satisfies allowed inv
      { s with classifier := classifier, registry := registry } where
  config := hSatisfies.config
  interner := hSatisfies.interner

/-
  An operation that stores nothing leaves the interner as it
  is, or makes it fresh.
-/
theorem Satisfies.step_of_not_mayStore
    {op : Operation}
    {s : Session}
    (hStores : ¬ op.MayStore)
    (hFresh : op = .reset → inv {})
    (hConfigures : op.Configures allowed)
    (hSatisfies : Satisfies allowed inv s) :
    Satisfies allowed inv (op.step s) := by
  cases op with
  | configure config => exact ⟨hConfigures, hSatisfies.interner⟩
  | reset => exact ⟨hSatisfies.config, hFresh rfl⟩
  | isVariableRef reference =>
      rcases reference with ⟨element, dimensions, arguments⟩ | _
      · cases arguments with
        | nil => exact hSatisfies.of_interner
        | cons a as => exact hSatisfies
      · exact hSatisfies
  | install _ | project _ _ | isConcrete _ | isVariable _
  | register _ | classDocument _ | document _ _ =>
      exact hSatisfies.of_interner
  | parse _ | parseValue _ | intern _ _ | readStructured _ _
  | resolve _ _ _ _ | describe _ _ | analyze _ _ _ =>
      exact absurd trivial hStores

/- What an operation on the interner returns. -/
theorem fst_onInterner
    {ε α : Type}
    (run : Config → ExceptT ε (StateM Interner) α)
    (s : Session) :
    (onInterner run s).1 = (run s.config s.interner).1 :=
  rfl

/- Operations on the interner keep what they keep of it. -/
theorem returns_onInterner
    {ε α : Type}
    {post : α → Prop}
    {run : Config → ExceptT ε (StateM Interner) α}
    (hRun :
      ∀ config,
        allowed config → Action.Returns inv post (run config)) :
    Action.Returns (Satisfies allowed inv) post
      (onInterner run) := by
  intro s hSatisfies
  rcases hRun s.config hSatisfies.config s.interner
      hSatisfies.interner with
    ⟨hAfter, hPost⟩
  exact ⟨⟨hSatisfies.config, hAfter⟩, hPost⟩

theorem satisfies_register
    {s : Session}
    (c : ClassDecl)
    (hSatisfies : Satisfies allowed inv s) :
    Satisfies allowed inv (register c s).2 :=
  hSatisfies.of_interner

theorem returns_resolve
    (scope : ClassScope)
    (member : Option MemberDecl)
    (erases : Bool)
    (t : DeclaredType)
    (hStores :
      ∀ config, allowed config → Interner.Stores config inv) :
    Action.Returns (Satisfies allowed inv) TypeRef.WellFormed
      (resolve scope member erases t) := by
  intro s hSatisfies
  refine returns_onInterner ?_ s hSatisfies
  intro config hConfig
  exact Resolution.returns_resolve
    (r := ⟨config, s.registry, scope, member, erases⟩) t
    (hStores config hConfig)

theorem returns_describe
    (erases : Bool)
    (c : ClassDecl)
    (hStores :
      ∀ config, allowed config → Interner.Stores config inv) :
    Action.Returns (Satisfies allowed inv) (fun _ => True)
      (describe erases c) := by
  intro s hSatisfies
  have hRegistered := satisfies_register c hSatisfies
  refine returns_onInterner ?_ (register c s).2 hRegistered
  intro config hConfig
  exact Description.returns_describe c (hStores config hConfig)

/-
  An operation keeps an invariant that is kept under every
  configuration that it may set.  The invariant has to hold
  of a fresh interner after a reset.
-/
theorem Operation.satisfies_step
    {op : Operation}
    {s : Session}
    (hStores :
      ∀ config, allowed config → Interner.Stores config inv)
    (hFresh : op = .reset → inv {})
    (hConfigures : op.Configures allowed)
    (hSatisfies : Satisfies allowed inv s) :
    Satisfies allowed inv (op.step s) := by
  have hCurrent := hStores s.config hSatisfies.config
  cases op with
  | parse text =>
      exact (returns_onInterner
        (fun config hConfig => (hStores config hConfig).parse text)
        s hSatisfies).1
  | parseValue value =>
      exact (returns_onInterner
        (fun config hConfig =>
          Interner.returns_parseValue value
            (hStores config hConfig))
        s hSatisfies).1
  | intern reference hWellFormed =>
      exact ⟨hSatisfies.config,
        (hCurrent.intern hWellFormed hSatisfies.interner).2⟩
  | readStructured path node =>
      exact (returns_onInterner
        (fun config hConfig =>
          Structured.returns_read
            (Structured.returns_readNode path node
              (hStores config hConfig)))
        s hSatisfies).1
  | resolve scope member erases t =>
      exact (returns_resolve scope member erases t hStores
        s hSatisfies).1
  | describe erases c =>
      exact (returns_describe erases c hStores s hSatisfies).1
  | analyze erases installs entries =>
      exact (analyze_keeps installs entries
        (fun _ _ hSatisfies => hSatisfies.of_interner)
        (fun c _ => satisfies_register c)
        (fun c => returns_describe erases c hStores)
        s hSatisfies).1
  | _ => exact hSatisfies.step_of_not_mayStore nofun hFresh hConfigures

/- So does any sequence of operations. -/
theorem satisfies_run
    {ops : List Operation}
    {s : Session}
    (hStores :
      ∀ config, allowed config → Interner.Stores config inv)
    (hFresh : .reset ∈ ops → inv {})
    (hConfigures : ∀ op ∈ ops, op.Configures allowed)
    (hSatisfies : Satisfies allowed inv s) :
    Satisfies allowed inv (run ops s) := by
  induction ops generalizing s with
  | nil => exact hSatisfies
  | cons op ops ih =>
      rw [run]
      apply ih
      · exact fun hReset =>
          hFresh (List.mem_cons_of_mem op hReset)
      · exact fun other hOther =>
          hConfigures other (List.mem_cons_of_mem op hOther)
      · apply Operation.satisfies_step hStores _
          (hConfigures op List.mem_cons_self) hSatisfies
        exact fun hReset => hFresh (hReset ▸ List.mem_cons_self)

/-
  What storing keeps under every configuration holds of the
  interner after any history since a reset.
-/
theorem interner_run
    (start : Session)
    (ops : List Operation)
    (hStores : ∀ config, Interner.Stores config inv)
    (hFresh : inv {}) :
    inv (run ops (reset start).2).interner := by
  have hConfigures :
      ∀ op ∈ ops, op.Configures (fun _ => True) := by
    intro op _
    cases op <;> trivial
  have hAfter :=
    satisfies_run (s := (reset start).2)
      (fun config _ => hStores config) (fun _ => hFresh)
      hConfigures ⟨trivial, hFresh⟩
  exact hAfter.interner

end Session

end DeclaredApi

------------------------------------------------------------
-- Sound Sessions
------------------------------------------------------------

namespace DeclaredApi

namespace Session

/-
  A session has a root object type, and an interner that an
  invariant holds of.
-/
structure Holds
    (root : String)
    (inv : Interner → Prop)
    (s : Session) : Prop where
  root_eq : s.config.rootObject = root
  interner : inv s.interner

/- A session has a root object type and a sound interner. -/
abbrev Sound (root : String) : Session → Prop :=
  Holds root (Interner.Sound root)

/- A fresh interner is sound. -/
theorem sound_reset
    (s : Session) :
    Sound s.config.rootObject (reset s).2 where
  root_eq := rfl
  interner := Interner.sound_empty s.config.rootObject

variable {root : String}
variable {inv : Interner → Prop}

/-
  Operations that leave the root keep an invariant of sound
  interners.
-/
theorem holds_run
    {ops : List Operation}
    {s : Session}
    (hKept : Interner.Kept root inv)
    (hFresh : .reset ∈ ops → inv {})
    (hRoot : ∀ op ∈ ops, op.KeepsRoot root)
    (hHolds : Holds root inv s) :
    Holds root inv (run ops s) := by
  have hStores :
      ∀ config : Config,
        config.rootObject = root →
          Interner.Stores config inv := by
    rintro config rfl
    exact hKept.stores
  have hConfigures :
      ∀ op ∈ ops,
        op.Configures (fun config => config.rootObject = root) := by
    intro op hOp
    have hKeeps := hRoot op hOp
    cases op <;> exact hKeeps
  have hAfter :=
    satisfies_run hStores hFresh hConfigures
      ⟨hHolds.root_eq, hHolds.interner⟩
  exact ⟨hAfter.config, hAfter.interner⟩

theorem run_append
    (first second : List Operation)
    (s : Session) :
    run (first ++ second) s = run second (run first s) := by
  induction first generalizing s with
  | nil => rfl
  | cons op ops ih => exact ih (op.step s)

/-
  A reset was the start of the history of a session, and the
  root object type is still the same.
-/
def FollowsReset (s : Session) : Prop :=
  ∃ (start : Session) (ops : List Operation),
    (∀ op ∈ ops, op.KeepsRoot start.config.rootObject) ∧
      s = run ops (reset start).2

/- Nothing needs to happen after the reset. -/
theorem followsReset_reset
    (start : Session) :
    (reset start).2.FollowsReset :=
  ⟨start, [], fun _ hOp => absurd hOp List.not_mem_nil, rfl⟩

/- A session is sound after any history since a reset. -/
theorem FollowsReset.sound
    {s : Session}
    (hReset : s.FollowsReset) :
    Sound s.config.rootObject s := by
  rcases hReset with ⟨start, ops, hRoot, rfl⟩
  have hSound :=
    holds_run (Interner.kept_sound _)
      (fun _ => Interner.sound_empty _) hRoot
      (sound_reset start)
  exact hSound.root_eq.symm ▸ hSound

/- One more operation may follow. -/
theorem FollowsReset.step
    {s : Session}
    (op : Operation)
    (hReset : s.FollowsReset)
    (hRoot : op.KeepsRoot s.config.rootObject) :
    (op.step s).FollowsReset := by
  rcases hReset with ⟨start, ops, hOps, rfl⟩
  have hHolds :=
    holds_run (Interner.kept_sound _)
      (fun _ => Interner.sound_empty _) hOps
      (sound_reset start)
  rw [hHolds.root_eq] at hRoot
  refine ⟨start, ops ++ [op], ?_, ?_⟩
  · intro other hMem
    rcases List.mem_append.mp hMem with hOld | hNew
    · exact hOps other hOld
    · exact List.mem_singleton.mp hNew ▸ hRoot
  · rw [run_append]
    rfl

/- What is resolved does not depend on what is interned. -/
theorem resolve_eq_reference
    {s : Session}
    (hReset : s.FollowsReset)
    (scope : ClassScope)
    (member : Option MemberDecl)
    (erases : Bool)
    (t : DeclaredType) :
    (resolve scope member erases t s).1 =
      Resolution.reference
        ⟨s.config, s.registry, scope, member, erases⟩ t :=
  (Resolution.gives_resolve
    (r := ⟨s.config, s.registry, scope, member, erases⟩)
    t (Interner.kept_sound _) s.interner
    hReset.sound.interner).1

/- And neither does the description of a class. -/
theorem describe_eq_signature
    {s : Session}
    (hReset : s.FollowsReset)
    (erases : Bool)
    (c : ClassDecl) :
    (describe erases c s).1 =
      (Description.ofClass s.config erases s.registry
        c).signature c :=
  (Description.gives_describe
    (d := Description.ofClass s.config erases s.registry c)
    c (Interner.kept_sound _) s.interner
    hReset.sound.interner).1

end Session

end DeclaredApi
