import DeclaredApi.Proofs.ClassSignature.Parts
import DeclaredApi.Proofs.Session.History

/-
  Signatures of an analysis.

  An analysis describes the classes that some files declare,
  all of them registered, and sorts their signatures.  What
  comes of it depends on the configuration, the registry and
  the files: references that were interned before, the probe
  and its decisions play no part.

  Main declarations:
    * `SourceEntry.declared`
    * `Analysis.signatures`
    * `Session.Ready`
    * `Session.analyze_eq_signatures`
    * `Session.registry_analyze`
-/

------------------------------------------------------------
-- Declared Classes and Their Signatures
------------------------------------------------------------

namespace DeclaredApi

/- The classes of the files that can be built. -/
def SourceEntry.declared
    (entries : List SourceEntry) : List ClassDecl :=
  buildAll (scanAll entries) entries

/-
  The signatures of classes in the order of their names, or
  the report of the first class that has none.
-/
def Analysis.signatures
    (config : Config)
    (erases : Bool)
    (registry : Registry)
    (classes : List ClassDecl) :
    Except DescribeError (List ClassSignature) := do
  let found ←
    classes.mapM (fun c =>
      (Description.ofClass config erases registry c).signature c)
  pure (Sorting.sort (Sorting.keyLess ClassSignature.name) found)

/- Undisturbed classes have the signatures of their own. -/
theorem Analysis.signatures_eq_of_undisturbed
    {registry : Registry}
    {classes : List ClassDecl}
    (config : Config)
    (erases : Bool)
    (hUndisturbed : registry.Undisturbed classes) :
    signatures config erases (registry.withAll classes)
        classes =
      signatures config erases (Registry.withAll [] classes)
        classes := by
  have hEach :
      ∀ c ∈ classes,
        (Description.ofClass config erases
            (registry.withAll classes) c).signature c =
          (Description.ofClass config erases
            (Registry.withAll [] classes) c).signature c := by
    intro c hc
    rcases Registry.exists_lookup_withAll [] hc with
      ⟨scope, hLookup⟩
    rw [Description.signature_ofClass_eq config erases
      hUndisturbed.partOf hLookup]
  rw [signatures, signatures, Result.mapM_congr hEach]

end DeclaredApi

------------------------------------------------------------
-- Registration
------------------------------------------------------------

namespace DeclaredApi

namespace Session

/- Registering classes changes the registry and nothing else. -/
theorem registerAll_eq
    (classes : List ClassDecl)
    (s : Session) :
    registerAll classes s =
      ((), { s with registry := s.registry.withAll classes }) := by
  induction classes generalizing s with
  | nil => rfl
  | cons c classes ih =>
      have hRun :
          registerAll (c :: classes) s =
            registerAll classes (register c s).2 :=
        rfl
      rw [hRun, ih]
      rfl

/-
  A session has a configuration, a registry, and an interner
  that is sound for the configuration.
-/
structure Ready
    (config : Config)
    (registry : Registry)
    (s : Session) : Prop where
  config_eq : s.config = config
  registry_eq : s.registry = registry
  interner : Interner.Sound config.rootObject s.interner

variable {config : Config} {registry : Registry}

/- A class that is registered is described where it is. -/
theorem gives_describe
    {c : ClassDecl}
    {scope : ClassScope}
    (erases : Bool)
    (hLookup : registry.lookup c.name = some scope) :
    Action.Gives (Ready config registry)
      ((Description.ofClass config erases registry c).signature c)
      (describe erases c) := by
  rintro s ⟨rfl, rfl, hInterner⟩
  have hRegister : s.registry.register c = (scope, s.registry) :=
    Registry.register_of_lookup_eq_some hLookup
  have hGives :=
    Description.gives_describe
      (d := Description.ofClass s.config erases s.registry c)
      c (Interner.kept_sound _) s.interner hInterner
  refine ⟨hGives.1, rfl, ?_, hGives.2⟩
  change (s.registry.register c).2 = s.registry
  rw [hRegister]

theorem gives_describeAll
    {classes : List ClassDecl}
    (erases : Bool)
    (hLookup :
      ∀ c ∈ classes,
        ∃ scope, registry.lookup c.name = some scope) :
    Action.Gives (Ready config registry)
      (classes.mapM (fun c =>
        (Description.ofClass config erases registry c).signature
          c))
      (describeAll erases classes) := by
  induction classes with
  | nil => exact Action.gives_pure []
  | cons c classes ih =>
      rcases hLookup c List.mem_cons_self with ⟨scope, hScope⟩
      rw [List.mapM_cons, describeAll]
      apply (gives_describe erases hScope).bind
      intro signature _
      apply (ih fun d hd =>
        hLookup d (List.mem_cons_of_mem c hd)).bind
      intro signatures _
      exact Action.gives_pure (signature :: signatures)

end Session

end DeclaredApi

------------------------------------------------------------
-- Analyses
------------------------------------------------------------

namespace DeclaredApi

namespace Session

/-
  An analysis gives the signatures of the declared classes,
  once they are registered, and leaves them registered.
-/
theorem analyze_outcome
    {s : Session}
    (hSound : Interner.Sound s.config.rootObject s.interner)
    (erases installs : Bool)
    (entries : List SourceEntry) :
    let classes := SourceEntry.declared entries
    let registry := s.registry.withAll classes
    (analyze erases installs entries s).1 =
        Analysis.signatures s.config erases registry classes ∧
      Ready s.config registry
        (analyze erases installs entries s).2 := by
  intro classes registry
  have hGives :
      Action.Gives (Ready s.config registry)
        (Analysis.signatures s.config erases registry classes)
        (do
          let found ← describeAll erases classes
          pure (Sorting.sort
            (Sorting.keyLess ClassSignature.name) found)) := by
    apply (gives_describeAll erases fun c hc =>
      Registry.exists_lookup_withAll s.registry hc).bind
    intro found _
    exact Action.gives_pure _
  have hRun :
      ∀ before : Session,
        before.config = s.config →
          before.registry = s.registry →
            before.interner = s.interner →
              Ready s.config registry
                (registerAll classes before).2 := by
    intro before hConfig hRegistry hInterner
    rw [registerAll_eq]
    exact
      { config_eq := hConfig
        registry_eq := by rw [hRegistry]
        interner := hInterner ▸ hSound }
  cases installs with
  | false =>
      exact hGives (registerAll classes s).2
        (hRun s rfl rfl rfl)
  | true =>
      let table := SourceEntry.scanAll entries
      exact hGives
        (registerAll classes (install table.probe s).2).2
        (hRun (install table.probe s).2 rfl rfl rfl)

theorem analyze_eq_signatures
    {s : Session}
    (hReset : s.FollowsReset)
    (erases installs : Bool)
    (entries : List SourceEntry) :
    (analyze erases installs entries s).1 =
      Analysis.signatures s.config erases
        (s.registry.withAll (SourceEntry.declared entries))
        (SourceEntry.declared entries) :=
  (analyze_outcome hReset.sound.interner erases installs
    entries).1

theorem registry_analyze
    {s : Session}
    (hReset : s.FollowsReset)
    (erases installs : Bool)
    (entries : List SourceEntry) :
    (analyze erases installs entries s).2.registry =
      s.registry.withAll (SourceEntry.declared entries) :=
  (analyze_outcome hReset.sound.interner erases installs
    entries).2.registry_eq

theorem config_analyze
    {s : Session}
    (hReset : s.FollowsReset)
    (erases installs : Bool)
    (entries : List SourceEntry) :
    (analyze erases installs entries s).2.config = s.config :=
  (analyze_outcome hReset.sound.interner erases installs
    entries).2.config_eq

end Session

end DeclaredApi
