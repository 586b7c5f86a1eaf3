import DeclaredApi.Proofs.Analysis.Signatures

/-
  Analyses that follow each other.

  An analysis leaves the scopes of its classes registered,
  and the first scope of a name stays.  That is all that the
  next analysis can see of it, and a reset takes it away.  So
  the next one has the outcome that it has on its own if it
  looks up no name that has another scope by then.

  Main declarations:
    * `Session.analyze_eq_of_registry`
    * `Session.analyze_isolated`
    * `Session.scopes_outlive_analysis`
-/

------------------------------------------------------------
-- Isolation
------------------------------------------------------------

namespace DeclaredApi

namespace Session

/- An analysis sees the configuration and the registry only. -/
theorem analyze_eq_of_registry
    {s other : Session}
    (hReset : s.FollowsReset)
    (hOther : other.FollowsReset)
    (hConfig : other.config = s.config)
    (hRegistry : other.registry = s.registry)
    (erases installs : Bool)
    (entries : List SourceEntry) :
    (analyze erases installs entries other).1 =
      (analyze erases installs entries s).1 := by
  rw [analyze_eq_signatures hReset,
    analyze_eq_signatures hOther, hConfig, hRegistry]

/-
  After another analysis, an analysis sees its scopes and
  nothing else.  It has the outcome that it has on fresh
  caches if none of the scopes stands under a name that its
  own classes have or link to, unless it is the scope that
  they give to the name; and always after a reset.
-/
theorem analyze_isolated
    (start : Session)
    (first second : List SourceEntry)
    (erases installs erases' installs' : Bool) :
    let fresh : Session := (reset start).2
    let after := (analyze erases installs first fresh).2
    let alone := (analyze erases' installs' second fresh).1
    ((Registry.withAll []
          (SourceEntry.declared first)).Undisturbed
        (SourceEntry.declared second) →
      (analyze erases' installs' second after).1 = alone) ∧
      (analyze erases' installs' second (reset after).2).1 =
        alone ∧
      ∀ other : Session,
        other.FollowsReset →
          other.config = after.config →
            other.registry = after.registry →
              (analyze erases' installs' second other).1 =
                (analyze erases' installs' second after).1 := by
  intro fresh after alone
  have hFresh : fresh.FollowsReset :=
    ⟨start, [], fun _ h => absurd h List.not_mem_nil, rfl⟩
  have hAfter : after.FollowsReset :=
    hFresh.step (.analyze erases installs first) trivial
  have hConfig : after.config = fresh.config :=
    config_analyze hFresh erases installs first
  have hRegistry :
      after.registry =
        Registry.withAll [] (SourceEntry.declared first) :=
    registry_analyze hFresh erases installs first
  refine ⟨?_, ?_, ?_⟩
  · intro hUndisturbed
    have hAlone :
        alone = _ :=
      analyze_eq_signatures hFresh erases' installs' second
    rw [analyze_eq_signatures hAfter, hAlone, hConfig, hRegistry]
    exact Analysis.signatures_eq_of_undisturbed _ _ hUndisturbed
  · have hReset : (reset after).2.FollowsReset :=
      ⟨after, [], fun _ h => absurd h List.not_mem_nil, rfl⟩
    exact analyze_eq_of_registry hFresh hReset hConfig rfl _ _ _
  · intro other hOther hSame hScopes
    exact analyze_eq_of_registry hAfter hOther hSame hScopes _ _ _

end Session

end DeclaredApi

------------------------------------------------------------
-- Classes of One Name
------------------------------------------------------------

namespace DeclaredApi

namespace Session

/- A field whose type and name are letters. -/
def letterField (start : Nat) : SyntaxTree :=
  .node "field_declaration" start (start + 4) none true
    [.node "type_identifier" start (start + 1) (some "type")
        true [],
      .node "variable_declarator" (start + 2) (start + 3)
        (some "declarator") true
        [.node "identifier" (start + 2) (start + 3)
          (some "name") true []]]

/- The name of a class is a letter. -/
def letterName (start : Nat) : SyntaxTree :=
  .node "identifier" start (start + 1) (some "name") true []

/- A text with one class, which has a variable with bounds. -/
def genericContent
    (text : String)
    (stop : Nat)
    (bounds members : List SyntaxTree) : SourceContent where
  source := text.toUTF8
  tree :=
    .node "program" 0 text.length none true
      [.node "class_declaration" 0 text.length none true
        [letterName 6,
          .node "type_parameters" 7 stop
            (some "type_parameters") true
            [.node "type_parameter" 8 (stop - 1) none true
              (.node "type_identifier" 8 9 none true [] ::
                bounds)],
          .node "class_body" stop text.length (some "body") true
            members]]

/- The classes of these examples lie in one file. -/
def fileOf (content : SourceContent) : List SourceEntry :=
  [⟨["C.java"], some content⟩]

/- A class with a variable. -/
def plainContent : SourceContent :=
  genericContent "class C<T>{}" 10 [] []

/- A class of another name has the same variable. -/
theorem analyze_isolated_other_name :
    let fresh : Session := (reset {}).2
    let first := fileOf plainContent
    let second :=
      fileOf
        (genericContent "class D<T>{T x;}" 10 []
          [letterField 11])
    let after := (analyze false true first fresh).2
    (SourceEntry.declared second).map ClassDecl.name = ["D"] ∧
      (analyze false true second after).1 =
        (analyze false true second fresh).1 := by
  intro fresh first second after
  refine ⟨by decide +kernel, ?_⟩
  have hUnknown :
      ∀ c ∈ SourceEntry.declared second,
        ∀ name ∈ c.name :: (ClassScope.ofDecl c).links,
          Registry.lookup
              (Registry.withAll [] (SourceEntry.declared first))
              name =
            none := by
    decide +kernel
  apply (analyze_isolated {} first second false true false
    true).1
  intro c hc name hName
  exact Or.inl (hUnknown c hc name hName)

/- A class whose variable has a bound. -/
def boundedContent : SourceContent :=
  genericContent "class S<T extends Foo>{}" 22
    [.node "type_bound" 10 21 none true
      [.node "type_identifier" 18 21 none true []]] []

/- A class with a supertype, two classes further inside. -/
def nestedContent : SourceContent :=
  genericContent "class O<T>{class M{class I extends S{T x;}}}" 10
    []
    [.node "class_declaration" 11 43 none true
      [letterName 17,
        .node "class_body" 18 43 (some "body") true
          [.node "class_declaration" 19 42 none true
            [letterName 25,
              .node "superclass" 27 36 (some "superclass") true
                [.node "type_identifier" 35 36 none true []],
              .node "class_body" 36 42 (some "body") true
                [letterField 37]]]]]

/-
  The scope of an earlier class stands for a later one of the
  same name, and hides its variable.  Under the name of a
  supertype it is searched before the classes outside.
-/
theorem scopes_outlive_analysis :
    let fresh : Session := (reset {}).2
    let changed :=
      genericContent "class C<U>{U x;}" 10 [] [letterField 11]
    let report? (s : Session) :=
      Result.failure? (analyze false true (fileOf changed) s).1
    let fieldTypes? (s : Session) :=
      (analyze true true (fileOf nestedContent)
        s).1.toOption.map (fun found =>
          found.flatMap (fun sig =>
            sig.fields.map FieldRef.type))
    let after (content : SourceContent) :=
      (analyze false true (fileOf content) fresh).2
    report? fresh = none ∧
      report? (after plainContent) =
        some (.undeclared "field 'x'" "C"
          { name := "U", context := "C" }) ∧
      fieldTypes? fresh = some [.named "java.lang.Object"] ∧
      fieldTypes? (after boundedContent) =
        some [.named "Foo"] := by
  decide +kernel

end Session

end DeclaredApi
