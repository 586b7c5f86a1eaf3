import Mathlib.Data.List.Forall2
import DeclaredApi.Proofs.Resolution.Capture
import DeclaredApi.Proofs.Resolution.Leaves
import DeclaredApi.Proofs.Resolution.Spelling
import DeclaredApi.Proofs.Resolution.Wildcards

/-
  Erasure as a substitution.

  A type resolves with erasure as it does without, once each
  variable in it is replaced by the class type that it erases
  to.  Erasing is then a matter of leaves: arguments, bounds
  and the relation of wildcards stay as they are, and the
  dimensions of an erased variable are added to the layers
  around it.

  Main declarations:
    * `DeclaredType.substitute`
    * `DeclaredType.Bare`
    * `Resolution.reference_substitute`
    * `TypeRef.Replaces`
    * `Resolution.replaced_of_bareOver`
    * `Session.erasure`
    * `Session.resolve_erased_eq_substituted`
-/

------------------------------------------------------------
-- Substitutions
------------------------------------------------------------

namespace DeclaredApi

namespace DeclaredType

mutual

/- A declared type with other types in place of variables. -/
def substitute
    (σ : String → DeclaredType) : DeclaredType → DeclaredType
| .named name dimensions parameters =>
    .named name dimensions parameters
| .applied name dimensions parameters arguments =>
    .applied name dimensions parameters
      (substituteAll σ arguments)
| .arrayOf component => .arrayOf (substitute σ component)
| .wildcard upper lower =>
    .wildcard (substituteAll σ upper) (substituteAll σ lower)
| .typeVariable name => σ name
| .unsupported => .unsupported

/- A list of declared types with other types for variables. -/
def substituteAll
    (σ : String → DeclaredType) :
    List DeclaredType → List DeclaredType
| [] => []
| t :: ts => substitute σ t :: substituteAll σ ts

end

mutual

/- No class that is used without arguments has parameters. -/
def Bare : DeclaredType → Prop
| .named _ _ parameters => parameters = []
| .applied _ _ _ arguments => AllBare arguments
| .arrayOf component => Bare component
| .wildcard upper lower => AllBare upper ∧ AllBare lower
| .typeVariable _ => True
| .unsupported => True

/- This is so for each declared type of a list. -/
def AllBare : List DeclaredType → Prop
| [] => True
| t :: ts => Bare t ∧ AllBare ts

end

theorem allBare_iff
    (ts : List DeclaredType) :
    AllBare ts ↔ ∀ t ∈ ts, t.Bare := by
  induction ts with
  | nil => simp [AllBare]
  | cons t ts ih => simp [AllBare, ih]

theorem substituteAll_eq_map
    (σ : String → DeclaredType)
    (ts : List DeclaredType) :
    substituteAll σ ts = ts.map (substitute σ) := by
  induction ts with
  | nil => rfl
  | cons t ts ih => simp [substituteAll, ih]

section Bounds

variable {upper lower ts : List DeclaredType}
variable {relation : BoundRelation}
variable {t : DeclaredType}

/- The same bounds are read after a substitution. -/
theorem ReadsBounds.substitute
    (σ : String → DeclaredType)
    (hReads : ReadsBounds upper lower relation t ts) :
    ReadsBounds (substituteAll σ upper) (substituteAll σ lower)
      relation (t.substitute σ) (substituteAll σ ts) := by
  cases hReads with
  | upper => exact .upper
  | lower => exact .lower

theorem ReadsBounds.allBare
    (hReads : ReadsBounds upper lower relation t ts)
    (hBare : (wildcard upper lower).Bare) :
    AllBare (t :: ts) := by
  rw [Bare] at hBare
  cases hReads with
  | upper => exact hBare.1
  | lower => exact hBare.2

end Bounds

/- A bare type whose variables that are read are all alike. -/
structure BareOver
    (t : DeclaredType)
    (holds : String → Prop) : Prop where
  bare : t.Bare
  each : ∀ v ∈ t.readVariables, holds v

/- This goes on to the types of a list. -/
theorem bareOver_of_mem
    {holds : String → Prop}
    {ts : List DeclaredType}
    (hBare : AllBare ts)
    (hVariables : ∀ v ∈ readVariablesAll ts, holds v) :
    ∀ t ∈ ts, t.BareOver holds := by
  intro t ht
  refine ⟨(allBare_iff ts).mp hBare t ht, ?_⟩
  intro v hv
  exact hVariables v (mem_readVariablesAll.mpr ⟨t, ht, hv⟩)

theorem readVariablesAll_substituteAll
    {σ : String → DeclaredType}
    {ts : List DeclaredType}
    (hEach : ∀ t ∈ ts, (t.substitute σ).readVariables = []) :
    readVariablesAll (substituteAll σ ts) = [] := by
  induction ts with
  | nil => rfl
  | cons t ts ih =>
      rw [List.forall_mem_cons] at hEach
      rw [substituteAll, readVariablesAll, hEach.1, ih hEach.2]
      rfl

/- What is not read of a type is not read afterwards. -/
theorem readVariables_substitute
    {σ : String → DeclaredType}
    {t : DeclaredType}
    (hClosed :
      ∀ v ∈ t.readVariables, (σ v).readVariables = []) :
    (t.substitute σ).readVariables = [] := by
  induction t using inductionOnRead with
  | named name dimensions parameters => rfl
  | applied name dimensions parameters arguments ih =>
      rw [readVariables] at hClosed
      rw [substitute, readVariables]
      apply readVariablesAll_substituteAll
      intro u hu
      apply ih u hu
      intro v hv
      exact hClosed v (mem_readVariablesAll.mpr ⟨u, hu, hv⟩)
  | arrayOf component ih =>
      rw [readVariables] at hClosed
      rw [substitute, readVariables]
      exact ih hClosed
  | unbounded => rfl
  | bounded hReads ih =>
      rw [hReads.readVariables_eq] at hClosed
      rw [substitute, (hReads.substitute σ).readVariables_eq]
      rw [← substituteAll]
      apply readVariablesAll_substituteAll
      intro u hu
      apply ih u hu
      intro v hv
      exact hClosed v (mem_readVariablesAll.mpr ⟨u, hu, hv⟩)
  | typeVariable name =>
      rw [substitute]
      exact hClosed name
        (by rw [readVariables]; exact List.mem_singleton_self name)
  | unsupported => rfl

end DeclaredType

end DeclaredApi

------------------------------------------------------------
-- References of Substituted Types
------------------------------------------------------------

namespace DeclaredApi

namespace Resolution

open DeclaredType

variable {r r' : Resolution}
variable {σ : String → DeclaredType}

/- A class without parameters has the same reference. -/
theorem namedRef_nil
    (r : Resolution)
    (name : String)
    (dimensions : Nat) :
    r.namedRef name dimensions [] =
      ResolveScope.ofBase
        (name ++ Name.brackets dimensions) [] := by
  unfold namedRef
  cases r.erases with
  | false =>
      simp only [Bool.false_eq_true, if_false, bind, Except.bind]
  | true =>
      simp only [if_true, ResolveScope.eraseAll, bind,
        Except.bind]

theorem mapM_substituteAll
    {f g : DeclaredType → Except ResolveError TypeRef}
    {ts : List DeclaredType}
    (hEach : ∀ t ∈ ts, f t = g (t.substitute σ)) :
    ts.mapM f = (substituteAll σ ts).mapM g := by
  rw [substituteAll_eq_map, List.mapM_map]
  exact Result.mapM_congr hEach

/-
  Two resolutions with the same root agree on a type and what
  a substitution makes of it, if they do so on the variables
  that are read.
-/
theorem reference_substitute
    {t : DeclaredType}
    (hRoot : r.config.rootObject = r'.config.rootObject)
    (hOver :
      t.BareOver
        (fun v =>
          r.reference (.typeVariable v) = r'.reference (σ v))) :
    r.reference t = r'.reference (t.substitute σ) := by
  rcases hOver with ⟨hBare, hVariables⟩
  induction t using inductionOnRead with
  | named name dimensions parameters =>
      rw [Bare] at hBare
      rw [substitute, reference, reference, hBare, namedRef_nil,
        namedRef_nil]
  | applied name dimensions parameters arguments ih =>
      have hParts := bareOver_of_mem hBare hVariables
      have hEach :=
        fun t ht => ih t ht (hParts t ht).bare (hParts t ht).each
      rw [substitute, reference, reference, referenceAll_eq_mapM,
        referenceAll_eq_mapM, mapM_substituteAll hEach]
  | arrayOf component ih =>
      rw [Bare] at hBare
      rw [readVariables] at hVariables
      rw [substitute, reference, reference, ih hBare hVariables]
  | unbounded =>
      rw [substitute, substituteAll, reference, reference, hRoot]
  | bounded hReads ih =>
      rw [hReads.readVariables_eq] at hVariables
      have hParts :=
        bareOver_of_mem (hReads.allBare hBare) hVariables
      rw [substitute, reference_wildcard hReads,
        reference_wildcard (hReads.substitute σ), ← substituteAll]
      apply congrArg (· >>= _)
      apply mapM_substituteAll
      intro u hu
      rw [boundReference, boundReference,
        ih u hu (hParts u hu).bare (hParts u hu).each]
  | typeVariable name =>
      rw [substitute]
      apply hVariables
      rw [readVariables]
      exact List.mem_singleton_self name
  | unsupported => rfl

end Resolution

end DeclaredApi

------------------------------------------------------------
-- Replaced Leaves
------------------------------------------------------------

namespace DeclaredApi

namespace TypeRef

/-
  A reference with named types in the place of some parts of
  another one.  The dimensions around such a part are added
  to those of the named type; everything else is kept.
-/
inductive Replaces
    (image : TypeRef → String → Nat → Prop) :
    TypeRef → TypeRef → Prop
| part
    {part : TypeRef}
    {element : String}
    {dimensions : Nat}
    (layers : Nat)
    (hImage : image part element dimensions) :
    Replaces image (part.addDimensions layers)
      (.simple element (dimensions + layers) [])
| simple
    {element : String}
    {dimensions : Nat}
    {arguments arguments' : List TypeRef}
    (hArguments :
      List.Forall₂ (Replaces image) arguments arguments') :
    Replaces image (.simple element dimensions arguments)
      (.simple element dimensions arguments')
| wildcard
    {relation : BoundRelation}
    {bounds bounds' : List TypeRef}
    (hBounds : List.Forall₂ (Replaces image) bounds bounds') :
    Replaces image (.wildcard relation bounds)
      (.wildcard relation bounds')

variable {image : TypeRef → String → Nat → Prop}

theorem addDimensions_zero
    (r : TypeRef) :
    r.addDimensions 0 = r := by
  cases r <;> rfl

theorem addDimensions_addDimensions
    (r : TypeRef)
    (layers count : Nat) :
    (r.addDimensions layers).addDimensions count =
      r.addDimensions (layers + count) := by
  cases r with
  | simple element dimensions arguments =>
      simp only [addDimensions, Nat.add_assoc]
  | wildcard relation bounds => rfl

/- Dimensions are added to both references. -/
theorem Replaces.addDimensions
    {r r' : TypeRef}
    (count : Nat)
    (hReplaces : Replaces image r r') :
    Replaces image (r.addDimensions count)
      (r'.addDimensions count) := by
  cases hReplaces with
  | part layers hImage =>
      rw [addDimensions_addDimensions, TypeRef.addDimensions,
        Nat.add_assoc]
      exact .part (layers + count) hImage
  | simple hArguments => exact .simple hArguments
  | wildcard hBounds => exact .wildcard hBounds

/- Named types stand for parts that are no wildcards. -/
theorem Replaces.isWildcard_eq
    {r r' : TypeRef}
    (hPlain :
      ∀ part element dimensions,
        image part element dimensions →
          part.isWildcard = false)
    (hReplaces : Replaces image r r') :
    r'.isWildcard = r.isWildcard := by
  cases hReplaces with
  | part layers hImage =>
      rw [isWildcard_addDimensions, hPlain _ _ _ hImage]
      rfl
  | simple _ => rfl
  | wildcard _ => rfl

end TypeRef

namespace Resolution

open DeclaredType

variable {r r' : Resolution}
variable {image : TypeRef → String → Nat → Prop}

/-
  What a type resolves to is replaced where it is resolved in
  the other way.
-/
def Replaced
    (r r' : Resolution)
    (image : TypeRef → String → Nat → Prop)
    (t : DeclaredType) : Prop :=
  ∀ reference,
    r.reference t = .ok reference →
      ∃ reference',
        r'.reference t = .ok reference' ∧
          reference.Replaces image reference'

/- A bound is replaced by a bound. -/
theorem Replaced.boundReference
    {t : DeclaredType}
    (hPlain :
      ∀ part element dimensions,
        image part element dimensions →
          part.isWildcard = false)
    (hReplaced : Replaced r r' image t) :
    ∀ bound,
      r.boundReference t = .ok bound →
        ∃ bound',
          r'.boundReference t = .ok bound' ∧
            bound.Replaces image bound' := by
  intro bound hBound
  rcases boundReference_eq_ok_iff.mp hBound with ⟨hOk, hKind⟩
  rcases hReplaced bound hOk with ⟨bound', hOk', hReplaces⟩
  refine ⟨bound', boundReference_eq_ok_iff.mpr ⟨hOk', ?_⟩,
    hReplaces⟩
  rw [hReplaces.isWildcard_eq hPlain, hKind]

/-
  When the references of variables are replaced by those of
  class types, so are they in the reference of a type.
-/
theorem replaced_of_bareOver
    {t : DeclaredType}
    (hRoot : r.config.rootObject = r'.config.rootObject)
    (hPlain :
      ∀ part element dimensions,
        image part element dimensions →
          part.isWildcard = false)
    (hOver :
      t.BareOver
        (fun v =>
          ∀ part,
            r.reference (.typeVariable v) = .ok part →
              ∃ element dimensions,
                r'.reference (.typeVariable v) =
                    .ok (.simple element dimensions []) ∧
                  image part element dimensions)) :
    Replaced r r' image t := by
  rcases hOver with ⟨hBare, hVariables⟩
  induction t using inductionOnRead with
  | named name dimensions parameters =>
      intro reference hOk
      rw [Bare] at hBare
      rw [Resolution.reference, hBare, namedRef_nil] at hOk
      rw [Resolution.reference, hBare, namedRef_nil]
      refine ⟨reference, hOk, ?_⟩
      rw [ResolveScope.eq_simple_of_ofBase hOk]
      exact .simple .nil
  | applied name dimensions parameters arguments ih =>
      intro reference hOk
      have hParts := bareOver_of_mem hBare hVariables
      rcases reference_applied_eq_ok_iff.mp hOk with
        ⟨references, hArguments, hBase⟩
      rcases Result.exists_forall₂_of_mapM
          (fun t ht => ih t ht (hParts t ht).bare
            (hParts t ht).each)
          hArguments with
        ⟨references', hArguments', hReplaces⟩
      have hBase' :=
        ResolveScope.ofBase_of_length_eq hReplaces.length_eq
          hBase
      rw [ResolveScope.eq_simple_of_ofBase hBase]
      exact ⟨_,
        reference_applied_eq_ok_iff.mpr
          ⟨references', hArguments', hBase'⟩,
        .simple hReplaces⟩
  | arrayOf component ih =>
      intro reference hOk
      rw [Bare] at hBare
      rw [readVariables] at hVariables
      rcases reference_arrayOf_eq_ok_iff.mp hOk with
        ⟨element, hElement, hKind, rfl⟩
      rcases ih hBare hVariables element hElement with
        ⟨element', hElement', hReplaces⟩
      have hKind' : element'.isWildcard = false := by
        rw [hReplaces.isWildcard_eq hPlain, hKind]
      exact ⟨element'.addDimensions 1,
        reference_arrayOf_eq_ok_iff.mpr
          ⟨element', hElement', hKind', rfl⟩,
        hReplaces.addDimensions 1⟩
  | unbounded =>
      intro reference hOk
      rw [Resolution.reference, hRoot] at hOk
      cases hOk
      exact ⟨_, rfl, .wildcard (.cons (.simple .nil) .nil)⟩
  | bounded hReads ih =>
      intro reference hOk
      rw [hReads.readVariables_eq] at hVariables
      have hParts :=
        bareOver_of_mem (hReads.allBare hBare) hVariables
      rcases (reference_wildcard_eq_ok_iff hReads).mp hOk with
        ⟨bounds, hBounds, rfl⟩
      rcases Result.exists_forall₂_of_mapM
          (fun u hu =>
            (ih u hu (hParts u hu).bare
              (hParts u hu).each).boundReference hPlain)
          hBounds with
        ⟨bounds', hBounds', hReplaces⟩
      exact ⟨_,
        (reference_wildcard_eq_ok_iff hReads).mpr
          ⟨bounds', hBounds', rfl⟩,
        .wildcard hReplaces⟩
  | typeVariable name =>
      intro reference hOk
      have hMem : name ∈ (typeVariable name).readVariables := by
        rw [readVariables]
        exact List.mem_singleton_self name
      rcases hVariables name hMem reference hOk with
        ⟨element, dimensions, hErased, hImage⟩
      have hPart := TypeRef.Replaces.part 0 hImage
      rw [TypeRef.addDimensions_zero] at hPart
      exact ⟨_, hErased, hPart⟩
  | unsupported =>
      intro reference hOk
      rw [Resolution.reference] at hOk
      cases hOk

end Resolution

end DeclaredApi

------------------------------------------------------------
-- Erased Variables
------------------------------------------------------------

namespace DeclaredApi

/- An erasure is a class with dimensions and no arguments. -/
theorem ResolveScope.ErasesTo.exists_simple
    {s : ResolveScope}
    {siblings : List TypeParameter}
    {seen : List String}
    {p : TypeParameter}
    {reference : TypeRef}
    (hErases : s.ErasesTo siblings seen p reference) :
    ∃ element dimensions,
      reference = .simple element dimensions [] := by
  induction hErases with
  | again _ => exact ⟨s.root, 0, rfl⟩
  | @unbounded _ _ layers _ _ => exact ⟨s.root, 0 + layers, rfl⟩
  | className _ _ hBase =>
      rw [eq_simple_of_ofBase hBase]
      exact ⟨_, _, rfl⟩
  | @variableName _ _ _ _ layers _ _ _ _ _ ih =>
      rcases ih with ⟨element, dimensions, rfl⟩
      exact ⟨element, dimensions + layers, rfl⟩

namespace Resolution

/- So it is the reference of a class type. -/
theorem exists_simple_of_erasedVariable
    {r : Resolution}
    {v : String}
    {reference : TypeRef}
    (hErases : r.erases = true)
    (hOk : r.reference (.typeVariable v) = .ok reference) :
    ∃ element dimensions,
      reference = .simple element dimensions [] ∧
        ∀ r' : Resolution,
          r'.reference (.named element dimensions []) =
            .ok reference := by
  rcases (erasedVariable_eq_ok_iff hErases).mp hOk with
    ⟨p, _, hChain⟩
  rcases hChain.exists_simple with ⟨element, dimensions, rfl⟩
  have hWellFormed := wellFormed_of_reference hOk
  rw [TypeRef.WellFormed] at hWellFormed
  refine ⟨element, dimensions, rfl, ?_⟩
  intro r'
  rw [Resolution.reference, namedRef_nil]
  exact ofBase_of_isDotted dimensions hWellFormed.1
    (fun _ => rfl)

end Resolution

end DeclaredApi

------------------------------------------------------------
-- Erasure by Substitution
------------------------------------------------------------

namespace DeclaredApi

namespace Session

/-
  The class type that a variable erases to.  A variable that
  has no erasure stays as it is.
-/
def erasure
    (s : Session)
    (scope : ClassScope)
    (member : Option MemberDecl)
    (v : String) : DeclaredType :=
  match (resolve scope member true (.typeVariable v) s).1 with
  | .ok (.simple element dimensions _) =>
      .named element dimensions []
  | _ => .typeVariable v

/- A variable is erased to a class type that means the same. -/
theorem resolve_erasure
    {s : Session}
    {scope : ClassScope}
    {member : Option MemberDecl}
    {v : String}
    {reference : TypeRef}
    (hReset : s.FollowsReset)
    (hOk :
      (resolve scope member true (.typeVariable v) s).1 =
        .ok reference) :
    ∃ element dimensions,
      reference = .simple element dimensions [] ∧
        s.erasure scope member v =
          .named element dimensions [] ∧
        ∀ erases,
          (resolve scope member erases
              (.named element dimensions []) s).1 =
            .ok reference := by
  have hReference := hOk
  rw [resolve_eq_reference hReset] at hReference
  rcases Resolution.exists_simple_of_erasedVariable rfl
      hReference with
    ⟨element, dimensions, rfl, hNamed⟩
  refine ⟨element, dimensions, rfl, ?_, ?_⟩
  · rw [erasure, hOk]
  · intro erases
    rw [resolve_eq_reference hReset]
    exact hNamed _

/-
  Erasure is a substitution.  If every variable that is read
  of a type can be erased, and its classes carry no declared
  parameters, the type resolves with erasure as the type does
  without in which each variable is replaced by the class
  type that it erases to.  No variable is left there to be
  read, and every leaf of the result is the root or comes
  from a class that the type or a bound names.  What resolves
  without erasure does so with it: arguments, bounds and the
  relation of wildcards are the same, and the dimensions of
  an erased variable are added to the layers around it.
-/
theorem resolve_erased_eq_substituted
    {s : Session}
    {t : DeclaredType}
    (hReset : s.FollowsReset)
    (scope : ClassScope)
    (member : Option MemberDecl)
    (hBare : t.Bare)
    (hErasable :
      ∀ v ∈ t.readVariables,
        ∃ reference,
          (resolve scope member true (.typeVariable v) s).1 =
            .ok reference) :
    (resolve scope member true t s).1 =
        (resolve scope member false
          (t.substitute (s.erasure scope member)) s).1 ∧
      (∀ v ∈ t.readVariables,
        ∃ element dimensions,
          (resolve scope member true (.typeVariable v) s).1 =
              .ok (.simple element dimensions []) ∧
            s.erasure scope member v =
              .named element dimensions []) ∧
      (t.substitute
        (s.erasure scope member)).readVariables = [] ∧
      (∀ reference,
        (resolve scope member false t s).1 = .ok reference →
          ∃ reference',
            (resolve scope member true t s).1 =
                .ok reference' ∧
              reference.Replaces
                (fun part element dimensions =>
                  ∃ v ∈ t.readVariables,
                    (resolve scope member false
                        (.typeVariable v) s).1 =
                        .ok part ∧
                      (resolve scope member true
                        (.typeVariable v) s).1 =
                        .ok (.simple element dimensions []))
                reference') ∧
      ∀ reference',
        (resolve scope member true t s).1 = .ok reference' →
          ∀ leaf ∈ reference'.leaves,
            leaf = s.root ∨
              (∃ base ∈ t.classBases,
                leaf = (Name.splitDimensions base).1) ∨
              ∃ v p,
                s.registry.findVariable scope member v = some p ∧
                  ∃ base ∈ p.classBases,
                    leaf = (Name.splitDimensions base).1 := by
  have hEach :
      ∀ v ∈ t.readVariables,
        ∃ element dimensions,
          (resolve scope member true (.typeVariable v) s).1 =
              .ok (.simple element dimensions []) ∧
            s.erasure scope member v =
              .named element dimensions [] ∧
            (resolve scope member false
                (.named element dimensions []) s).1 =
              .ok (.simple element dimensions []) := by
    intro v hv
    rcases hErasable v hv with ⟨reference, hOk⟩
    rcases resolve_erasure hReset hOk with
      ⟨element, dimensions, rfl, hErasure, hNamed⟩
    exact ⟨element, dimensions, hOk, hErasure, hNamed false⟩
  simp only [resolve_eq_reference hReset] at hEach ⊢
  refine ⟨?_, ?_, ?_, ?_, ?_⟩
  · refine Resolution.reference_substitute ?_ ⟨hBare, ?_⟩
    · rfl
    · intro v hv
      rcases hEach v hv with
        ⟨element, dimensions, hOk, hErasure, hNamed⟩
      rw [hOk, hErasure, hNamed]
  · intro v hv
    rcases hEach v hv with
      ⟨element, dimensions, hOk, hErasure, _⟩
    exact ⟨element, dimensions, hOk, hErasure⟩
  · apply DeclaredType.readVariables_substitute
    intro v hv
    rcases hEach v hv with ⟨element, dimensions, _, hErasure, _⟩
    rw [hErasure, DeclaredType.readVariables]
  · refine Resolution.replaced_of_bareOver ?_ ?_ ⟨hBare, ?_⟩
    · rfl
    · rintro part element dimensions ⟨v, _, hPart, _⟩
      rw [Resolution.reference] at hPart
      exact (Resolution.wellFormed_of_variableRef hPart).2
    · intro v hv part hPart
      rcases hEach v hv with ⟨element, dimensions, hOk, _, _⟩
      exact ⟨element, dimensions, hOk, v, hv, hPart, hOk⟩
  · intro reference' hOk leaf hLeaf
    cases Resolution.supplies_of_reference hOk hLeaf with
    | root => exact Or.inl rfl
    | className hNamed =>
        cases hNamed with
        | inType hBase => exact Or.inr (Or.inl ⟨_, hBase, rfl⟩)
        | inBound _ hFound hBase =>
            exact Or.inr (Or.inr ⟨_, _, hFound, _, hBase, rfl⟩)
    | variableName hSymbolic _ _ => cases hSymbolic

/- Variables in array layers, in arguments and in a bound. -/
def erasableType : DeclaredType :=
  .applied "a.Map" 1 []
    [.arrayOf (.arrayOf (.typeVariable "T")),
      .wildcard [.typeVariable "X"]
        [.arrayOf (.typeVariable "U"), .typeVariable "T"],
      .wildcard [] []]

/-
  With a variable that is bounded by an array of another, its
  layer is added to those around it.
-/
theorem resolve_erased_eq_substituted_layered :
    let s : Session := run boundedHistory (reset {}).2
    let holder := ClassScope.ofDecl boundedClass
    (resolve holder none true erasableType s).1 =
        (resolve holder none false
          (erasableType.substitute (s.erasure holder none))
          s).1 ∧
      (resolve holder none true erasableType s).1 =
        .ok (.simple "a.Map" 1
          [.simple "a.B" 3 [],
            .wildcard .lower
              [.simple "a.B" 1 [], .simple "a.B" 1 []],
            .unbounded "java.lang.Object"]) := by
  intro s holder
  have hReset : s.FollowsReset :=
    ⟨{}, boundedHistory,
      by simp [boundedHistory, Operation.KeepsRoot], rfl⟩
  have hBare : erasableType.Bare := by
    simp [erasableType, DeclaredType.Bare,
      DeclaredType.AllBare]
  have hT :
      (resolve holder none true (.typeVariable "T") s).1 =
        .ok (.simple "a.B" 1 []) := by
    decide +kernel
  have hU :
      (resolve holder none true (.typeVariable "U") s).1 =
        .ok (.simple "a.B" 0 []) := by
    decide +kernel
  have hErasable :
      ∀ v ∈ erasableType.readVariables,
        ∃ reference,
          (resolve holder none true (.typeVariable v) s).1 =
            .ok reference := by
    simp only [erasableType, DeclaredType.readVariables,
      DeclaredType.readVariablesAll, List.append_nil,
      List.nil_append, List.cons_append, List.forall_mem_cons]
    exact ⟨⟨_, hT⟩, ⟨_, hU⟩, ⟨_, hT⟩,
      fun v hv => absurd hv List.not_mem_nil⟩
  refine ⟨?_, by decide +kernel⟩
  exact (resolve_erased_eq_substituted hReset holder none hBare
    hErasable).1

end Session

end DeclaredApi
