import DeclaredApi.Proofs.Resolution.Lists
import DeclaredApi.Proofs.Signature.Interning

/-
  Resolution without an interner.

  The reference of a declared type depends on what is in
  scope and on nothing that was interned before.  With a
  sound interner, resolution has exactly this reference or
  error for its result, and leaves the interner sound.

  Main declarations:
    * `Resolution.reference`
    * `Resolution.boundReference`
    * `Resolution.reference_applied_eq_ok_iff`
    * `Resolution.reference_arrayOf_eq_ok_iff`
    * `Resolution.reference_wildcard_eq_ok_iff`
    * `ResolveScope.wellFormed_of_erase`
    * `Resolution.wellFormed_of_reference`
    * `Resolution.gives_resolve`
-/

------------------------------------------------------------
-- References of Declared Types
------------------------------------------------------------

namespace DeclaredApi

namespace Resolution

mutual

/- The reference of a declared type, which is not interned. -/
def reference
    (r : Resolution) :
    DeclaredType → Except ResolveError TypeRef
| .named name dimensions parameters =>
    r.namedRef name dimensions parameters
| .applied name dimensions _ arguments => do
    let arguments ← referenceAll r arguments
    ResolveScope.ofBase (name ++ Name.brackets dimensions)
      arguments
| .arrayOf component => do
    let element ← reference r component
    if element.isWildcard then
      .error .wildcardComponent
    else
      .ok (element.addDimensions 1)
| .wildcard [] [] => .ok (.unbounded r.config.rootObject)
| .wildcard (t :: ts) [] => do
    let bounds ← referenceBounds r (t :: ts)
    pure (.wildcard .upper bounds)
| .wildcard _ (t :: ts) => do
    let bounds ← referenceBounds r (t :: ts)
    pure (.wildcard .lower bounds)
| .typeVariable name => r.variableRef name
| .unsupported => .error .unsupportedType

/- The references of a list of declared types. -/
def referenceAll
    (r : Resolution) :
    List DeclaredType → Except ResolveError (List TypeRef)
| [] => .ok []
| t :: ts => do
    let first ← reference r t
    let others ← referenceAll r ts
    pure (first :: others)

/- The references of bounds, none of which is a wildcard. -/
def referenceBounds
    (r : Resolution) :
    List DeclaredType → Except ResolveError (List TypeRef)
| [] => .ok []
| t :: ts => do
    let first ← reference r t
    if first.isWildcard then
      .error .wildcardBound
    else do
      let others ← referenceBounds r ts
      pure (first :: others)

end

/- The reference of a bound, which is no wildcard. -/
def boundReference
    (r : Resolution)
    (t : DeclaredType) : Except ResolveError TypeRef := do
  let bound ← r.reference t
  if bound.isWildcard then
    .error .wildcardBound
  else
    .ok bound

end Resolution

end DeclaredApi

------------------------------------------------------------
-- References by Their Parts
------------------------------------------------------------

namespace DeclaredApi

namespace Resolution

variable {r : Resolution}
variable {upper lower ts : List DeclaredType}
variable {relation : BoundRelation}
variable {t : DeclaredType}
variable {reference : TypeRef}

theorem referenceAll_eq_mapM
    (r : Resolution)
    (ts : List DeclaredType) :
    r.referenceAll ts = ts.mapM r.reference := by
  induction ts with
  | nil => rfl
  | cons t ts ih => rw [referenceAll, List.mapM_cons, ih]

theorem referenceBounds_eq_mapM
    (r : Resolution)
    (ts : List DeclaredType) :
    r.referenceBounds ts = ts.mapM r.boundReference := by
  induction ts with
  | nil => rfl
  | cons t ts ih =>
      rw [referenceBounds, List.mapM_cons, ih, boundReference,
        bind_assoc]
      congr
      funext bound
      cases bound.isWildcard <;> rfl

theorem boundReference_eq_ok_iff :
    r.boundReference t = .ok reference ↔
      r.reference t = .ok reference ∧
        reference.isWildcard = false := by
  rw [boundReference, Result.bind_eq_ok_iff]
  constructor
  · rintro ⟨bound, hBound, hOk⟩
    split at hOk
    · cases hOk
    · next hPlain =>
        cases hOk
        exact ⟨hBound, Bool.eq_false_iff.mpr hPlain⟩
  · rintro ⟨hOk, hPlain⟩
    exact ⟨reference, hOk, by rw [hPlain]; rfl⟩

/- A wildcard has the references of the bounds that are read. -/
theorem reference_wildcard
    (hReads :
      DeclaredType.ReadsBounds upper lower relation t ts) :
    r.reference (.wildcard upper lower) = (do
      let bounds ← (t :: ts).mapM r.boundReference
      pure (.wildcard relation bounds)) := by
  rw [← referenceBounds_eq_mapM]
  cases hReads <;> rw [Resolution.reference]

theorem reference_wildcard_eq_ok_iff
    (hReads :
      DeclaredType.ReadsBounds upper lower relation t ts) :
    r.reference (.wildcard upper lower) = .ok reference ↔
      ∃ bounds,
        (t :: ts).mapM r.boundReference = .ok bounds ∧
          .wildcard relation bounds = reference := by
  rw [reference_wildcard hReads, Result.bind_eq_ok_iff]
  simp only [pure, Except.pure, Except.ok.injEq]

theorem reference_applied_eq_ok_iff
    {name : String}
    {dimensions : Nat}
    {parameters : List TypeParameter}
    {arguments : List DeclaredType} :
    r.reference
          (.applied name dimensions parameters arguments) =
        .ok reference ↔
      ∃ references,
        arguments.mapM r.reference = .ok references ∧
          ResolveScope.ofBase
              (name ++ Name.brackets dimensions) references =
            .ok reference := by
  rw [Resolution.reference, referenceAll_eq_mapM,
    Result.bind_eq_ok_iff]

/- An array has one more dimension than what it is made of. -/
theorem reference_arrayOf_eq_ok_iff :
    r.reference (.arrayOf t) = .ok reference ↔
      ∃ element,
        r.reference t = .ok element ∧
          element.isWildcard = false ∧
            element.addDimensions 1 = reference := by
  rw [Resolution.reference, Result.bind_eq_ok_iff]
  apply exists_congr
  intro element
  cases element.isWildcard <;> simp

end Resolution

end DeclaredApi

------------------------------------------------------------
-- Well-Formed Parts
------------------------------------------------------------

namespace DeclaredApi

namespace TypeRef

/- A base that is accepted makes a well-formed reference. -/
theorem wellFormed_of_ofBase
    {base : String}
    {arguments : List TypeRef}
    {r : TypeRef}
    (hArguments : ∀ a ∈ arguments, a.WellFormed)
    (hOk : ofBase base arguments = .ok r) :
    r.WellFormed ∧ r.isWildcard = false := by
  rcases ofBase_eq_ok_iff.mp hOk with
    ⟨hDotted, hPrimitive, rfl⟩
  refine ⟨?_, rfl⟩
  rw [WellFormed, allWellFormed_iff]
  exact ⟨hDotted, hPrimitive, hArguments⟩

/- Dimensions may be added to any well-formed reference. -/
theorem WellFormed.addDimensions
    {r : TypeRef}
    (count : Nat)
    (hWellFormed : r.WellFormed) :
    (r.addDimensions count).WellFormed := by
  cases r with
  | simple element dimensions arguments =>
      rw [WellFormed] at hWellFormed
      rw [TypeRef.addDimensions, WellFormed]
      exact hWellFormed
  | wildcard relation bounds => exact hWellFormed

theorem isWildcard_addDimensions
    (r : TypeRef)
    (count : Nat) :
    (r.addDimensions count).isWildcard = r.isWildcard := by
  cases r with
  | simple element dimensions arguments => rfl
  | wildcard relation bounds => rfl

/- They do not make it a wildcard either. -/
theorem wellFormed_addDimensions
    {r : TypeRef}
    (count : Nat)
    (hPlain : r.WellFormed ∧ r.isWildcard = false) :
    (r.addDimensions count).WellFormed ∧
      (r.addDimensions count).isWildcard = false := by
  refine ⟨hPlain.1.addDimensions count, ?_⟩
  rw [isWildcard_addDimensions]
  exact hPlain.2

theorem wellFormed_named
    {element : String}
    (hDotted : Name.isDotted element = true) :
    (named element).WellFormed := by
  rw [named, WellFormed]
  exact ⟨hDotted, fun _ => rfl, trivial⟩

theorem wellFormed_unbounded
    {root : String}
    (hRoot : Name.isDotted root = true) :
    (unbounded root).WellFormed := by
  rw [unbounded, WellFormed, allWellFormed_iff]
  refine ⟨List.cons_ne_nil _ _, ?_, ?_⟩
  · intro b hb
    rw [List.mem_singleton.mp hb, named, isWildcard]
  · intro b hb
    rw [List.mem_singleton.mp hb]
    exact wellFormed_named hRoot

end TypeRef

end DeclaredApi

------------------------------------------------------------
-- Well-Formed Erasures
------------------------------------------------------------

namespace DeclaredApi

namespace ResolveScope

variable {s : ResolveScope}

/- Here a base is accepted as it is anywhere. -/
theorem ofBase_eq_ok
    {base : String}
    {arguments : List TypeRef}
    {r : TypeRef} :
    ofBase base arguments = .ok r ↔
      TypeRef.ofBase base arguments = .ok r := by
  unfold ofBase
  cases TypeRef.ofBase base arguments with
  | ok reference => simp
  | error e => simp

theorem wellFormed_of_ofBase
    {base : String}
    {arguments : List TypeRef}
    {r : TypeRef}
    (hArguments : ∀ a ∈ arguments, a.WellFormed)
    (hOk : ofBase base arguments = .ok r) :
    r.WellFormed ∧ r.isWildcard = false :=
  TypeRef.wellFormed_of_ofBase hArguments (ofBase_eq_ok.mp hOk)

/- What a base makes is named and carries the arguments. -/
theorem eq_simple_of_ofBase
    {base : String}
    {arguments : List TypeRef}
    {r : TypeRef}
    (hOk : ofBase base arguments = .ok r) :
    r =
      .simple (Name.splitDimensions base).1
        (Name.splitDimensions base).2 arguments :=
  (TypeRef.ofBase_eq_ok_iff.mp (ofBase_eq_ok.mp hOk)).2.2

/- A base accepts other arguments if it has as many of them. -/
theorem ofBase_of_length_eq
    {base : String}
    {arguments others : List TypeRef}
    {r : TypeRef}
    (hLength : arguments.length = others.length)
    (hOk : ofBase base arguments = .ok r) :
    ofBase base others =
      .ok (.simple (Name.splitDimensions base).1
        (Name.splitDimensions base).2 others) := by
  rcases TypeRef.ofBase_eq_ok_iff.mp (ofBase_eq_ok.mp hOk) with
    ⟨hDotted, hPrimitive, _⟩
  apply ofBase_eq_ok.mpr
  apply TypeRef.ofBase_eq_ok_iff.mpr
  refine ⟨hDotted, ?_, rfl⟩
  intro hName
  rw [hPrimitive hName] at hLength
  exact List.eq_nil_of_length_eq_zero hLength.symm

/- A chain of bounds ends at a class or at the root. -/
theorem wellFormed_of_eraseFrom
    {siblings : List TypeParameter}
    {fuel : Nat}
    {seen : List String}
    {p : TypeParameter}
    {r : TypeRef}
    (hRoot : Name.isDotted s.root = true)
    (hOk : eraseFrom s siblings fuel seen p = .ok r) :
    r.WellFormed ∧ r.isWildcard = false := by
  have hNamed : (TypeRef.named s.root).WellFormed :=
    TypeRef.wellFormed_named hRoot
  induction fuel generalizing seen p r with
  | zero =>
      rw [eraseFrom] at hOk
      injection hOk with hEq
      exact hEq ▸ ⟨hNamed, rfl⟩
  | succ fuel ih =>
      rcases p with ⟨name, bounds⟩
      unfold eraseFrom at hOk
      split at hOk
      · injection hOk with hEq
        exact hEq ▸ ⟨hNamed, rfl⟩
      · revert hOk
        rcases DeclaredType.tipOfFirst bounds with ⟨t, layers⟩
        intro hOk
        cases t with
        | unbounded =>
            injection hOk with hEq
            exact hEq ▸ ⟨hNamed.addDimensions layers, rfl⟩
        | className base =>
            rcases Result.bind_eq_ok_iff.mp hOk with
              ⟨reference, hBase, hPure⟩
            cases hPure
            exact TypeRef.wellFormed_addDimensions layers
              (wellFormed_of_ofBase
                (fun a ha => absurd ha List.not_mem_nil) hBase)
        | unsupported => cases hOk
        | variableName next =>
            have hNext :
                ∃ q,
                  (do
                    let reference ←
                      eraseFrom s siblings fuel (name :: seen) q
                    pure (reference.addDimensions layers)) =
                    Except.ok r := by
              simp only at hOk
              split at hOk
              · next q _ => exact ⟨q, hOk⟩
              · rcases Result.bind_eq_ok_iff.mp hOk with
                  ⟨q, _, hRest⟩
                exact ⟨q, hRest⟩
            rcases hNext with ⟨q, hOk⟩
            rcases Result.bind_eq_ok_iff.mp hOk with
              ⟨reference, hErase, hPure⟩
            cases hPure
            exact TypeRef.wellFormed_addDimensions layers
              (ih hErase)

theorem wellFormed_of_erase
    {siblings : List TypeParameter}
    {p : TypeParameter}
    {r : TypeRef}
    (hRoot : Name.isDotted s.root = true)
    (hOk : s.erase siblings p = .ok r) :
    r.WellFormed ∧ r.isWildcard = false :=
  wellFormed_of_eraseFrom hRoot hOk

/- Each reference of a list is the erasure of a parameter. -/
theorem exists_of_mem_eraseAll
    {siblings ps : List TypeParameter}
    {rs : List TypeRef}
    {r : TypeRef}
    (hOk : s.eraseAll siblings ps = .ok rs)
    (hMem : r ∈ rs) :
    ∃ p ∈ ps, s.erase siblings p = .ok r := by
  rw [eraseAll_eq_mapM] at hOk
  exact Result.exists_of_mem_mapM hOk hMem

theorem wellFormed_of_eraseAll
    {siblings ps : List TypeParameter}
    {rs : List TypeRef}
    (hRoot : Name.isDotted s.root = true)
    (hOk : s.eraseAll siblings ps = .ok rs) :
    ∀ r ∈ rs, r.WellFormed := by
  intro r hr
  rcases exists_of_mem_eraseAll hOk hr with ⟨p, _, hErase⟩
  exact (wellFormed_of_erase hRoot hErase).1

end ResolveScope

end DeclaredApi

------------------------------------------------------------
-- Well-Formed References
------------------------------------------------------------

namespace DeclaredApi

namespace Resolution

variable {r : Resolution}

theorem wellFormed_of_variableRef
    {name : String}
    {reference : TypeRef}
    (hOk : r.variableRef name = .ok reference) :
    reference.WellFormed ∧ reference.isWildcard = false := by
  rcases Result.bind_eq_ok_iff.mp hOk with ⟨p, hRequire, hOk⟩
  split at hOk
  · exact ResolveScope.wellFormed_of_erase
      r.config.rootObject_isDotted hOk
  · exact ResolveScope.wellFormed_of_ofBase
      (fun a ha => absurd ha List.not_mem_nil) hOk

theorem wellFormed_of_namedRef
    {name : String}
    {dimensions : Nat}
    {parameters : List TypeParameter}
    {reference : TypeRef}
    (hOk :
      r.namedRef name dimensions parameters = .ok reference) :
    reference.WellFormed := by
  unfold namedRef at hOk
  split at hOk
  · rcases Result.bind_eq_ok_iff.mp hOk with
      ⟨arguments, hArguments, hBase⟩
    have hEach :=
      ResolveScope.wellFormed_of_eraseAll
        r.config.rootObject_isDotted hArguments
    exact (ResolveScope.wellFormed_of_ofBase hEach hBase).1
  · rcases Result.bind_eq_ok_iff.mp hOk with
      ⟨arguments, hArguments, hBase⟩
    cases hArguments
    exact (ResolveScope.wellFormed_of_ofBase
      (fun a ha => absurd ha List.not_mem_nil) hBase).1

theorem wellFormed_of_arguments
    {ts : List DeclaredType}
    {references : List TypeRef}
    (hEach :
      ∀ t ∈ ts, ∀ reference,
        r.reference t = .ok reference → reference.WellFormed)
    (hOk : ts.mapM r.reference = .ok references) :
    ∀ reference ∈ references, reference.WellFormed := by
  intro reference hMem
  rcases Result.exists_of_mem_mapM hOk hMem with
    ⟨t, ht, hReference⟩
  exact hEach t ht reference hReference

theorem wellFormed_of_bounds
    {relation : BoundRelation}
    {t : DeclaredType}
    {ts : List DeclaredType}
    {bounds : List TypeRef}
    (hEach :
      ∀ u ∈ t :: ts, ∀ reference,
        r.reference u = .ok reference → reference.WellFormed)
    (hOk : (t :: ts).mapM r.boundReference = .ok bounds) :
    (TypeRef.wildcard relation bounds).WellFormed := by
  have hBounds :
      ∀ b ∈ bounds, b.isWildcard = false ∧ b.WellFormed := by
    intro b hb
    rcases Result.exists_of_mem_mapM hOk hb with ⟨u, hu, hBound⟩
    rcases boundReference_eq_ok_iff.mp hBound with
      ⟨hReference, hPlain⟩
    exact ⟨hPlain, hEach u hu b hReference⟩
  rw [TypeRef.WellFormed, TypeRef.allWellFormed_iff]
  refine ⟨?_, fun b hb => (hBounds b hb).1,
    fun b hb => (hBounds b hb).2⟩
  rcases Result.mapM_cons_eq_ok_iff.mp hOk with
    ⟨first, others, _, _, rfl⟩
  exact List.cons_ne_nil first others

/- The reference of a declared type is well formed. -/
theorem wellFormed_of_reference
    {t : DeclaredType}
    {reference : TypeRef}
    (hOk : r.reference t = .ok reference) :
    reference.WellFormed := by
  induction t using DeclaredType.inductionOnRead
    generalizing reference with
  | named name dimensions parameters =>
      rw [Resolution.reference] at hOk
      exact wellFormed_of_namedRef hOk
  | applied name dimensions parameters arguments ih =>
      rcases reference_applied_eq_ok_iff.mp hOk with
        ⟨references, hArguments, hBase⟩
      have hEach :=
        wellFormed_of_arguments
          (fun t ht reference => ih t ht) hArguments
      exact (ResolveScope.wellFormed_of_ofBase hEach hBase).1
  | arrayOf component ih =>
      rcases reference_arrayOf_eq_ok_iff.mp hOk with
        ⟨element, hElement, _, rfl⟩
      exact (ih hElement).addDimensions 1
  | unbounded =>
      rw [Resolution.reference] at hOk
      cases hOk
      exact TypeRef.wellFormed_unbounded
        r.config.rootObject_isDotted
  | bounded hReads ih =>
      rcases (reference_wildcard_eq_ok_iff hReads).mp hOk with
        ⟨bounds, hBounds, rfl⟩
      exact wellFormed_of_bounds (fun u hu reference => ih u hu)
        hBounds
  | typeVariable name =>
      rw [Resolution.reference] at hOk
      exact (wellFormed_of_variableRef hOk).1
  | unsupported =>
      rw [Resolution.reference] at hOk
      cases hOk

end Resolution

end DeclaredApi

------------------------------------------------------------
-- Interning on the Way
------------------------------------------------------------

namespace DeclaredApi

namespace Resolution

open Interner

variable {r : Resolution}
variable {inv : Interner → Prop}

/- A well-formed reference is kept as it is. -/
theorem gives_keep
    {reference : TypeRef}
    (hKept : Kept r.config.rootObject inv)
    (hWellFormed : reference.WellFormed) :
    Action.Gives inv (.ok reference) (r.keep reference) := by
  intro interner hInv
  have hStored :=
    intern_of_sound (hKept.sound hInv) hWellFormed
  exact ⟨congrArg Except.ok hStored,
    hKept.intern hWellFormed hInv⟩

theorem gives_keepResult
    {result : Except ResolveError TypeRef}
    (hKept : Kept r.config.rootObject inv)
    (hWellFormed :
      ∀ reference,
        result = .ok reference → reference.WellFormed) :
    Action.Gives inv result (r.keepResult result) := by
  cases result with
  | ok reference => exact gives_keep hKept (hWellFormed reference rfl)
  | error e => exact Action.gives_throw e

/- A bound is resolved to its reference if its type is. -/
theorem gives_resolveBound
    {t : DeclaredType}
    (hType : Action.Gives inv (r.reference t) (r.resolve t)) :
    Action.Gives inv (r.boundReference t) (r.resolveBound t) := by
  rw [boundReference, resolveBound]
  apply hType.bind
  intro bound _
  split
  · exact Action.gives_throw ResolveError.wildcardBound
  · exact Action.gives_pure bound

/-
  Each reference on the way is well formed, so that what is
  stored under its canonical text is the reference itself.
-/
theorem gives_resolve
    (t : DeclaredType)
    (hKept : Kept r.config.rootObject inv) :
    Action.Gives inv (r.reference t) (r.resolve t) := by
  induction t using DeclaredType.inductionOnRead with
  | named name dimensions parameters =>
      rw [reference, resolve]
      exact gives_keepResult hKept
        (fun _ hOk => wellFormed_of_namedRef hOk)
  | applied name dimensions parameters arguments ih =>
      rw [reference, resolve, referenceAll_eq_mapM,
        resolveAll_eq_mapM]
      apply (Action.gives_mapM ih).bind
      intro references hArguments
      have hEach :=
        wellFormed_of_arguments
          (fun _ _ _ => wellFormed_of_reference) hArguments
      apply gives_keepResult hKept
      intro out hOut
      exact (ResolveScope.wellFormed_of_ofBase hEach hOut).1
  | arrayOf component ih =>
      rw [reference, resolve]
      apply ih.bind
      intro element hElement
      split
      · exact Action.gives_throw ResolveError.wildcardComponent
      · exact gives_keep hKept
          ((wellFormed_of_reference hElement).addDimensions 1)
  | unbounded =>
      rw [reference, resolve]
      exact gives_keep hKept
        (TypeRef.wellFormed_unbounded
          r.config.rootObject_isDotted)
  | bounded hReads ih =>
      have hEach :=
        fun u hu => gives_resolveBound (ih u hu)
      rw [reference_wildcard hReads, resolve_wildcard r hReads]
      apply (Action.gives_mapM hEach).bind
      intro bounds hBounds
      exact gives_keep hKept
        (wellFormed_of_bounds
          (fun _ _ _ => wellFormed_of_reference) hBounds)
  | typeVariable name =>
      rw [reference, resolve]
      exact gives_keepResult hKept
        (fun _ hOk => (wellFormed_of_variableRef hOk).1)
  | unsupported =>
      rw [reference, resolve]
      exact Action.gives_throw ResolveError.unsupportedType

end Resolution

end DeclaredApi
