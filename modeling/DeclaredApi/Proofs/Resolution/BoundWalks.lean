import Mathlib.Data.Finset.Card
import Mathlib.Logic.Relation
import DeclaredApi.Proofs.Resolution.Substitution
import DeclaredApi.Proofs.Scope.Registration
import DeclaredApi.Proofs.Signature.WildcardFree

/-
  Walks along first bounds.

  A type parameter of a class is erased by a walk from bound
  to bound.  Each step goes into a type, or on to the first
  bound of a parameter that was not passed before.  There are
  only so many parameters to pass and types are finite, so
  every walk ends, and what it ends at is the erasure: a
  class, or the root object type, with the array layers that
  were passed.

  Main declarations:
    * `DeclaredType.GroundedIn`
    * `BoundWalk.Step`
    * `BoundWalk.Ends`
    * `BoundWalk.wellFounded_step`
    * `BoundWalk.exists_ends`
    * `ResolveScope.erasesTo_of_walk`
    * `Session.erasure_follows_first_bounds`
-/

------------------------------------------------------------
-- Walks
------------------------------------------------------------

namespace DeclaredApi

/-
  The type that a walk has come to, the array layers and the
  names of the parameters that it has passed.
-/
structure BoundWalk where
  type : DeclaredType
  layers : Nat
  passed : List String

namespace BoundWalk

/- A walk starts at a type variable. -/
def start (name : String) : BoundWalk where
  type := .typeVariable name
  layers := 0
  passed := []

variable {ps : List TypeParameter}

/- One step of a walk among some type parameters. -/
inductive Step
    (ps : List TypeParameter) : BoundWalk → BoundWalk → Prop
| component
    {component : DeclaredType}
    {layers : Nat}
    {passed : List String} :
    Step ps ⟨.arrayOf component, layers, passed⟩
      ⟨component, layers + 1, passed⟩
| raw
    {name : String}
    {dimensions layers : Nat}
    {parameters : List TypeParameter}
    {arguments : List DeclaredType}
    {passed : List String} :
    Step ps
      ⟨.applied name dimensions parameters arguments, layers,
        passed⟩
      ⟨.named name dimensions parameters, layers, passed⟩
| upper
    {first : DeclaredType}
    {others lower : List DeclaredType}
    {layers : Nat}
    {passed : List String} :
    Step ps ⟨.wildcard (first :: others) lower, layers, passed⟩
      ⟨first, layers, passed⟩
| bound
    {p : TypeParameter}
    {first : DeclaredType}
    {others : List DeclaredType}
    {layers : Nat}
    {passed : List String}
    (hMem : p ∈ ps)
    (hNew : p.name ∉ passed)
    (hBounds : p.bounds = first :: others) :
    Step ps ⟨.typeVariable p.name, layers, passed⟩
      ⟨first, layers, p.name :: passed⟩

/-
  What a walk ends at: a class with its own dimensions, or
  the root at a wildcard without upper bounds, at a parameter
  without bounds, and at one that was passed before.
-/
inductive Ends
    (ps : List TypeParameter)
    (root : String) : BoundWalk → TypeRef → Prop
| className
    {name : String}
    {dimensions layers : Nat}
    {parameters : List TypeParameter}
    {passed : List String} :
    Ends ps root ⟨.named name dimensions parameters, layers, passed⟩
      (.simple name (dimensions + layers) [])
| noUpper
    {lower : List DeclaredType}
    {layers : Nat}
    {passed : List String} :
    Ends ps root ⟨.wildcard [] lower, layers, passed⟩
      (.simple root layers [])
| noBounds
    {p : TypeParameter}
    {layers : Nat}
    {passed : List String}
    (hMem : p ∈ ps)
    (hBounds : p.bounds = []) :
    Ends ps root ⟨.typeVariable p.name, layers, passed⟩
      (.simple root layers [])
| again
    {name : String}
    {layers : Nat}
    {passed : List String}
    (hPassed : name ∈ passed) :
    Ends ps root ⟨.typeVariable name, layers, passed⟩
      (.simple root layers [])

end BoundWalk

end DeclaredApi

------------------------------------------------------------
-- Termination
------------------------------------------------------------

namespace DeclaredApi

namespace BoundWalk

variable {ps : List TypeParameter}

/- The number of parameters that a walk can still pass. -/
def remaining
    (ps : List TypeParameter)
    (w : BoundWalk) : Nat :=
  ((ps.map TypeParameter.name).toFinset \
    w.passed.toFinset).card

/- Passing a parameter for the first time leaves fewer. -/
theorem remaining_pass
    {p : TypeParameter}
    {passed : List String}
    {t t' : DeclaredType}
    {layers layers' : Nat}
    (hMem : p ∈ ps)
    (hNew : p.name ∉ passed) :
    remaining ps ⟨t', layers', p.name :: passed⟩ <
      remaining ps ⟨t, layers, passed⟩ := by
  have hName : p.name ∈ ps.map TypeParameter.name :=
    List.mem_map_of_mem hMem
  unfold remaining
  apply Finset.card_lt_card
  rw [List.toFinset_cons, Finset.sdiff_insert]
  apply Finset.erase_ssubset
  simpa [hNew] using hName

/-
  A walk that goes on has fewer parameters to pass, or as
  many and a smaller type.
-/
theorem Step.decreases
    {w w' : BoundWalk}
    (hStep : Step ps w w') :
    Prod.Lex (· < ·) (· < ·)
      (remaining ps w', sizeOf w'.type)
      (remaining ps w, sizeOf w.type) := by
  cases hStep with
  | component =>
      apply Prod.Lex.right
      simp
  | @raw _ _ _ _ arguments =>
      have hArguments : 0 < sizeOf arguments := by
        cases arguments with
        | nil => simp
        | cons t ts =>
            simp only [List.cons.sizeOf_spec]
            omega
      apply Prod.Lex.right
      simpa using hArguments
  | upper =>
      apply Prod.Lex.right
      simp
      omega
  | bound hMem hNew hBounds =>
      exact Prod.Lex.left _ _ (remaining_pass hMem hNew)

/- So no walk goes on for ever. -/
theorem wellFounded_step
    (ps : List TypeParameter) :
    WellFounded (fun w' w => Step ps w w') :=
  Subrelation.wf Step.decreases
    (InvImage.wf (fun w => (remaining ps w, sizeOf w.type))
      (Prod.lex ⟨_, wellFounded_lt⟩ ⟨_, wellFounded_lt⟩).wf)

end BoundWalk

end DeclaredApi

------------------------------------------------------------
-- Ends
------------------------------------------------------------

namespace DeclaredApi

namespace DeclaredType

mutual

/-
  The class or variable that a type is built on has a valid
  class name or one of some names.  Arguments, lower bounds
  and further upper bounds do not matter.
-/
def GroundedIn
    (names : List String) : DeclaredType → Prop
| .named name _ _ => Name.isDotted name = true
| .applied name _ _ _ => Name.isDotted name = true
| .arrayOf component => GroundedIn names component
| .wildcard upper _ => FirstGroundedIn names upper
| .typeVariable name => name ∈ names
| .unsupported => False

/- This is so for the first type of a list, if there is one. -/
def FirstGroundedIn
    (names : List String) : List DeclaredType → Prop
| [] => True
| t :: _ => GroundedIn names t

end

end DeclaredType

namespace BoundWalk

open DeclaredType
open Relation (ReflTransGen)

variable {ps : List TypeParameter}
variable {names : List String}

/- A step leads from a grounded type to another one. -/
theorem Step.groundedIn
    {w w' : BoundWalk}
    (hBounds : ∀ p ∈ ps, FirstGroundedIn names p.bounds)
    (hStep : Step ps w w')
    (hGrounded : w.type.GroundedIn names) :
    w'.type.GroundedIn names := by
  cases hStep with
  | component =>
      rw [GroundedIn] at hGrounded
      exact hGrounded
  | raw => simpa only [GroundedIn] using hGrounded
  | upper =>
      rw [GroundedIn, FirstGroundedIn] at hGrounded
      exact hGrounded
  | bound hMem _ hFirst =>
      have hBound := hBounds _ hMem
      rw [hFirst, FirstGroundedIn] at hBound
      exact hBound

/- And so does a walk. -/
theorem groundedIn_of_walk
    {w last : BoundWalk}
    (hBounds : ∀ p ∈ ps, FirstGroundedIn names p.bounds)
    (hWalk : ReflTransGen (Step ps) w last)
    (hGrounded : w.type.GroundedIn names) :
    last.type.GroundedIn names := by
  induction hWalk with
  | refl => exact hGrounded
  | tail _ hStep ih => exact hStep.groundedIn hBounds ih

/- A walk starts at a parameter of its own. -/
theorem start_groundedIn
    {p : TypeParameter}
    (hMem : p ∈ ps) :
    (start p.name).type.GroundedIn
      (ps.map TypeParameter.name) := by
  rw [start, GroundedIn]
  exact List.mem_map_of_mem hMem

/- A walk that has not ended can go on. -/
theorem ends_or_step
    {w : BoundWalk}
    (root : String)
    (hGrounded :
      w.type.GroundedIn (ps.map TypeParameter.name)) :
    (∃ r, Ends ps root w r) ∨ ∃ w', Step ps w w' := by
  rcases w with ⟨t, layers, passed⟩
  cases t with
  | named name dimensions parameters =>
      exact Or.inl ⟨_, .className⟩
  | applied name dimensions parameters arguments =>
      exact Or.inr ⟨_, .raw⟩
  | arrayOf component => exact Or.inr ⟨_, .component⟩
  | wildcard upper lower =>
      cases upper with
      | nil => exact Or.inl ⟨_, .noUpper⟩
      | cons first others => exact Or.inr ⟨_, .upper⟩
  | typeVariable name =>
      rw [GroundedIn] at hGrounded
      rcases List.mem_map.mp hGrounded with ⟨p, hMem, rfl⟩
      by_cases hPassed : p.name ∈ passed
      · exact Or.inl ⟨_, .again hPassed⟩
      · cases hFirst : p.bounds with
        | nil => exact Or.inl ⟨_, .noBounds hMem hFirst⟩
        | cons first others =>
            exact Or.inr ⟨_, .bound hMem hPassed hFirst⟩
  | unsupported => exact hGrounded.elim

/- So every walk comes to an end. -/
theorem exists_ends
    (root : String)
    (w : BoundWalk)
    (hBounds :
      ∀ p ∈ ps,
        FirstGroundedIn (ps.map TypeParameter.name) p.bounds)
    (hGrounded :
      w.type.GroundedIn (ps.map TypeParameter.name)) :
    ∃ last r,
      ReflTransGen (Step ps) w last ∧ Ends ps root last r := by
  induction w using (wellFounded_step ps).induction with
  | _ w ih =>
      rcases ends_or_step root hGrounded with
        ⟨r, hEnds⟩ | ⟨w', hStep⟩
      · exact ⟨w, r, .refl, hEnds⟩
      · rcases ih w' hStep (hStep.groundedIn hBounds hGrounded)
          with ⟨last, r, hWalk, hEnds⟩
        exact ⟨last, r, hWalk.head hStep, hEnds⟩

end BoundWalk

end DeclaredApi

------------------------------------------------------------
-- Erasures along Walks
------------------------------------------------------------

namespace DeclaredApi

/- In a list without homonyms a parameter is found by name. -/
theorem TypeParameter.find?_name_of_mem
    {ps : List TypeParameter}
    {p : TypeParameter}
    (hNames : (ps.map name).Nodup)
    (hMem : p ∈ ps) :
    ps.find? (fun q => q.name = p.name) = some p := by
  cases hFind : ps.find? (fun q => q.name = p.name) with
  | none =>
      have hNone := List.find?_eq_none.mp hFind p hMem
      simp at hNone
  | some q =>
      have hName : q.name = p.name := by
        simpa using List.find?_some hFind
      have hFound := List.mem_of_find?_eq_some hFind
      rw [List.inj_on_of_nodup_map hNames hFound hMem hName]

namespace ResolveScope

open Relation (ReflTransGen)

variable {s : ResolveScope}
variable {siblings ps : List TypeParameter}

/-
  What the tip of a type erases to, with the names that are
  on the chain before it.
-/
def TipErasesTo
    (s : ResolveScope)
    (siblings : List TypeParameter)
    (seen : List String)
    (r : TypeRef) : DeclaredType.Tip × Nat → Prop
| (.unbounded, layers) =>
    r = (TypeRef.named s.root).addDimensions layers
| (.className base, layers) =>
    ∃ reference,
      ofBase base [] = .ok reference ∧
        r = reference.addDimensions layers
| (.variableName next, layers) =>
    ∃ q reference,
      s.declaration? siblings next = some q ∧
        s.ErasesTo siblings seen q reference ∧
          r = reference.addDimensions layers
| (.unsupported, _) => False

/- One more layer adds one more dimension. -/
theorem TipErasesTo.layer
    {seen : List String}
    {r : TypeRef}
    {tip : DeclaredType.Tip}
    {layers : Nat}
    (hTip : s.TipErasesTo siblings seen r (tip, layers)) :
    s.TipErasesTo siblings seen (r.addDimensions 1)
      (tip, layers + 1) := by
  cases tip with
  | unbounded =>
      rw [TipErasesTo] at hTip ⊢
      rw [hTip, TypeRef.addDimensions_addDimensions]
  | className base =>
      rcases hTip with ⟨reference, hBase, rfl⟩
      refine ⟨reference, hBase, ?_⟩
      rw [TypeRef.addDimensions_addDimensions]
  | variableName next =>
      rcases hTip with ⟨q, reference, hFound, hErases, rfl⟩
      refine ⟨q, reference, hFound, hErases, ?_⟩
      rw [TypeRef.addDimensions_addDimensions]
  | unsupported => exact hTip.elim

/- A new parameter erases as the tip of its first bound. -/
theorem ErasesTo.of_tipErasesTo
    {seen : List String}
    {p : TypeParameter}
    {r : TypeRef}
    (hNew : p.name ∉ seen)
    (hTip :
      s.TipErasesTo siblings (p.name :: seen) r
        (DeclaredType.tipOfFirst p.bounds)) :
    s.ErasesTo siblings seen p r := by
  rcases hBound : DeclaredType.tipOfFirst p.bounds with
    ⟨tip, layers⟩
  rw [hBound] at hTip
  cases tip with
  | unbounded =>
      rw [TipErasesTo] at hTip
      exact hTip ▸ .unbounded hNew hBound
  | className base =>
      rcases hTip with ⟨reference, hBase, rfl⟩
      exact .className hNew hBound hBase
  | variableName next =>
      rcases hTip with ⟨q, reference, hFound, hErases, rfl⟩
      exact .variableName hNew hBound hFound hErases
  | unsupported => exact hTip.elim

/-
  What a walk ends at is what the tip of its type erases to.
-/
theorem tipErasesTo_of_ends
    {last : BoundWalk}
    {r : TypeRef}
    (hFinds :
      ∀ p ∈ ps, s.declaration? siblings p.name = some p)
    (hGrounded :
      last.type.GroundedIn (ps.map TypeParameter.name))
    (hEnds : last.Ends ps s.root r) :
    ∃ reference,
      s.TipErasesTo siblings last.passed reference
          last.type.tip ∧
        r = reference.addDimensions last.layers := by
  cases hEnds with
  | @className name dimensions layers parameters passed =>
      rw [DeclaredType.GroundedIn] at hGrounded
      have hBase :
          ofBase (name ++ Name.brackets dimensions) [] =
            .ok (.simple name dimensions []) :=
        ofBase_eq_ok.mpr
          (TypeRef.ofBase_of_isDotted dimensions hGrounded
            (fun _ => rfl))
      exact ⟨_, ⟨_, hBase, (TypeRef.addDimensions_zero _).symm⟩,
        rfl⟩
  | @noUpper lower layers passed =>
      refine ⟨.named s.root, rfl, ?_⟩
      rw [TypeRef.named, TypeRef.addDimensions, Nat.zero_add]
  | @noBounds p layers passed hMem hBounds =>
      refine ⟨.named s.root,
        ⟨p, .named s.root, hFinds p hMem, ?_, rfl⟩, ?_⟩
      · by_cases hPassed : p.name ∈ passed
        · exact .again hPassed
        · apply ErasesTo.of_tipErasesTo hPassed
          rw [hBounds]
          rfl
      · rw [TypeRef.named, TypeRef.addDimensions, Nat.zero_add]
  | @again name layers passed hPassed =>
      rw [DeclaredType.GroundedIn] at hGrounded
      rcases List.mem_map.mp hGrounded with ⟨p, hMem, rfl⟩
      refine ⟨.named s.root,
        ⟨p, .named s.root, hFinds p hMem, .again hPassed, rfl⟩,
        ?_⟩
      rw [TypeRef.named, TypeRef.addDimensions, Nat.zero_add]

/- And this does not change from step to step. -/
theorem tipErasesTo_of_walk
    {w last : BoundWalk}
    {r : TypeRef}
    (hFinds :
      ∀ p ∈ ps, s.declaration? siblings p.name = some p)
    (hGrounded :
      last.type.GroundedIn (ps.map TypeParameter.name))
    (hWalk : ReflTransGen (BoundWalk.Step ps) w last)
    (hEnds : last.Ends ps s.root r) :
    ∃ reference,
      s.TipErasesTo siblings w.passed reference w.type.tip ∧
        r = reference.addDimensions w.layers := by
  induction hWalk using ReflTransGen.head_induction_on with
  | refl => exact tipErasesTo_of_ends hFinds hGrounded hEnds
  | head hStep _ ih =>
      rcases ih with ⟨reference, hTip, rfl⟩
      cases hStep with
      | component =>
          refine ⟨reference.addDimensions 1, hTip.layer, ?_⟩
          rw [TypeRef.addDimensions_addDimensions, Nat.add_comm]
      | raw => exact ⟨reference, hTip, rfl⟩
      | upper => exact ⟨reference, hTip, rfl⟩
      | @bound p first others layers passed hMem hNew hBounds =>
          have hErases : s.ErasesTo siblings passed p reference := by
            apply ErasesTo.of_tipErasesTo hNew
            rw [hBounds]
            exact hTip
          exact ⟨reference,
            ⟨p, reference, hFinds p hMem, hErases,
              (TypeRef.addDimensions_zero reference).symm⟩,
            rfl⟩

/- A parameter erases to what a walk from it ends at. -/
theorem erasesTo_of_walk
    {p : TypeParameter}
    {last : BoundWalk}
    {r : TypeRef}
    (hFinds :
      ∀ p ∈ ps, s.declaration? siblings p.name = some p)
    (hBounds :
      ∀ p ∈ ps,
        DeclaredType.FirstGroundedIn
          (ps.map TypeParameter.name) p.bounds)
    (hMem : p ∈ ps)
    (hWalk :
      ReflTransGen (BoundWalk.Step ps)
        (BoundWalk.start p.name) last)
    (hEnds : last.Ends ps s.root r) :
    s.ErasesTo siblings [] p r := by
  have hGrounded :=
    BoundWalk.groundedIn_of_walk hBounds hWalk
      (BoundWalk.start_groundedIn hMem)
  rcases tipErasesTo_of_walk hFinds hGrounded hWalk hEnds with
    ⟨_, ⟨q, reference, hFound, hErases, rfl⟩, rfl⟩
  cases (hFinds p hMem).symm.trans hFound
  simpa only [BoundWalk.start, TypeRef.addDimensions_zero]
    using hErases

/-
  There is such a walk, so a parameter has an erasure, and
  this is the same in all scopes with the same root in which
  the parameters are found.
-/
theorem erases_as_walk
    {p : TypeParameter}
    (hFinds :
      ∀ p ∈ ps, s.declaration? siblings p.name = some p)
    (hBounds :
      ∀ p ∈ ps,
        DeclaredType.FirstGroundedIn
          (ps.map TypeParameter.name) p.bounds)
    (hMem : p ∈ ps) :
    (∃ r, s.erase siblings p = .ok r) ∧
      ∀ r,
        s.erase siblings p = .ok r ↔
          ∃ last,
            ReflTransGen (BoundWalk.Step ps)
                (BoundWalk.start p.name) last ∧
              last.Ends ps s.root r := by
  have hEach :
      ∀ last r,
        ReflTransGen (BoundWalk.Step ps)
            (BoundWalk.start p.name) last →
          last.Ends ps s.root r →
            s.erase siblings p = .ok r :=
    fun last r hWalk hEnds =>
      erase_eq_ok_iff.mpr
        (erasesTo_of_walk hFinds hBounds hMem hWalk hEnds)
  rcases BoundWalk.exists_ends s.root (.start p.name) hBounds
      (BoundWalk.start_groundedIn hMem) with
    ⟨last, found, hWalk, hEnds⟩
  have hOk := hEach last found hWalk hEnds
  refine ⟨⟨found, hOk⟩, ?_⟩
  intro r
  constructor
  · intro hErases
    cases Except.ok.inj (hOk.symm.trans hErases)
    exact ⟨last, hWalk, hEnds⟩
  · rintro ⟨last, hWalk, hEnds⟩
    exact hEach last r hWalk hEnds

end ResolveScope

end DeclaredApi

------------------------------------------------------------
-- Plain References
------------------------------------------------------------

namespace DeclaredApi

namespace Resolution

/- A variable that is found erases as the parameter does. -/
theorem erasedVariable_of_findVariable
    {r : Resolution}
    {name : String}
    {p : TypeParameter}
    (hErases : r.erases = true)
    (hFound :
      r.registry.findVariable r.scope r.member name = some p) :
    r.variableRef name = r.toScope.erase [] p := by
  have hRequire : r.toScope.require name = .ok p := by
    rw [ResolveScope.require, Registry.requireVariable, toScope,
      hFound]
  rw [variableRef, hRequire, hErases]
  rfl

/-
  A reference without wildcards is kept as it is, whatever
  roots were configured while references were interned.
-/
theorem fst_keepResult
    {r : Resolution}
    {interner : Interner}
    {result : Except ResolveError TypeRef}
    (hUnmistaken : interner.Unmistaken)
    (hPlain :
      ∀ reference,
        result = .ok reference →
          reference.WellFormed ∧ reference.WildcardFree) :
    (r.keepResult result interner).1 = result := by
  cases result with
  | error e => rfl
  | ok reference =>
      rcases hPlain reference rfl with ⟨hWellFormed, hFree⟩
      exact congrArg Except.ok
        (Interner.intern_of_wildcardFree r.config hUnmistaken
          hWellFormed hFree)

end Resolution

namespace Session

/- After any history no plain text is mistaken. -/
theorem unmistaken_run
    (start : Session)
    (ops : List Operation) :
    (run ops (reset start).2).interner.Unmistaken :=
  interner_run start ops Interner.stores_unmistaken
    Interner.unmistaken_empty

/- So a variable is erased whatever was interned. -/
theorem resolve_erasedVariable
    {s : Session}
    (scope : ClassScope)
    (member : Option MemberDecl)
    (v : String)
    (hUnmistaken : s.interner.Unmistaken) :
    (resolve scope member true (.typeVariable v) s).1 =
      Resolution.variableRef
        ⟨s.config, s.registry, scope, member, true⟩ v := by
  have hPlain :
      ∀ reference,
        Resolution.variableRef
            ⟨s.config, s.registry, scope, member, true⟩ v =
            .ok reference →
          reference.WellFormed ∧ reference.WildcardFree := by
    intro reference hOk
    have hReference := hOk
    rw [← Resolution.reference] at hReference
    rcases Resolution.exists_simple_of_erasedVariable rfl
        hReference with
      ⟨element, dimensions, rfl, _⟩
    exact ⟨(Resolution.wellFormed_of_variableRef hOk).1,
      by rw [TypeRef.WildcardFree]; trivial⟩
  exact Resolution.fst_keepResult hUnmistaken hPlain

end Session

end DeclaredApi

------------------------------------------------------------
-- Classes of Their Own
------------------------------------------------------------

namespace DeclaredApi

namespace Session

open Relation (ReflTransGen)

/- A class finds its own parameters before all others. -/
theorem findVariable_ofDecl
    {c : ClassDecl}
    {p : TypeParameter}
    (registry : Registry)
    (hNames : (c.typeParameters.map TypeParameter.name).Nodup)
    (hMem : p ∈ c.typeParameters) :
    registry.findVariable (ClassScope.ofDecl c) none p.name =
      some p := by
  apply Registry.findInClass_of_declaration?
  rw [ClassScope.declaration?_ofDecl]
  apply TypeParameter.find?_name_of_mem
  · rw [List.map_reverse]
    exact List.nodup_reverse.mpr hNames
  · exact List.mem_reverse.mpr hMem

/- So it erases them, whatever was interned. -/
theorem resolve_ownVariable
    {s : Session}
    {c : ClassDecl}
    {p : TypeParameter}
    (hUnmistaken : s.interner.Unmistaken)
    (hNames : (c.typeParameters.map TypeParameter.name).Nodup)
    (hMem : p ∈ c.typeParameters) :
    (resolve (ClassScope.ofDecl c) none true
        (.typeVariable p.name) s).1 =
      ResolveScope.erase
        ⟨s.root, s.registry, ClassScope.ofDecl c, none⟩ [] p := by
  rw [resolve_erasedVariable _ none p.name hUnmistaken]
  exact Resolution.erasedVariable_of_findVariable rfl
    (findVariable_ofDecl s.registry hNames hMem)

/-
  Erasure follows first bounds.  Take a class whose type
  parameters have different names, and whose first bounds are
  built on them and on valid class names.  No walk from one
  of the parameters goes on for ever.  After any history the
  parameter erases to a reference, and this is what the walk
  from it ends at: the class that it meets, with its own
  dimensions and the array layers that were passed, or the
  root in its place, at a parameter or wildcard without
  bounds and at a parameter that was passed before.
-/
theorem erasure_follows_first_bounds
    {c : ClassDecl}
    (start : Session)
    (ops : List Operation)
    (hNames : (c.typeParameters.map TypeParameter.name).Nodup)
    (hBounds :
      ∀ p ∈ c.typeParameters,
        DeclaredType.FirstGroundedIn
          (c.typeParameters.map TypeParameter.name)
          p.bounds) :
    let s := run ops (reset start).2
    let scope := ClassScope.ofDecl c
    WellFounded
        (fun w' w => BoundWalk.Step c.typeParameters w w') ∧
      ∀ p ∈ c.typeParameters,
        (∃ r,
          (resolve scope none true (.typeVariable p.name) s).1 =
            .ok r) ∧
          ∀ r,
            (resolve scope none true
                (.typeVariable p.name) s).1 = .ok r ↔
              ∃ last,
                ReflTransGen (BoundWalk.Step c.typeParameters)
                    (BoundWalk.start p.name) last ∧
                  last.Ends c.typeParameters s.root r := by
  intro s scope
  refine ⟨BoundWalk.wellFounded_step _, ?_⟩
  intro p hMem
  rw [resolve_ownVariable (unmistaken_run start ops) hNames
    hMem]
  exact ResolveScope.erases_as_walk
    (fun _ hq => findVariable_ofDecl s.registry hNames hq)
    hBounds hMem

/- A class with a cycle of three bounds, and a way into it. -/
def cycleClass : ClassDecl where
  name := "a.D"
  typeParameters :=
    [.mk "T" [.arrayOf (.arrayOf (.typeVariable "U"))],
      .mk "U" [.wildcard [.typeVariable "V"] []],
      .mk "V" [.arrayOf (.typeVariable "T"), .ofName "a.B"],
      .mk "W" [.applied "a.B" 1 [] [.typeVariable "T"]]]

/- Its bounds are built on its own variables and a class. -/
theorem firstGroundedIn_cycleClass :
    ∀ p ∈ cycleClass.typeParameters,
      DeclaredType.FirstGroundedIn
        (cycleClass.typeParameters.map TypeParameter.name)
        p.bounds := by
  have hDotted : Name.isDotted "a.B" = true := by decide
  simp [cycleClass, TypeParameter.bounds, TypeParameter.name,
    DeclaredType.FirstGroundedIn, DeclaredType.GroundedIn,
    hDotted]

/- The root changes after a wildcard was interned. -/
def changedRootHistory (config : Config) : List Operation :=
  [.parse "a.B<?>", .register cycleClass, .configure config]

/-
  Around the cycle three layers are passed, and the root is
  that of the last configuration.  A class with arguments is
  met as the raw class, with the dimensions that it has.
-/
theorem erasure_follows_first_bounds_cycle :
    let config : Config := { rootObject := "a.Root" }
    let s := run (changedRootHistory config) (reset {}).2
    let scope := ClassScope.ofDecl cycleClass
    (resolve scope none true (.typeVariable "T") s).1 =
        .ok (.simple "a.Root" 3 []) ∧
      (resolve scope none true (.typeVariable "W") s).1 =
        .ok (.simple "a.B" 1 []) := by
  intro config s scope
  have hErasure :=
    erasure_follows_first_bounds {} (changedRootHistory config)
      (by decide) firstGroundedIn_cycleClass
  have hT :
      TypeParameter.mk "T"
          [.arrayOf (.arrayOf (.typeVariable "U"))] ∈
        cycleClass.typeParameters :=
    List.mem_cons_self
  have hU :
      TypeParameter.mk "U" [.wildcard [.typeVariable "V"] []] ∈
        cycleClass.typeParameters :=
    List.mem_cons_of_mem _ List.mem_cons_self
  have hV :
      TypeParameter.mk "V"
          [.arrayOf (.typeVariable "T"), .ofName "a.B"] ∈
        cycleClass.typeParameters :=
    List.mem_cons_of_mem _
      (List.mem_cons_of_mem _ List.mem_cons_self)
  have hW :
      TypeParameter.mk "W"
          [.applied "a.B" 1 [] [.typeVariable "T"]] ∈
        cycleClass.typeParameters := by
    simp [cycleClass]
  have hAround :
      ReflTransGen (BoundWalk.Step cycleClass.typeParameters)
        (.start "T")
        ⟨.typeVariable "T", 3, ["V", "U", "T"]⟩ :=
    .head (.bound hT List.not_mem_nil rfl)
      (.head .component
        (.head .component
          (.head (.bound hU (by decide) rfl)
            (.head .upper
              (.head (.bound hV (by decide) rfl)
                (.single .component))))))
  have hRaw :
      ReflTransGen (BoundWalk.Step cycleClass.typeParameters)
        (.start "W") ⟨.named "a.B" 1 [], 0, ["W"]⟩ :=
    .head (.bound hW List.not_mem_nil rfl) (.single .raw)
  refine ⟨?_, ?_⟩
  · exact ((hErasure.2 _ hT).2 _).mpr
      ⟨_, hAround, .again (by decide)⟩
  · exact ((hErasure.2 _ hW).2 _).mpr ⟨_, hRaw, .className⟩

end Session

end DeclaredApi
