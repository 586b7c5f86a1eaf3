import DeclaredApi.Declaration.Class
import DeclaredApi.Resolution.Erasure

/-
  Type variables of declarations.

  A declared type mentions variables at any depth, also in
  the bounds of the parameters that it carries.  A class
  declares types for itself and for its members, and what a
  variable erases to is built on a variable or class of its
  first bound.

  Key definitions include:
    * `DeclaredType.inductionOnParts`
    * `DeclaredType.ReadsBounds`
    * `DeclaredType.inductionOnRead`
    * `DeclaredType.mentions`
    * `DeclaredType.Within`
    * `DeclaredType.addDimensions_cases`
    * `TypeParameter.mentions`
    * `MemberDecl.Declares`
    * `MemberDecl.declaredNames`
    * `ClassDecl.Declares`
-/

------------------------------------------------------------
-- Induction over Types
------------------------------------------------------------

namespace DeclaredApi

namespace DeclaredType

/-
  Induction with the hypothesis for each part of a type; the
  parameters that a type carries are no parts of it.
-/
@[elab_as_elim, induction_eliminator]
theorem inductionOnParts
    {motive : DeclaredType → Prop}
    (named :
      ∀ name dimensions parameters,
        motive (.named name dimensions parameters))
    (applied :
      ∀ name dimensions parameters arguments,
        (∀ t ∈ arguments, motive t) →
          motive (.applied name dimensions parameters arguments))
    (arrayOf :
      ∀ component,
        motive component → motive (.arrayOf component))
    (wildcard :
      ∀ upper lower,
        (∀ t ∈ upper, motive t) →
          (∀ t ∈ lower, motive t) →
            motive (.wildcard upper lower))
    (typeVariable : ∀ name, motive (.typeVariable name))
    (unsupported : motive .unsupported)
    (t : DeclaredType) :
    motive t :=
  @DeclaredType.rec motive (fun _ => True) (fun _ => True)
    (fun ts => ∀ t ∈ ts, motive t)
    (fun name dimensions parameters _ =>
      named name dimensions parameters)
    (fun name dimensions parameters arguments _ =>
      applied name dimensions parameters arguments)
    arrayOf wildcard typeVariable unsupported
    (fun _ _ _ => trivial) trivial
    (fun _ _ _ _ => trivial)
    (fun _ h => absurd h List.not_mem_nil)
    (fun _ _ hHead hTail _ hMem =>
      (List.mem_cons.mp hMem).elim
        (fun hEq => hEq ▸ hHead) (hTail _)) t

end DeclaredType

end DeclaredApi

------------------------------------------------------------
-- Bounds of Wildcards
------------------------------------------------------------

namespace DeclaredApi

namespace DeclaredType

/-
  The bounds of a wildcard that are read, which are the lower
  ones if there are any.  There is a first one, so this says
  nothing about a wildcard without bounds.
-/
inductive ReadsBounds :
    List DeclaredType → List DeclaredType →
      BoundRelation → DeclaredType → List DeclaredType → Prop
| upper
    {t : DeclaredType}
    {ts : List DeclaredType} :
    ReadsBounds (t :: ts) [] .upper t ts
| lower
    {upper : List DeclaredType}
    {t : DeclaredType}
    {ts : List DeclaredType} :
    ReadsBounds upper (t :: ts) .lower t ts

/-
  Induction with the hypothesis for each part of a type that
  is read, where both kinds of bounds are one case.
-/
@[elab_as_elim]
theorem inductionOnRead
    {motive : DeclaredType → Prop}
    (named :
      ∀ name dimensions parameters,
        motive (.named name dimensions parameters))
    (applied :
      ∀ name dimensions parameters arguments,
        (∀ t ∈ arguments, motive t) →
          motive (.applied name dimensions parameters arguments))
    (arrayOf :
      ∀ component,
        motive component → motive (.arrayOf component))
    (unbounded : motive (.wildcard [] []))
    (bounded :
      ∀ {upper lower relation t ts},
        ReadsBounds upper lower relation t ts →
          (∀ u ∈ t :: ts, motive u) →
            motive (.wildcard upper lower))
    (typeVariable : ∀ name, motive (.typeVariable name))
    (unsupported : motive .unsupported)
    (t : DeclaredType) :
    motive t := by
  induction t with
  | named name dimensions parameters =>
      exact named name dimensions parameters
  | applied name dimensions parameters arguments ih =>
      exact applied name dimensions parameters arguments ih
  | arrayOf component ih => exact arrayOf component ih
  | wildcard upper lower ihUpper ihLower =>
      cases lower with
      | nil =>
          cases upper with
          | nil => exact unbounded
          | cons t ts => exact bounded .upper ihUpper
      | cons t ts => exact bounded .lower ihLower
  | typeVariable name => exact typeVariable name
  | unsupported => exact unsupported

end DeclaredType

end DeclaredApi

------------------------------------------------------------
-- Variables of Types
------------------------------------------------------------

namespace DeclaredApi

mutual

/- The variables that a declared type mentions. -/
def DeclaredType.mentions : DeclaredType → List String
| .named _ _ parameters =>
    TypeParameter.mentionsAll parameters
| .applied _ _ parameters arguments =>
    TypeParameter.mentionsAll parameters ++
      DeclaredType.mentionsAll arguments
| .arrayOf component => DeclaredType.mentions component
| .wildcard upper lower =>
    DeclaredType.mentionsAll upper ++
      DeclaredType.mentionsAll lower
| .typeVariable name => [name]
| .unsupported => []

/- The variables that a list of declared types mentions. -/
def DeclaredType.mentionsAll : List DeclaredType → List String
| [] => []
| t :: ts =>
    DeclaredType.mentions t ++ DeclaredType.mentionsAll ts

/- The variables that the bounds of a parameter mention. -/
def TypeParameter.mentions : TypeParameter → List String
| .mk _ bounds => DeclaredType.mentionsAll bounds

/- The variables that bounds of some parameters mention. -/
def TypeParameter.mentionsAll :
    List TypeParameter → List String
| [] => []
| p :: ps =>
    TypeParameter.mentions p ++ TypeParameter.mentionsAll ps

end

namespace DeclaredType

/- All the variables of a declared type are in a scope. -/
def Within
    (scope : List String)
    (t : DeclaredType) : Prop :=
  ∀ v ∈ t.mentions, v ∈ scope

theorem mem_mentionsAll
    {ts : List DeclaredType}
    {v : String} :
    v ∈ mentionsAll ts ↔ ∃ t ∈ ts, v ∈ t.mentions := by
  induction ts with
  | nil => simp [mentionsAll]
  | cons t ts ih => simp [mentionsAll, ih]

/- A wildcard mentions the variables of the bounds of it. -/
theorem ReadsBounds.mentions_subset
    {upper lower ts : List DeclaredType}
    {relation : BoundRelation}
    {t : DeclaredType}
    (hReads : ReadsBounds upper lower relation t ts) :
    mentionsAll (t :: ts) ⊆ (wildcard upper lower).mentions := by
  rw [mentions]
  cases hReads with
  | upper => exact List.subset_append_left _ _
  | lower => exact List.subset_append_right _ _

/- The variables of a list are in a scope if each type's are. -/
theorem within_all
    {scope : List String}
    {ts : List DeclaredType}
    (hWithin : ∀ t ∈ ts, Within scope t) :
    ∀ v ∈ mentionsAll ts, v ∈ scope := by
  intro v hv
  rcases mem_mentionsAll.mp hv with ⟨t, ht, hMem⟩
  exact hWithin t ht v hMem

/- A class by name mentions no variable. -/
theorem within_ofName
    (scope : List String)
    (name : String) :
    Within scope (ofName name) := by
  intro v hv
  simp [ofName, mentions, TypeParameter.mentionsAll] at hv

/- Array layers mention the variables of what is inside. -/
theorem variables_layered
    (count : Nat)
    (t : DeclaredType) :
    (layered count t).mentions = t.mentions := by
  induction count generalizing t with
  | zero => rfl
  | succ count ih => rw [layered, ih, mentions]

/- Only a bare class counts its dimensions. -/
theorem addDimensions_cases
    (count : Nat)
    (t : DeclaredType) :
    (∃ name dimensions parameters,
      t = .named name dimensions parameters ∧
        t.addDimensions count =
          .named name (dimensions + count) parameters) ∨
      t.addDimensions count = layered count t := by
  cases t with
  | named name dimensions parameters =>
      exact Or.inl ⟨name, dimensions, parameters, rfl, rfl⟩
  | applied name dimensions parameters arguments =>
      exact Or.inr rfl
  | arrayOf component => exact Or.inr rfl
  | wildcard upper lower => exact Or.inr rfl
  | typeVariable name => exact Or.inr rfl
  | unsupported => exact Or.inr rfl

/- More dimensions mention no other variables. -/
theorem variables_addDimensions
    (count : Nat)
    (t : DeclaredType) :
    (t.addDimensions count).mentions = t.mentions := by
  rcases addDimensions_cases count t with
    ⟨name, dimensions, parameters, rfl, hNamed⟩ | hLayered
  · rw [hNamed, mentions, mentions]
  · rw [hLayered, variables_layered]

theorem Within.addDimensions
    {scope : List String}
    {t : DeclaredType}
    (count : Nat)
    (hWithin : Within scope t) :
    Within scope (t.addDimensions count) := by
  intro v hv
  rw [variables_addDimensions] at hv
  exact hWithin v hv

end DeclaredType

namespace TypeParameter

theorem mem_mentionsAll
    {ps : List TypeParameter}
    {v : String} :
    v ∈ mentionsAll ps ↔ ∃ p ∈ ps, v ∈ p.mentions := by
  induction ps with
  | nil => simp [mentionsAll]
  | cons p ps ih => simp [mentionsAll, ih]

/- A parameter mentions the variables of its bounds. -/
theorem mem_variables
    {p : TypeParameter}
    {v : String} :
    v ∈ p.mentions ↔ ∃ t ∈ p.bounds, v ∈ t.mentions := by
  cases p with
  | mk name ts =>
      rw [mentions, bounds, DeclaredType.mem_mentionsAll]

end TypeParameter

end DeclaredApi

------------------------------------------------------------
-- First Bounds
------------------------------------------------------------

namespace DeclaredApi

namespace DeclaredType

mutual

/- The variable that a type is built on is one of its own. -/
theorem mem_variables_of_tip
    {t : DeclaredType}
    {v : String}
    (hTip : t.tip.1 = .variableName v) :
    v ∈ t.mentions := by
  cases t with
  | named name dimensions parameters =>
      simp [tip] at hTip
  | applied name dimensions parameters arguments =>
      simp [tip] at hTip
  | arrayOf component =>
      rw [tip] at hTip
      rw [mentions]
      exact mem_variables_of_tip hTip
  | wildcard upper lower =>
      rw [tip] at hTip
      rw [mentions]
      exact List.mem_append_left _
        (mem_mentionsAll_of_tipOfFirst hTip)
  | typeVariable name =>
      rw [tip] at hTip
      injection hTip with hName
      rw [mentions, hName]
      exact List.mem_singleton_self v
  | unsupported => simp [tip] at hTip

theorem mem_mentionsAll_of_tipOfFirst
    {ts : List DeclaredType}
    {v : String}
    (hTip : (tipOfFirst ts).1 = .variableName v) :
    v ∈ mentionsAll ts := by
  cases ts with
  | nil => simp [tipOfFirst] at hTip
  | cons t ts =>
      rw [tipOfFirst] at hTip
      rw [mentionsAll]
      exact List.mem_append_left _ (mem_variables_of_tip hTip)

end

end DeclaredType

end DeclaredApi

------------------------------------------------------------
-- Declared Types of Classes
------------------------------------------------------------

namespace DeclaredApi

/- A member declares a type. -/
inductive MemberDecl.Declares
    (m : MemberDecl) : DeclaredType → Prop
| parameter
    {p : ParameterDecl}
    (hParameter : p ∈ m.parameters) :
    Declares m p.type
| returns
    {t : DeclaredType}
    (hReturns : m.returns = some t) :
    Declares m t
| bound
    {p : TypeParameter}
    {t : DeclaredType}
    (hParameter : p ∈ m.typeParameters)
    (hBound : t ∈ p.bounds) :
    Declares m t

/- The names of the type parameters of a member, if any. -/
def MemberDecl.declaredNames : Option MemberDecl → List String
| none => []
| some m => m.typeParameters.map TypeParameter.name

/- A class declares a type, for itself or for a member. -/
inductive ClassDecl.Declares
    (c : ClassDecl) : Option MemberDecl → DeclaredType → Prop
| superclass
    {t : DeclaredType}
    (hSuperclass : c.superclass = some t) :
    Declares c none t
| interface
    {t : DeclaredType}
    (hInterface : t ∈ c.interfaces) :
    Declares c none t
| bound
    {p : TypeParameter}
    {t : DeclaredType}
    (hParameter : p ∈ c.typeParameters)
    (hBound : t ∈ p.bounds) :
    Declares c none t
| field
    {f : FieldDecl}
    (hField : f ∈ c.fields) :
    Declares c none f.type
| member
    {m : MemberDecl}
    {t : DeclaredType}
    (hMember : m ∈ c.constructors ++ c.methods)
    (hDeclares : m.Declares t) :
    Declares c (some m) t

end DeclaredApi
