import DeclaredApi.Proofs.Declaration.Variables
import DeclaredApi.Proofs.Source.Origins

/-
  Scoping of source types.

  Only a simple name that is in scope becomes a variable, so
  the types that are read from a file mention no others.

  Main declarations:
    * `SyntaxTree.inductionOnChildren`
    * `SourceFile.within_typeOf`
    * `SourceFile.map_name_typeParameters`
    * `SourceFile.within_memberOf`
-/

------------------------------------------------------------
-- Induction over Nodes
------------------------------------------------------------

namespace DeclaredApi

namespace SyntaxTree

/- Induction with the hypothesis for each child of a node. -/
@[elab_as_elim, induction_eliminator]
theorem inductionOnChildren
    {motive : SyntaxTree → Prop}
    (node :
      ∀ kind start stop field isNamed children,
        (∀ c ∈ children, motive c) →
          motive (.node kind start stop field isNamed children))
    (t : SyntaxTree) :
    motive t :=
  @SyntaxTree.rec motive (fun ts => ∀ t ∈ ts, motive t)
    node
    (fun _ h => absurd h List.not_mem_nil)
    (fun _ _ hHead hTail _ hMem =>
      (List.mem_cons.mp hMem).elim
        (fun hEq => hEq ▸ hHead) (hTail _)) t

end SyntaxTree

end DeclaredApi

------------------------------------------------------------
-- Types
------------------------------------------------------------

namespace DeclaredApi

namespace SourceFile

open DeclaredType

variable {f : SourceFile} {scope : List String}

/- What a node is read as mentions variables in scope only. -/
def TypeWithin
    (f : SourceFile)
    (scope : List String)
    (t : SyntaxTree) : Prop :=
  ∀ type, f.typeOf scope t = .ok type → Within scope type

/- Arguments among the children mention variables in scope. -/
def ArgumentsWithin
    (f : SourceFile)
    (scope : List String)
    (ts : List SyntaxTree) : Prop :=
  ∀ types,
    f.argumentsIn scope ts = .ok types →
      ∀ type ∈ types, Within scope type

/- A wildcard mentions variables in scope only. -/
def BoundWithin
    (f : SourceFile)
    (scope : List String)
    (ts : List SyntaxTree) : Prop :=
  ∀ keyword type,
    f.boundIn scope keyword ts = .ok type → Within scope type

/- A simple name is a variable only if it is in scope. -/
theorem within_nameType
    (name : String) :
    Within scope (f.nameType scope name) := by
  unfold nameType
  split
  · next hScope =>
      intro v hv
      rw [mentions, List.mem_singleton] at hv
      rw [hv]
      simpa using hScope
  · exact within_ofName scope _

/- A class mentions the variables of its arguments. -/
theorem within_applied
    {types : List DeclaredType}
    (name : String)
    (hTypes : ∀ type ∈ types, Within scope type) :
    Within scope (applied name types) := by
  cases types with
  | nil => exact within_ofName scope name
  | cons type types =>
      intro v hv
      rw [applied, mentions, TypeParameter.mentionsAll,
        List.nil_append] at hv
      exact within_all hTypes v hv

theorem within_typeAt
    {wanted : String}
    {ts : List SyntaxTree}
    {type : DeclaredType}
    (hTypes : ∀ t ∈ ts, f.TypeWithin scope t)
    (hRead : f.typeAt scope wanted ts = .ok type) :
    Within scope type := by
  induction ts with
  | nil => cases hRead
  | cons t ts ih =>
      unfold typeAt at hRead
      split at hRead
      · exact hTypes t List.mem_cons_self type hRead
      · apply ih _ hRead
        exact fun u hu => hTypes u (List.mem_cons_of_mem t hu)

theorem within_lastType
    {ts : List SyntaxTree}
    {type : DeclaredType}
    (hTypes : ∀ t ∈ ts, f.TypeWithin scope t)
    (hRead : f.lastType scope ts = .ok type) :
    Within scope type := by
  induction ts with
  | nil => cases hRead
  | cons t ts ih =>
      unfold lastType at hRead
      split at hRead
      · apply ih _ hRead
        exact fun u hu => hTypes u (List.mem_cons_of_mem t hu)
      · split at hRead
        · exact hTypes t List.mem_cons_self type hRead
        · cases hRead

/- The bound of a wildcard is one of the types among nodes. -/
theorem boundWithin
    {ts : List SyntaxTree}
    (hTypes : ∀ t ∈ ts, f.TypeWithin scope t) :
    f.BoundWithin scope ts := by
  intro keyword type hRead
  induction ts generalizing keyword with
  | nil =>
      cases hRead
      intro v hv
      simp [mentions, mentionsAll] at hv
  | cons t ts ih =>
      rcases t with ⟨kind, start, stop, field, isNamed, children⟩
      have hRest : ∀ u ∈ ts, f.TypeWithin scope u :=
        fun u hu => hTypes u (List.mem_cons_of_mem _ hu)
      unfold boundIn at hRead
      split at hRead
      · exact ih hRest _ hRead
      · split at hRead
        · rcases Result.bind_eq_ok_iff.mp hRead with
            ⟨bound, hBound, hPure⟩
          have hWithin :=
            hTypes _ List.mem_cons_self bound hBound
          split at hPure
          · cases hPure
            intro v hv
            simp only [mentions, mentionsAll, List.nil_append,
              List.append_nil] at hv
            exact hWithin v hv
          · cases hPure
            intro v hv
            simp only [mentions, mentionsAll,
              List.append_nil] at hv
            exact hWithin v hv
        · exact ih hRest _ hRead

/- Each argument is a type or a wildcard among the nodes. -/
theorem argumentsWithin
    {ts : List SyntaxTree}
    (hTypes : ∀ t ∈ ts, f.TypeWithin scope t)
    (hBounds : ∀ t ∈ ts, f.BoundWithin scope t.children) :
    f.ArgumentsWithin scope ts := by
  intro types hRead
  induction ts generalizing types with
  | nil =>
      cases hRead
      exact fun type hType => absurd hType List.not_mem_nil
  | cons t ts ih =>
      have hRest : f.ArgumentsWithin scope ts :=
        ih (fun u hu => hTypes u (List.mem_cons_of_mem t hu))
          (fun u hu => hBounds u (List.mem_cons_of_mem t hu))
      have hType := hTypes t List.mem_cons_self
      have hBound := hBounds t List.mem_cons_self
      rcases t with ⟨kind, start, stop, field, isNamed, children⟩
      unfold argumentsIn at hRead
      split at hRead
      · exact hRest types hRead
      · split at hRead
        · rcases Result.bind_eq_ok_iff.mp hRead with
            ⟨argument, hArgument, hRead⟩
          rcases Result.bind_eq_ok_iff.mp hRead with
            ⟨others, hOthers, hPure⟩
          cases hPure
          intro type hMem
          rcases List.mem_cons.mp hMem with rfl | hTail
          · exact hBound _ _ hArgument
          · exact hRest others hOthers type hTail
        · split at hRead
          · rcases Result.bind_eq_ok_iff.mp hRead with
              ⟨argument, hArgument, hRead⟩
            rcases Result.bind_eq_ok_iff.mp hRead with
              ⟨others, hOthers, hPure⟩
            cases hPure
            intro type hMem
            rcases List.mem_cons.mp hMem with rfl | hTail
            · exact hType _ hArgument
            · exact hRest others hOthers type hTail
          · exact hRest types hRead

/- The arguments of a generic type are in one of its parts. -/
theorem within_argumentsOf
    {ts : List SyntaxTree}
    {types : List DeclaredType}
    (hArguments : ∀ t ∈ ts, f.ArgumentsWithin scope t.children)
    (hRead : f.argumentsOf scope ts = .ok types) :
    ∀ type ∈ types, Within scope type := by
  induction ts with
  | nil =>
      cases hRead
      exact fun type hType => absurd hType List.not_mem_nil
  | cons t ts ih =>
      have hHead := hArguments t List.mem_cons_self
      rcases t with ⟨kind, start, stop, field, isNamed, children⟩
      unfold argumentsOf at hRead
      split at hRead
      · exact hHead types hRead
      · apply ih _ hRead
        exact fun u hu =>
          hArguments u (List.mem_cons_of_mem _ hu)

/-
  The induction over a node also carries the arguments and
  the wildcard that its children can stand for, since they
  are read from the parent of the parent.
-/
theorem within_parts
    (t : SyntaxTree) :
    f.TypeWithin scope t ∧
      f.ArgumentsWithin scope t.children ∧
      f.BoundWithin scope t.children := by
  induction t with
  | node kind start stop field isNamed children ih =>
      have hTypes : ∀ c ∈ children, f.TypeWithin scope c :=
        fun c hc => (ih c hc).1
      refine ⟨?_, argumentsWithin hTypes
        (fun c hc => (ih c hc).2.2), boundWithin hTypes⟩
      intro type hRead
      unfold typeOf at hRead
      split at hRead
      · rcases Result.bind_eq_ok_iff.mp hRead with
          ⟨name, hName, hPure⟩
        cases hPure
        exact within_ofName scope name
      · split at hRead
        · rcases Result.bind_eq_ok_iff.mp hRead with
            ⟨name, hName, hPure⟩
          cases hPure
          exact within_nameType name
        · split at hRead
          · rcases Result.bind_eq_ok_iff.mp hRead with
              ⟨name, hName, hPure⟩
            cases hPure
            exact within_ofName scope name
          · split at hRead
            · rcases Result.bind_eq_ok_iff.mp hRead with
                ⟨name, hName, hRead⟩
              rcases Result.bind_eq_ok_iff.mp hRead with
                ⟨types, hArguments, hPure⟩
              cases hPure
              exact within_applied name
                (within_argumentsOf
                  (fun c hc => (ih c hc).2.1) hArguments)
            · split at hRead
              · rcases Result.bind_eq_ok_iff.mp hRead with
                  ⟨element, hElement, hRead⟩
                rcases Result.bind_eq_ok_iff.mp hRead with
                  ⟨dimensions, hDimensions, hPure⟩
                cases hPure
                exact (within_typeAt hTypes
                  hElement).addDimensions dimensions
              · split at hRead
                · exact within_lastType hTypes hRead
                · rcases Result.bind_eq_ok_iff.mp hRead with
                    ⟨text, hText, hError⟩
                  cases hError

/- A type mentions variables in scope only. -/
theorem within_typeOf
    {t : SyntaxTree}
    {type : DeclaredType}
    (hRead : f.typeOf scope t = .ok type) :
    Within scope type :=
  (within_parts t).1 type hRead

/- So does the type in a field of some nodes. -/
theorem within_typeAt_of_ok
    {wanted : String}
    {ts : List SyntaxTree}
    {type : DeclaredType}
    (hRead : f.typeAt scope wanted ts = .ok type) :
    Within scope type :=
  within_typeAt (fun t _ => (within_parts t).1) hRead

end SourceFile

end DeclaredApi

------------------------------------------------------------
-- Type Parameters
------------------------------------------------------------

namespace DeclaredApi

namespace SourceFile

open DeclaredType

variable {f : SourceFile} {scope : List String}

/- Bounds are types, which mention variables in scope only. -/
theorem within_parameterBounds
    {t : SyntaxTree}
    {types : List DeclaredType}
    (hRead : f.parameterBounds scope t = .ok types) :
    ∀ type ∈ types, Within scope type := by
  unfold parameterBounds at hRead
  split at hRead
  · cases hRead
    exact fun type hType => absurd hType List.not_mem_nil
  · intro type hType
    rcases Result.exists_of_mem_mapM hRead hType with
      ⟨u, _, hU⟩
    exact within_typeOf hU

/- A type parameter is read with the name and the bounds. -/
theorem typeParameter_ok
    {t : SyntaxTree}
    {p : TypeParameter}
    (hRead : f.typeParameter scope t = .ok p) :
    f.parameterName t = .ok p.name ∧
      ∀ type ∈ p.bounds, Within scope type := by
  rcases Result.bind_eq_ok_iff.mp hRead with
    ⟨name, hName, hRead⟩
  rcases Result.bind_eq_ok_iff.mp hRead with
    ⟨types, hTypes, hPure⟩
  cases hPure
  exact ⟨hName, within_parameterBounds hTypes⟩

/- The names in scope are those of the type parameters. -/
theorem map_name_typeParameters
    {list : Option SyntaxTree}
    {ps : List TypeParameter}
    (hRead : f.typeParameters scope list = .ok ps) :
    f.parameterNames list = .ok (ps.map TypeParameter.name) :=
  Result.mapM_eq_ok_map
    (fun _ _ _ hParameter => (typeParameter_ok hParameter).1)
    hRead

theorem within_typeParameters
    {list : Option SyntaxTree}
    {ps : List TypeParameter}
    {p : TypeParameter}
    {type : DeclaredType}
    (hRead : f.typeParameters scope list = .ok ps)
    (hMem : p ∈ ps)
    (hBound : type ∈ p.bounds) :
    Within scope type := by
  rcases Result.exists_of_mem_mapM hRead hMem with ⟨t, _, hT⟩
  exact (typeParameter_ok hT).2 type hBound

end SourceFile

end DeclaredApi

------------------------------------------------------------
-- Members
------------------------------------------------------------

namespace DeclaredApi

namespace SourceFile

open DeclaredType

variable {f : SourceFile} {scope : List String}

theorem within_fieldsOf
    {implicit : List String}
    {t : SyntaxTree}
    {fields : List FieldDecl}
    (hRead : f.fieldsOf scope implicit t = .ok fields) :
    ∀ field ∈ fields, Within scope field.type := by
  rcases Result.bind_eq_ok_iff.mp hRead with
    ⟨type, hType, hRead⟩
  intro field hField
  rcases Result.exists_of_mem_mapM hRead hField with
    ⟨declarator, _, hDeclarator⟩
  rcases Result.bind_eq_ok_iff.mp hDeclarator with
    ⟨name, hName, hRest⟩
  rcases Result.bind_eq_ok_iff.mp hRest with
    ⟨dimensions, hDimensions, hPure⟩
  cases hPure
  exact (within_typeAt_of_ok hType).addDimensions dimensions

theorem within_plainParameter
    {t : SyntaxTree}
    {p : ParameterDecl}
    (hRead : f.plainParameter scope t = .ok p) :
    Within scope p.type := by
  rcases Result.bind_eq_ok_iff.mp hRead with
    ⟨type, hType, hRead⟩
  rcases Result.bind_eq_ok_iff.mp hRead with
    ⟨dimensions, hDimensions, hRead⟩
  rcases Result.bind_eq_ok_iff.mp hRead with
    ⟨name, hName, hPure⟩
  cases hPure
  exact (within_typeAt_of_ok hType).addDimensions dimensions

theorem within_variadicParameter
    {t : SyntaxTree}
    {p : ParameterDecl}
    (hRead : f.variadicParameter scope t = .ok p) :
    Within scope p.type := by
  unfold variadicParameter at hRead
  split at hRead
  · cases hRead
  · rcases Result.bind_eq_ok_iff.mp hRead with
      ⟨type, hType, hRead⟩
    split at hRead
    · cases hRead
    · rcases Result.bind_eq_ok_iff.mp hRead with
        ⟨name, hName, hPure⟩
      cases hPure
      exact (within_typeOf hType).addDimensions 1

theorem within_parametersIn
    {t : SyntaxTree}
    {ps : List ParameterDecl}
    (hRead : f.parametersIn scope t = .ok ps) :
    ∀ p ∈ ps, Within scope p.type := by
  unfold parametersIn at hRead
  split at hRead
  · rcases Result.bind_eq_ok_iff.mp hRead with
      ⟨parameter, hParameter, hPure⟩
    cases hPure
    intro p hp
    rw [List.mem_singleton.mp hp]
    exact within_plainParameter hParameter
  · split at hRead
    · rcases Result.bind_eq_ok_iff.mp hRead with
        ⟨parameter, hParameter, hPure⟩
      cases hPure
      intro p hp
      rw [List.mem_singleton.mp hp]
      exact within_variadicParameter hParameter
    · cases hRead
      exact fun p hp => absurd hp List.not_mem_nil

theorem within_parametersOf
    {list : Option SyntaxTree}
    {ps : List ParameterDecl}
    (hRead : f.parametersOf scope list = .ok ps) :
    ∀ p ∈ ps, Within scope p.type := by
  unfold parametersOf at hRead
  split at hRead
  · cases hRead
    exact fun p hp => absurd hp List.not_mem_nil
  · rcases Result.bind_eq_ok_iff.mp hRead with
      ⟨found, hFound, hPure⟩
    cases hPure
    intro p hp
    rcases List.mem_flatten.mp hp with ⟨group, hGroup, hMem⟩
    rcases Result.exists_of_mem_mapM hFound hGroup with
      ⟨t, _, hT⟩
    exact within_parametersIn hT p hMem

theorem within_recordFields
    {t : SyntaxTree}
    {fields : List FieldDecl}
    (hRead : f.recordFields scope t = .ok fields) :
    ∀ field ∈ fields, Within scope field.type := by
  rcases Result.bind_eq_ok_iff.mp hRead with ⟨ps, hPs, hPure⟩
  cases hPure
  intro field hField
  rcases List.mem_map.mp hField with ⟨p, hp, rfl⟩
  exact within_parametersOf hPs p hp

theorem within_returnType
    {kind : MemberKind}
    {t : SyntaxTree}
    {returns : Option DeclaredType}
    {type : DeclaredType}
    (hRead : f.returnType scope kind t = .ok returns)
    (hSome : returns = some type) :
    Within scope type := by
  unfold returnType at hRead
  split at hRead
  · cases hRead
    cases hSome
  · rcases Result.bind_eq_ok_iff.mp hRead with
      ⟨element, hElement, hRead⟩
    rcases Result.bind_eq_ok_iff.mp hRead with
      ⟨dimensions, hDimensions, hPure⟩
    cases hPure
    cases hSome
    exact (within_typeAt_of_ok hElement).addDimensions
      dimensions

/- A member mentions its own variables and those in scope. -/
def MemberWithin
    (scope : List String)
    (m : MemberDecl) : Prop :=
  ∀ type,
    m.Declares type →
      Within (MemberDecl.declaredNames (some m) ++ scope) type

theorem within_memberOf
    {kind : MemberKind}
    {implicit : List String}
    {t : SyntaxTree}
    {m : MemberDecl}
    (hRead : f.memberOf scope kind implicit t = .ok m) :
    MemberWithin scope m := by
  rcases exists_memberOrigin hRead with ⟨own, hOrigin⟩
  have hOwn := map_name_typeParameters hOrigin.typeParameters_eq
  rw [hOrigin.own_eq] at hOwn
  injection hOwn with hOwn
  intro type hDeclares
  rw [MemberDecl.declaredNames, ← hOwn]
  cases hDeclares with
  | parameter hParameter =>
      exact within_parametersOf hOrigin.parameters_eq _
        hParameter
  | returns hSome =>
      exact within_returnType hOrigin.returns_eq hSome
  | bound hParameter hBound =>
      exact within_typeParameters hOrigin.typeParameters_eq
        hParameter hBound

end SourceFile

end DeclaredApi
