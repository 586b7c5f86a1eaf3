import DeclaredApi.Proofs.Resolution.Declared
import DeclaredApi.Proofs.Resolution.Erasure
import DeclaredApi.Proofs.Session.History

/-
  Erasure of variables from where they are used.

  The bounds of a parameter are looked up from the class and
  the member in which a variable is used, and not from where
  the parameter is declared.  Unless a variable in between
  captures one that the bounds meet, the two are the same.

  Main declarations:
    * `ResolveScope.SeesAlike`
    * `ResolveScope.SeesAlike.erasesTo`
    * `Session.erasure_of_visible_variable`
    * `Session.bound_captured_by_member`
-/

------------------------------------------------------------
-- Scopes That See Alike
------------------------------------------------------------

namespace DeclaredApi

namespace ResolveScope

variable {s other : ResolveScope}
variable {p : TypeParameter}

/-
  Another scope finds each variable that is met from a
  parameter as it is found in its own scope.
-/
def SeesAlike
    (s other : ResolveScope)
    (p : TypeParameter) : Prop :=
  ∀ name,
    s.Meets name p →
      other.registry.findVariable other.scope other.member
          name =
        s.registry.findVariable s.scope s.member name

/- The parameter of a variable that is met is seen alike. -/
theorem SeesAlike.next
    {q : TypeParameter}
    {name : String}
    (hAlike : s.SeesAlike other p)
    (hTip :
      (DeclaredType.tipOfFirst p.bounds).1 =
        .variableName name)
    (hFind :
      s.registry.findVariable s.scope s.member name = some q) :
    s.SeesAlike other q :=
  fun next hMeets => hAlike next (.next hTip hFind hMeets)

/- The other scope meets no other variables. -/
theorem SeesAlike.meets
    {name : String}
    (hAlike : s.SeesAlike other p)
    (hMeets : other.Meets name p) :
    s.Meets name p := by
  induction hMeets with
  | tip hTip => exact .tip hTip
  | next hTip hFind _ ih =>
      rw [hAlike _ (.tip hTip)] at hFind
      exact .next hTip hFind (ih (hAlike.next hTip hFind))

theorem SeesAlike.symm
    (hAlike : s.SeesAlike other p) :
    other.SeesAlike s p :=
  fun name hMeets => (hAlike name (hAlike.meets hMeets)).symm

/- So a chain of first bounds is followed alike. -/
theorem SeesAlike.erasesTo
    {seen : List String}
    {r : TypeRef}
    (hAlike : s.SeesAlike other p)
    (hRoot : s.root = other.root)
    (hErases : s.ErasesTo [] seen p r) :
    other.ErasesTo [] seen p r := by
  induction hErases with
  | again hSeen =>
      rw [hRoot]
      exact .again hSeen
  | unbounded hNew hTip =>
      rw [hRoot]
      exact .unbounded hNew hTip
  | className hNew hTip hBase =>
      exact .className hNew hTip hBase
  | @variableName seen p q next layers r hNew hTip hFound
      _ ih =>
      have hTip' :
          (DeclaredType.tipOfFirst p.bounds).1 =
            .variableName next := by
        rw [hTip]
      have hOther :
          other.declaration? [] next = some q :=
        (hAlike next (.tip hTip')).trans hFound
      exact .variableName hNew hTip hOther
        (ih (hAlike.next hTip' hFound))

end ResolveScope

end DeclaredApi

------------------------------------------------------------
-- Captured Bounds
------------------------------------------------------------

namespace DeclaredApi

namespace Session

/- What a variable erases to in a class or member. -/
theorem resolve_erased_variable_iff
    {s : Session}
    (hReset : s.FollowsReset)
    (scope : ClassScope)
    (member : Option MemberDecl)
    (name : String)
    (r : TypeRef) :
    (resolve scope member true (.typeVariable name) s).1 =
        .ok r ↔
      ∃ p,
        s.registry.findVariable scope member name = some p ∧
          ResolveScope.ErasesTo
            ⟨s.root, s.registry, scope, member⟩ [] [] p r := by
  rw [resolve_eq_reference hReset,
    Resolution.erasedVariable_eq_ok_iff rfl]
  exact Iff.rfl

/-
  A variable that is declared in another class erases along
  the chain of first bounds from its declaration, where each
  variable is looked up from where the first one is used.  It
  erases as in the class that declares it, if every variable
  that is met from there is found alike.
-/
theorem erasure_of_visible_variable
    {s : Session}
    {scope holder : ClassScope}
    {member : Option MemberDecl}
    {name : String}
    {p : TypeParameter}
    (hReset : s.FollowsReset)
    (hFound :
      s.registry.findVariable scope member name = some p)
    (hDeclares : holder.declaration? name = some p) :
    let used : ResolveScope :=
      ⟨s.root, s.registry, scope, member⟩
    let declared : ResolveScope :=
      ⟨s.root, s.registry, holder, none⟩
    (∀ r,
      (resolve scope member true (.typeVariable name) s).1 =
          .ok r ↔
        used.ErasesTo [] [] p r) ∧
      (declared.SeesAlike used p →
        ∀ r,
          (resolve scope member true (.typeVariable name)
              s).1 =
              .ok r ↔
            (resolve holder none true (.typeVariable name)
              s).1 =
              .ok r) := by
  intro used declared
  have hUsed :
      ∀ r,
        (resolve scope member true (.typeVariable name) s).1 =
            .ok r ↔
          used.ErasesTo [] [] p r := by
    intro r
    rw [resolve_erased_variable_iff hReset, hFound]
    simp only [Option.some.injEq, exists_eq_left']
    exact Iff.rfl
  have hHolder :
      s.registry.findVariable holder none name = some p :=
    Registry.findInClass_of_declaration? s.registry hDeclares
  refine ⟨hUsed, ?_⟩
  intro hAlike r
  rw [hUsed, resolve_erased_variable_iff hReset, hHolder]
  constructor
  · intro hErases
    exact ⟨p, rfl, hAlike.symm.erasesTo rfl hErases⟩
  · rintro ⟨q, hEq, hErases⟩
    cases hEq
    exact hAlike.erasesTo rfl hErases

/- A class with a variable that is bounded by another. -/
def boundedClass : ClassDecl where
  name := "a.D"
  typeParameters :=
    [.mk "T" [.arrayOf (.typeVariable "U")],
      .mk "U" [.ofName "a.B"]]

/- A class inside it with a variable of its own. -/
def innerClass : ClassDecl where
  name := "a.D.E"
  enclosing := some "a.D"
  typeParameters := [.mk "V" [.ofName "a.C"]]

/- A method with a variable that is bounded by a class. -/
def genericMember (own : String) : MemberDecl where
  name := "m"
  typeParameters := [.mk own [.ofName "a.C"]]

/- Both classes are registered. -/
def boundedHistory : List Operation :=
  [.register boundedClass, .register innerClass]

/- Variables by other names do not change the erasure. -/
theorem erasure_of_visible_variable_inner :
    let s : Session := run boundedHistory (reset {}).2
    let holder := ClassScope.ofDecl boundedClass
    let scope := ClassScope.ofDecl innerClass
    let member := genericMember "W"
    s.registry.findVariable scope (some member) "T" =
        holder.declaration? "T" ∧
      (resolve scope (some member) true (.typeVariable "T")
        s).1 = .ok (.simple "a.B" 1 []) := by
  intro s holder scope member
  have hReset : s.FollowsReset :=
    ⟨{}, boundedHistory,
      by simp [boundedHistory, Operation.KeepsRoot], rfl⟩
  have hFound :
      s.registry.findVariable scope (some member) "T" =
        some (.mk "T" [.arrayOf (.typeVariable "U")]) :=
    rfl
  refine ⟨hFound, ?_⟩
  have hDeclares :
      holder.declaration? "T" =
        some (.mk "T" [.arrayOf (.typeVariable "U")]) :=
    rfl
  refine ((erasure_of_visible_variable hReset hFound
    hDeclares).2 ?_ _).mpr (by decide +kernel)
  intro name hMeets
  cases hMeets with
  | tip hTip =>
      cases hTip
      rfl
  | next hTip hFind hMeets =>
      cases hTip
      cases hFind
      -- The bound of the second variable is a class.
      cases hMeets with
      | tip hTip => cases hTip
      | next hTip _ _ => cases hTip

/- A variable of a method captures the bound of another. -/
theorem bound_captured_by_member :
    let s : Session := run boundedHistory (reset {}).2
    let holder := ClassScope.ofDecl boundedClass
    let member := genericMember "U"
    s.registry.findVariable holder (some member) "T" =
        holder.declaration? "T" ∧
      "T" ∉ MemberDecl.declaredNames (some member) ∧
      (resolve holder (some member) true (.typeVariable "T")
        s).1 = .ok (.simple "a.C" 1 []) ∧
      (resolve holder none true (.typeVariable "T")
        s).1 = .ok (.simple "a.B" 1 []) := by
  intro s holder member
  exact ⟨rfl, by decide +kernel, by decide +kernel,
    by decide +kernel⟩

end Session

end DeclaredApi
