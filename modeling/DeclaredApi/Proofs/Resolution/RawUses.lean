import DeclaredApi.Proofs.Resolution.BoundWalks

/-
  Raw uses of generic classes.

  A bare use of a generic class carries the type parameters
  of the class.  Erasing it looks them up among themselves
  and not in the scope of the use, while the class itself
  finds them as its own.  Both follow the same walks, so the
  bare use is the class applied to the erasures that its
  parameters have in the class, wherever it stands.

  Main declarations:
    * `ResolveScope.erase_eq_of_finds`
    * `ResolveScope.eraseAll_siblings`
    * `Session.raw_use_erases_everywhere`
-/

------------------------------------------------------------
-- Same Walks
------------------------------------------------------------

namespace DeclaredApi

namespace ResolveScope

variable {s s' : ResolveScope}
variable {siblings siblings' ps : List TypeParameter}

/-
  In two scopes with the same root that find some parameters
  in different ways, these parameters erase alike.
-/
theorem erase_eq_of_finds
    {p : TypeParameter}
    (hRoot : s.root = s'.root)
    (hFinds :
      ∀ p ∈ ps, s.declaration? siblings p.name = some p)
    (hFinds' :
      ∀ p ∈ ps, s'.declaration? siblings' p.name = some p)
    (hBounds :
      ∀ p ∈ ps,
        DeclaredType.FirstGroundedIn
          (ps.map TypeParameter.name) p.bounds)
    (hMem : p ∈ ps) :
    s.erase siblings p = s'.erase siblings' p := by
  rcases erases_as_walk hFinds hBounds hMem with
    ⟨⟨r, hOk⟩, hWalks⟩
  have hWalk := (hWalks r).mp hOk
  rw [hRoot] at hWalk
  rw [hOk]
  exact (((erases_as_walk hFinds' hBounds hMem).2 r).mpr
    hWalk).symm

/- Parameters that are carried along are found by name. -/
theorem declaration?_sibling
    {p : TypeParameter}
    (s : ResolveScope)
    (hNames : (ps.map TypeParameter.name).Nodup)
    (hMem : p ∈ ps) :
    s.declaration? ps p.name = some p := by
  rw [declaration?,
    TypeParameter.find?_name_of_mem hNames hMem]

/-
  Parameters that are carried along erase as they do in a
  scope of the same root in which they are declared.
-/
theorem eraseAll_siblings
    (hRoot : s.root = s'.root)
    (hNames : (ps.map TypeParameter.name).Nodup)
    (hBounds :
      ∀ p ∈ ps,
        DeclaredType.FirstGroundedIn
          (ps.map TypeParameter.name) p.bounds)
    (hDeclared :
      ∀ p ∈ ps, s'.declaration? [] p.name = some p) :
    s.eraseAll ps ps = ps.mapM (s'.erase []) := by
  rw [eraseAll_eq_mapM]
  apply Result.mapM_congr
  intro p hp
  exact erase_eq_of_finds hRoot
    (fun _ hq => declaration?_sibling s hNames hq) hDeclared
    hBounds hp

end ResolveScope

end DeclaredApi

------------------------------------------------------------
-- Raw Uses
------------------------------------------------------------

namespace DeclaredApi

namespace Resolution

/- The erasure of a bare class has no wildcards. -/
theorem wildcardFree_of_namedRef
    {r : Resolution}
    {name : String}
    {dimensions : Nat}
    {parameters : List TypeParameter}
    {reference : TypeRef}
    (hErases : r.erases = true)
    (hOk :
      r.namedRef name dimensions parameters = .ok reference) :
    reference.WildcardFree := by
  rw [namedRef, if_pos hErases] at hOk
  rcases Result.bind_eq_ok_iff.mp hOk with
    ⟨arguments, hArguments, hBase⟩
  rw [ResolveScope.eq_simple_of_ofBase hBase,
    TypeRef.WildcardFree, TypeRef.allWildcardFree_iff]
  intro a ha
  rcases ResolveScope.exists_of_mem_eraseAll hArguments ha with
    ⟨p, _, hErase⟩
  rcases (ResolveScope.erase_eq_ok_iff.mp hErase).exists_simple
    with ⟨element, layers, rfl⟩
  rw [TypeRef.WildcardFree]
  trivial

end Resolution

namespace Session

/- So a bare class is erased whatever was interned. -/
theorem resolve_erasedNamed
    {s : Session}
    (scope : ClassScope)
    (member : Option MemberDecl)
    (name : String)
    (dimensions : Nat)
    (parameters : List TypeParameter)
    (hUnmistaken : s.interner.Unmistaken) :
    (resolve scope member true
        (.named name dimensions parameters) s).1 =
      Resolution.namedRef
        ⟨s.config, s.registry, scope, member, true⟩ name
        dimensions parameters :=
  Resolution.fst_keepResult hUnmistaken
    (fun _ hOk =>
      ⟨Resolution.wellFormed_of_namedRef hOk,
        Resolution.wildcardFree_of_namedRef rfl hOk⟩)

/-
  A bare use erases the same everywhere.  Take a class that
  is not primitive, whose type parameters have different
  names, and whose first bounds are built on them and on
  valid class names.  After any history each parameter has an
  erasure in the class.  A bare use of the class with its
  parameters is the class applied to these erasures, in the
  order of the parameters, in every scope and member, also
  where their names stand for other variables.
-/
theorem raw_use_erases_everywhere
    {d : ClassDecl}
    (start : Session)
    (ops : List Operation)
    (hDotted : Name.isDotted d.name = true)
    (hPrimitive : Name.isPrimitive d.name = false)
    (hNames : (d.typeParameters.map TypeParameter.name).Nodup)
    (hBounds :
      ∀ p ∈ d.typeParameters,
        DeclaredType.FirstGroundedIn
          (d.typeParameters.map TypeParameter.name)
          p.bounds) :
    let s := run ops (reset start).2
    ∃ rs,
      List.Forall₂
          (fun p r =>
            (resolve (ClassScope.ofDecl d) none true
              (.typeVariable p.name) s).1 = .ok r)
          d.typeParameters rs ∧
        ∀ scope member dimensions,
          (resolve scope member true
              (.named d.name dimensions d.typeParameters) s).1 =
            .ok (.simple d.name dimensions rs) := by
  intro s
  have hUnmistaken : s.interner.Unmistaken :=
    unmistaken_run start ops
  let own : ResolveScope :=
    ⟨s.root, s.registry, ClassScope.ofDecl d, none⟩
  have hOwn :
      ∀ p ∈ d.typeParameters,
        own.declaration? [] p.name = some p :=
    fun _ hp => findVariable_ofDecl s.registry hNames hp
  have hResolve :
      ∀ p ∈ d.typeParameters,
        (resolve (ClassScope.ofDecl d) none true
            (.typeVariable p.name) s).1 =
          own.erase [] p :=
    fun _ hp => resolve_ownVariable hUnmistaken hNames hp
  rcases Result.exists_mapM (f := own.erase [])
      (fun _ hp =>
        (ResolveScope.erases_as_walk hOwn hBounds hp).1) with
    ⟨rs, hErased⟩
  refine ⟨rs, ?_, ?_⟩
  · rw [← Result.mapM_congr hResolve] at hErased
    exact Result.forall₂_of_mapM hErased
  · intro scope member dimensions
    let use : ResolveScope :=
      ⟨s.root, s.registry, scope, member⟩
    have hRoot : use.root = own.root := rfl
    have hArguments :
        use.eraseAll d.typeParameters d.typeParameters =
          .ok rs :=
      (ResolveScope.eraseAll_siblings hRoot hNames hBounds
        hOwn).trans hErased
    rw [resolve_erasedNamed _ _ _ _ _ hUnmistaken,
      Resolution.namedRef, if_pos rfl]
    apply Result.bind_eq_ok_iff.mpr
    refine ⟨rs, hArguments, ?_⟩
    apply ResolveScope.ofBase_eq_ok.mpr
    exact TypeRef.ofBase_of_isDotted dimensions hDotted
      (fun hTrue =>
        absurd (hPrimitive.symm.trans hTrue) Bool.false_ne_true)

/- A method with variables of the same names. -/
def homonymousMember : MemberDecl where
  name := "m"
  typeParameters :=
    [.mk "T" [.ofName "a.X"], .mk "U" [.ofName "a.Y"],
      .mk "V" [], .mk "W" [.arrayOf (.typeVariable "T")]]

/-
  In the method the variables erase to other classes, but the
  bare class has the erasures of its own parameters.
-/
theorem raw_use_erases_everywhere_homonyms :
    let s := run [.register cycleClass] (reset {}).2
    let scope := ClassScope.ofDecl { name := "a.E" }
    let member := some homonymousMember
    let root : String := "java.lang.Object"
    (resolve scope member true (.typeVariable "W") s).1 =
        .ok (.simple "a.X" 1 []) ∧
      (resolve scope member true
          (.named "a.D" 2 cycleClass.typeParameters) s).1 =
        .ok (.simple "a.D" 2
          [.simple root 3 [], .simple root 3 [],
            .simple root 3 [], .simple "a.B" 1 []]) := by
  intro s scope member root
  rcases raw_use_erases_everywhere {} [.register cycleClass]
      (by decide) (by decide) (by decide)
      firstGroundedIn_cycleClass with
    ⟨rs, hErased, hUses⟩
  have hExpected :
      List.Forall₂
        (fun p r =>
          (resolve (ClassScope.ofDecl cycleClass) none true
            (.typeVariable (TypeParameter.name p)) s).1 = .ok r)
        cycleClass.typeParameters
        [.simple root 3 [], .simple root 3 [],
          .simple root 3 [], .simple "a.B" 1 []] :=
    .cons (by decide +kernel) (.cons (by decide +kernel)
      (.cons (by decide +kernel) (.cons (by decide +kernel)
        .nil)))
  have hUnique :
      Relator.RightUnique
        (fun p r =>
          (resolve (ClassScope.ofDecl cycleClass) none true
            (.typeVariable (TypeParameter.name p)) s).1 =
              .ok r) :=
    fun _ _ _ hFirst hSecond =>
      Except.ok.inj (hFirst.symm.trans hSecond)
  rw [← List.right_unique_forall₂' hUnique hErased hExpected]
  exact ⟨by decide +kernel, hUses scope member 2⟩

end Session

end DeclaredApi
