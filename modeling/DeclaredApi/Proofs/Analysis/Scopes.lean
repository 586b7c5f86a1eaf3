import DeclaredApi.Proofs.ClassSignature.Declared
import DeclaredApi.Proofs.Scope.Visibility
import DeclaredApi.Proofs.Source.Visibility

/-
  Scopes of analyzed classes.

  A file is read with the names in scope handed down, and is
  resolved by a search through registered classes.  The two
  agree: what is seen from a class while it is read is what
  the search is led to once all classes are registered.

  Main declarations:
    * `SourceFile.Built`
    * `Registry.leads_of_sees`
    * `Registry.declares_of_sighted`
    * `ResolveScope.closed_of_sighted`
    * `Session.avoids_describe`
    * `Session.variables_declared_after_registration`
-/

------------------------------------------------------------
-- Built Classes
------------------------------------------------------------

namespace DeclaredApi

namespace SourceFile

/- The classes of some files, each of which can be built. -/
inductive Built : List ClassDecl → Prop
| nil : Built []
| file
    {source : SourceText}
    {table : SymbolTable}
    {tree : SyntaxTree}
    {found others : List ClassDecl}
    (hBuild : build source table tree = .ok found)
    (hOthers : Built others) :
    Built (found ++ others)

/- Built classes see the variables of their types. -/
theorem Built.sighted
    {found classes : List ClassDecl}
    (hBuilt : Built found)
    (hSubset : ∀ c ∈ found, c ∈ classes) :
    ∀ c ∈ found, c.Sighted classes := by
  induction hBuilt with
  | nil => exact fun c hc => absurd hc List.not_mem_nil
  | file hBuild _ ih =>
      intro c hc
      rcases List.mem_append.mp hc with hFile | hOthers
      · exact sighted_of_build hBuild
          (fun d hd => hSubset d (List.mem_append_left _ hd))
          c hFile
      · exact ih
          (fun d hd => hSubset d (List.mem_append_right _ hd))
          c hOthers

end SourceFile

end DeclaredApi

------------------------------------------------------------
-- Found Variables
------------------------------------------------------------

namespace DeclaredApi

namespace Registry

open ClassDecl

variable {registry : Registry} {classes : List ClassDecl}

/- What is seen from a class is declared where links lead. -/
theorem leads_of_sees
    {c : ClassDecl}
    {v : String}
    (hRegisters : registry.Registers classes)
    (hNonempty : ∀ d ∈ classes, d.name ≠ "")
    (hSees : Sees classes v c) :
    registry.Leads v [] (ClassScope.ofDecl c) := by
  induction hSees with
  | own hOwn =>
      apply Leads.here List.not_mem_nil
      exact (ClassScope.declaration?_ofDecl_isSome_iff _ v).mpr
        hOwn
  | @outer c around hInner hEnclosing hMem _ ih =>
      have hLink :
          around.name ∈ (ClassScope.ofDecl c).links := by
        apply List.mem_append_left
        simp [ClassScope.ofDecl, hInner, hEnclosing,
          hNonempty around hMem]
      exact Leads.link List.not_mem_nil
        ⟨around.name, hLink, hRegisters.lookup_eq around hMem⟩
        ih

/- A registered class is looked up by its own name. -/
theorem Registers.holds
    {c : ClassDecl}
    (hRegisters : registry.Registers classes)
    (hMem : c ∈ classes) :
    registry.Holds (ClassScope.ofDecl c) :=
  hRegisters.lookup_eq c hMem

/- A class is led to by scopes that are registered only. -/
theorem Registers.exists_of_holds
    {scope : ClassScope}
    (hRegisters : registry.Registers classes)
    (hHolds : registry.Holds scope) :
    ∃ c ∈ classes, scope = ClassScope.ofDecl c :=
  hRegisters.exists_of_lookup scope.name scope hHolds

/- A variable of the class is declared for each member. -/
theorem declares_of_leads
    {scope : ClassScope}
    {v : String}
    (member : Option MemberDecl)
    (hHolds : registry.Holds scope)
    (hLeads : registry.Leads v [] scope) :
    registry.declares scope member v = true := by
  have hFound := findInClass_isSome_of_leads hHolds hLeads
  unfold declares findVariable
  simp only
  split
  · rfl
  · exact hFound

/- The variables of the types of a class are declared. -/
theorem declares_of_sighted
    {c : ClassDecl}
    {member : Option MemberDecl}
    {t : DeclaredType}
    {v : String}
    (hRegisters : registry.Registers classes)
    (hNonempty : ∀ d ∈ classes, d.name ≠ "")
    (hMem : c ∈ classes)
    (hSighted : c.Sighted classes)
    (hDeclares : c.Declares member t)
    (hVariable : v ∈ t.mentions) :
    registry.declares (ClassScope.ofDecl c) member v =
      true := by
  rcases hSighted member t hDeclares v hVariable with
    hMember | hSees
  · exact declares_of_mem_declaredNames _ hMember
  · exact declares_of_leads member (hRegisters.holds hMem)
      (leads_of_sees hRegisters hNonempty hSees)

end Registry

end DeclaredApi

------------------------------------------------------------
-- Declarations of Found Variables
------------------------------------------------------------

namespace DeclaredApi

namespace ResolveScope

variable {registry : Registry} {classes : List ClassDecl}

/-
  What is found is a parameter of the member, or of a class
  that is reached.  In both cases its bounds are types that
  are declared there, and what they mention is visible from
  the class where the search began.
-/
theorem closed_of_sighted
    {c : ClassDecl}
    {member : Option MemberDecl}
    (root : String)
    (hRegisters : registry.Registers classes)
    (hNonempty : ∀ d ∈ classes, d.name ≠ "")
    (hMem : c ∈ classes)
    (hSighted : ∀ d ∈ classes, d.Sighted classes)
    (hMember :
      ∀ m,
        member = some m → m ∈ c.constructors ++ c.methods) :
    Closed ⟨root, registry, ClassScope.ofDecl c, member⟩ := by
  intro name p hFind v hv
  rcases TypeParameter.mem_variables.mp hv with
    ⟨t, hBound, hVariable⟩
  have hInClass :
      registry.findInClass (ClassScope.ofDecl c) name = some p →
        registry.declares (ClassScope.ofDecl c) member v =
          true := by
    intro hFound
    rcases Registry.reaches_of_findInClass hFound with
      ⟨last, hReaches, hDeclaration⟩
    have hLast := hReaches.holds (hRegisters.holds hMem)
    rcases hRegisters.exists_of_holds hLast with ⟨d, hd, rfl⟩
    have hParameter :=
      ClassScope.mem_of_declaration?_ofDecl hDeclaration
    rcases hSighted d hd none t (.bound hParameter hBound) v
        hVariable with hNone | hSees
    · exact absurd hNone List.not_mem_nil
    · apply Registry.declares_of_leads member
        (hRegisters.holds hMem)
      exact hReaches.leads
        (Registry.leads_of_sees hRegisters hNonempty hSees)
  rcases Registry.own_or_inClass_of_findVariable hFind with
    ⟨m, rfl, hParameter⟩ | hFound
  · exact Registry.declares_of_sighted hRegisters hNonempty
      hMem (hSighted c hMem)
      (.member (hMember m rfl) (.bound hParameter hBound))
      hVariable
  · exact hInClass hFound

/- The member of a declared type is one of the class. -/
theorem member_of_declares
    {c : ClassDecl}
    {member : Option MemberDecl}
    {t : DeclaredType}
    (hDeclares : c.Declares member t) :
    ∀ m, member = some m → m ∈ c.constructors ++ c.methods := by
  intro m hm
  cases hDeclares with
  | member hMember _ =>
      cases hm
      exact hMember
  | superclass _ | interface _ | bound _ _ | field _ => cases hm

end ResolveScope

end DeclaredApi

------------------------------------------------------------
-- Registered Classes
------------------------------------------------------------

namespace DeclaredApi

namespace Session

variable {classes : List ClassDecl}

/- No description of a registered class lacks a variable. -/
theorem avoids_describe
    {s : Session}
    {c : ClassDecl}
    (erases : Bool)
    (hRegisters : s.registry.Registers classes)
    (hNonempty : ∀ d ∈ classes, d.name ≠ "")
    (hSighted : ∀ d ∈ classes, d.Sighted classes)
    (hMem : c ∈ classes) :
    Result.Avoids DescribeError.IsUndeclared
      (describe erases c s).1 := by
  have hRegister :
      register c s = (ClassScope.ofDecl c, s) := by
    rw [register, Registry.register_of_lookup_eq_some
      (hRegisters.lookup_eq c hMem)]
  have hRun :
      (describe erases c s).1 =
        (Description.describe
          { config := s.config
            registry := s.registry
            scope := ClassScope.ofDecl c
            owner := c.name
            erases := erases } c s.interner).1 := by
    simp only [describe, hRegister]
    rfl
  rw [hRun]
  apply Description.avoids_describe
  intro member t hDeclares
  apply Resolution.avoids_resolve
  · exact ResolveScope.closed_of_sighted _ hRegisters hNonempty
      hMem hSighted (ResolveScope.member_of_declares hDeclares)
  · intro v hv
    exact Registry.declares_of_sighted hRegisters hNonempty
      hMem (hSighted c hMem) hDeclares hv

/-
  When the classes of some files have different names, none
  of them empty, and are registered in an empty registry, all
  variables in their types are found, and so is whatever is
  met while one is erased.  No description lacks a variable.
-/
theorem variables_declared_after_registration
    {classes order : List ClassDecl}
    (before : Session)
    (hBuilt : SourceFile.Built classes)
    (hNames : (classes.map ClassDecl.name).Nodup)
    (hNonempty : ∀ c ∈ classes, c.name ≠ "")
    (hOrder : order.Perm classes)
    (hEmpty : before.registry = []) :
    let registry := (registerAll order before).2.registry
    ∀ c ∈ classes,
      (registry.register c).1 = ClassScope.ofDecl c ∧
        (∀ member t,
          c.Declares member t →
            ∀ v ∈ t.mentions,
              ∃ p,
                registry.findVariable (ClassScope.ofDecl c)
                    member v = some p ∧
                  ∀ root w,
                    ResolveScope.Meets
                        ⟨root, registry, ClassScope.ofDecl c,
                          member⟩ w p →
                      registry.declares (ClassScope.ofDecl c)
                        member w = true) ∧
        ∀ (s : Session) (erases : Bool) (e : DescribeError),
          s.registry = registry →
            (describe erases c s).1 = .error e →
              ¬ e.IsUndeclared := by
  intro registry c hc
  have hRegisters : registry.Registers classes :=
    registers_registerAll hEmpty hNames hOrder
  have hSighted : ∀ d ∈ classes, d.Sighted classes :=
    hBuilt.sighted (fun d hd => hd)
  refine ⟨?_, ?_, ?_⟩
  · rw [Registry.register_of_lookup_eq_some
      (hRegisters.lookup_eq c hc)]
  · intro member t hDeclares v hv
    have hFound :=
      Registry.declares_of_sighted hRegisters hNonempty hc
        (hSighted c hc) hDeclares hv
    rcases Option.isSome_iff_exists.mp hFound with ⟨p, hp⟩
    refine ⟨p, hp, ?_⟩
    intro root w hMeets
    have hClosed :=
      ResolveScope.closed_of_sighted root hRegisters hNonempty
        hc hSighted (ResolveScope.member_of_declares hDeclares)
    exact ResolveScope.declared_of_meets hClosed
      (hClosed v p hp) hMeets
  · intro s erases e hRegistry hError
    have hHere : s.registry.Registers classes :=
      hRegistry ▸ hRegisters
    exact avoids_describe erases hHere hNonempty hSighted hc e
      hError

/- An inner class with a field of the type variable outside. -/
def nestedSource : SourceText :=
  "class A<T>{class B{T x;}}".toUTF8

/- The syntax tree of the text. -/
def nestedTree : SyntaxTree :=
  .node "program" 0 25 none true
    [.node "class_declaration" 0 25 none true
      [.node "identifier" 6 7 (some "name") true [],
        .node "type_parameters" 7 10
          (some "type_parameters") true
          [.node "type_parameter" 8 9 none true
            [.node "type_identifier" 8 9 none true []]],
        .node "class_body" 10 25 (some "body") true
          [.node "class_declaration" 11 24 none true
            [.node "identifier" 17 18 (some "name") true [],
              .node "class_body" 18 24 (some "body") true
                [.node "field_declaration" 19 23 none true
                  [.node "type_identifier" 19 20
                    (some "type") true [],
                    .node "variable_declarator" 21 22
                      (some "declarator") true
                      [.node "identifier" 21 22
                        (some "name") true []]]]]]]]

/- The classes that the text declares. -/
def nestedClasses : List ClassDecl :=
  ((SourceFile.build nestedSource {}
    nestedTree).toOption).getD []

/- The inner class. -/
def nestedClass : ClassDecl :=
  nestedClasses.get ⟨1, by decide +kernel⟩

/-
  The variable found from the inner class is the one without
  bounds that the outer class declares.
-/
theorem nested_variable_declared :
    nestedClasses.map ClassDecl.name = ["A", "A.B"] ∧
      (registerAll nestedClasses {}).2.registry.findVariable
          (ClassScope.ofDecl nestedClass) none "T" =
        some (.mk "T" []) := by
  refine ⟨by decide +kernel, ?_⟩
  have hBuilt : SourceFile.Built (nestedClasses ++ []) :=
    .file (Result.eq_ok_of_isOk [] (by decide +kernel)) .nil
  rw [List.append_nil] at hBuilt
  have hDeclared :=
    variables_declared_after_registration {} hBuilt
      (by decide +kernel) (by decide +kernel)
      (List.Perm.refl _) rfl nestedClass (List.get_mem _ _)
  have hField :
      nestedClass.fields.get ⟨0, by decide +kernel⟩ ∈
        nestedClass.fields :=
    List.get_mem _ _
  rcases hDeclared.2.1 none _ (.field hField) "T"
      (by decide +kernel) with
    ⟨⟨name, bounds⟩, hFound, _⟩
  -- What is found has the name and bounds of the outer `T`.
  have hParts :
      ((registerAll nestedClasses {}).2.registry.findVariable
          (ClassScope.ofDecl nestedClass) none "T").map
          (fun p => (p.name, p.bounds.isEmpty)) =
        some ("T", true) := by
    decide +kernel
  rw [hFound] at hParts ⊢
  simp only [Option.map_some, Option.some.injEq, Prod.mk.injEq,
    List.isEmpty_iff] at hParts
  rcases hParts with ⟨hName, hBounds⟩
  cases hName
  cases hBounds
  rfl

end Session

end DeclaredApi
