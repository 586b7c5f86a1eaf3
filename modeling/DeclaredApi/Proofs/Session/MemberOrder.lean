import DeclaredApi.Proofs.ClassSignature.Rearranged
import DeclaredApi.Proofs.Session.Classification

/-
  The order of members in class documents.

  Fields are written by name, constructors in the order of
  their signatures, methods in that of their names and
  signatures.  So the order in which they are declared shows
  only among constructors or methods with one signature.
  There are such members: signatures leave out type
  parameters, returns and names of parameters.

  Main declarations:
    * `ClassDocument.ListsOnce`
    * `Session.document_of_rearranged`
    * `Session.declaration_order_shows`
-/

------------------------------------------------------------
-- Listed Members
------------------------------------------------------------

namespace DeclaredApi

namespace ClassDocument

/-
  A document lists each declared constructor and method once,
  in the form of its description.
-/
structure ListsOnce
    (d : Description)
    (form : MemberRef → Json)
    (c : ClassDecl)
    (document : Json) : Prop where
  constructors :
    ∃ members,
      List.Forall₂ d.DescribesMember c.constructors members ∧
        (listed "constructors" document).Perm
          (members.map form)
  methods :
    ∃ members,
      List.Forall₂ d.DescribesMember c.methods members ∧
        (listed "methods" document).Perm (members.map form)

theorem listsOnce_ofSignature
    (root : String)
    (registry : Registry)
    {classifier : Classifier}
    {probe : Probe}
    {d : Description}
    {c : ClassDecl}
    {found : ClassSignature}
    (hSound : Classifier.Sound probe classifier)
    (hDescribes : d.Describes c found) :
    ListsOnce d
      (memberForm classifier (scopeOf root registry found.scope))
      c (ofSignature root registry found classifier).1 := by
  have hListed := listed_ofSignature root registry found hSound
  refine ⟨⟨found.constructors, hDescribes.constructors, ?_⟩,
    ⟨found.methods, hDescribes.methods, ?_⟩⟩
  · rw [hListed.1]
    exact (Sorting.perm_sort _ _).map _
  · rw [hListed.2]
    exact (Sorting.perm_sort _ _).map _

end ClassDocument

end DeclaredApi

------------------------------------------------------------
-- Documents of Rearranged Classes
------------------------------------------------------------

namespace DeclaredApi

namespace Session

open ClassDocument

variable {s : Session}
variable {c c' : ClassDecl}
variable {erases : Bool}
variable {found : ClassSignature}

/-
  The signature of a rearranged class is rearranged, and its
  document is written with the same scopes and decisions.
-/
theorem describe_of_rearranged
    (hReset : s.FollowsReset)
    (hRearranged : c.Rearranged c')
    (hOk : (describe erases c s).1 = .ok found) :
    let d := Description.ofClass s.config erases s.registry c
    ∃ found',
      (describe erases c' s).1 = .ok found' ∧
        found.Rearranged found' ∧
          d.Describes c found ∧ d.Describes c' found' ∧
            (classDocument found' (describe erases c' s).2).1 =
              (ofSignature s.root
                (describe erases c s).2.registry found'
                s.classifier).1 := by
  intro d
  rw [describe_eq_signature hReset] at hOk
  rcases Description.signature_of_rearranged hRearranged hOk
    with ⟨found', hOk', hSame⟩
  have hOfClass :
      Description.ofClass s.config erases s.registry c' = d :=
    Description.ofClass_of_rearranged _ _ _ hRearranged
  have hRegistry :
      (describe erases c' s).2.registry =
        (describe erases c s).2.registry :=
    congrArg Description.registry hOfClass
  refine ⟨found', ?_, hSame,
    Description.describes_of_signature hOk,
    Description.describes_of_signature hOk', ?_⟩
  · rw [describe_eq_signature hReset, hOfClass]
    exact hOk'
  · rw [← hRegistry]
    rfl

/-
  A class that is described is described in every order of
  its members, and each document lists every constructor and
  method once.  The documents are the same exactly if members
  with one signature are written alike in the same order.  So
  they are if no such members are written differently.
-/
theorem document_of_rearranged
    (hReset : s.FollowsReset)
    (hRearranged : c.Rearranged c')
    (hNames : (c.fields.map FieldDecl.name).Nodup)
    (hOk : (describe erases c s).1 = .ok found) :
    let d := Description.ofClass s.config erases s.registry c
    let after := (describe erases c s).2
    let document := (classDocument found after).1
    let form :=
      memberForm s.classifier
        (scopeOf s.root after.registry found.scope)
    ∃ found',
      (describe erases c' s).1 = .ok found' ∧
        let after' := (describe erases c' s).2
        let document' := (classDocument found' after').1
        ListsOnce d form c document ∧
          ListsOnce d form c' document' ∧
          (document' = document ↔
            SameOrder (MemberRef.signature s.root) form
                found.constructors found'.constructors ∧
              SameOrder (MemberRef.listingKey s.root) form
                found.methods found'.methods) ∧
          ((∀ m ∈ found.constructors, ∀ n ∈ found.constructors,
              m.signature s.root = n.signature s.root →
                form m = form n) →
            (∀ m ∈ found.methods, ∀ n ∈ found.methods,
              m.listingKey s.root = n.listingKey s.root →
                form m = form n) →
            document' = document) := by
  intro d after document form
  rcases describe_of_rearranged hReset hRearranged hOk with
    ⟨found', hOk', hSame, hDescribes, hDescribes', hDocument'⟩
  rw [describe_eq_signature hReset] at hOk
  have hSound := hReset.decided
  have hScope : found'.scope = found.scope :=
    hSame.same ClassSignature.scope fun _ => rfl
  have hFieldNames : (found.fields.map FieldRef.name).Nodup :=
    Description.map_name_fields hOk ▸ hNames
  have hExact :=
    ofSignature_eq_iff s.root after.registry hSound hSame
      hFieldNames
  refine ⟨found', hOk', ?_⟩
  intro after' document'
  have hAfter : document' = _ := hDocument'
  refine ⟨?_, ?_, ?_, ?_⟩
  · exact listsOnce_ofSignature _ _ hSound hDescribes
  · have hLists :=
      listsOnce_ofSignature s.root after.registry hSound
        hDescribes'
    rw [hScope] at hLists
    rw [hAfter]
    exact hLists
  · rw [hAfter]
    exact hExact
  · intro hConstructors hMethods
    rw [hAfter]
    exact hExact.mpr
      ⟨sameOrder_of_alike hSame.constructors hConstructors,
        sameOrder_of_alike hSame.methods hMethods⟩

/- A member with one parameter of a class. -/
def memberWith
    (kind : MemberKind)
    (name type : String) : MemberDecl where
  name := name
  kind := kind
  parameters := [{ name := "x", type := .ofName type }]

/- A class with overloaded constructors and methods. -/
def overloadedClass : ClassDecl where
  name := "a.C"
  fields :=
    [{ name := "f", type := .ofName "a.A" },
      { name := "g", type := .ofName "a.B" }]
  constructors :=
    [memberWith .constructor "C" "a.A",
      memberWith .constructor "C" "a.B"]
  methods :=
    [memberWith .method "n" "a.A", memberWith .method "m" "a.B",
      memberWith .method "m" "a.A"]

/- The same class with each list the other way round. -/
def overloadedReversed : ClassDecl :=
  { overloadedClass with
    fields := overloadedClass.fields.reverse
    constructors := overloadedClass.constructors.reverse
    methods := overloadedClass.methods.reverse }

/- Members with different signatures have one order. -/
theorem document_of_rearranged_overloaded :
    let s : Session := (reset {}).2
    let c := overloadedClass
    let c' := overloadedReversed
    ∃ found found',
      (describe false c s).1 = .ok found ∧
        (describe false c' s).1 = .ok found' ∧
        (classDocument found' (describe false c' s).2).1 =
          (classDocument found (describe false c s).2).1 := by
  intro s c c'
  have hReset : s.FollowsReset := ⟨{}, [], by simp, rfl⟩
  have hRearranged : c.Rearranged c' :=
    ⟨rfl, (List.reverse_perm _).symm,
      (List.reverse_perm _).symm, (List.reverse_perm _).symm⟩
  have hApart :
      (describe false c s).1.toOption.map (fun found =>
          decide
            ((found.constructors.map
                (MemberRef.signature s.root)).Nodup ∧
              (found.methods.map
                (MemberRef.listingKey s.root)).Nodup)) =
        some true := by
    decide +kernel
  cases hOk : (describe false c s).1 with
  | error e =>
      rw [hOk] at hApart
      cases hApart
  | ok found =>
      rw [hOk] at hApart
      rcases of_decide_eq_true (Option.some.inj hApart) with
        ⟨hConstructors, hMethods⟩
      rcases document_of_rearranged hReset hRearranged
          (by decide) hOk with
        ⟨found', hOk', _, _, _, hSame⟩
      refine ⟨found, found', rfl, hOk', hSame ?_ ?_⟩
      · intro m hM n hN hKey
        rw [List.inj_on_of_nodup_map hConstructors hM hN hKey]
      · intro m hM n hN hKey
        rw [List.inj_on_of_nodup_map hMethods hM hN hKey]

/- A class with a method for each bound of its variable. -/
def boundedOverloads (bounds : List String) : ClassDecl where
  name := "a.C"
  methods := bounds.map fun bound =>
    { name := "m"
      typeParameters := [.mk "T" [.ofName bound]]
      parameters := [{ name := "x", type := .typeVariable "T" }] }

/- The methods that a described class is documented with. -/
def shownMethods
    (c : ClassDecl)
    (s : Session) : Option (List String) :=
  (describe false c s).1.toOption.map fun found =>
    (listed "methods"
      (classDocument found (describe false c s).2).1).map
        Json.shown

/-
  Methods that differ in the bounds of their variables only
  have one signature.  They are documented in the order in
  which they are declared.
-/
theorem declaration_order_shows :
    let s : Session := (reset {}).2
    let c := boundedOverloads ["a.A", "a.B"]
    let c' := boundedOverloads ["a.B", "a.A"]
    c.Rearranged c' ∧
      (c.fields.map FieldDecl.name).Nodup ∧
      ∃ found found',
        (describe false c s).1 = .ok found ∧
          (describe false c' s).1 = .ok found' ∧
          (classDocument found' (describe false c' s).2).1 ≠
            (classDocument found (describe false c s).2).1 := by
  intro s c c'
  have hRearranged : c.Rearranged c' :=
    ⟨rfl, .nil, .nil, List.Perm.swap _ _ _⟩
  have hDiffer :
      shownMethods c s ≠ none ∧
        shownMethods c' s ≠ none ∧
        shownMethods c' s ≠ shownMethods c s := by
    decide +kernel
  refine ⟨hRearranged, List.nodup_nil, ?_⟩
  unfold shownMethods at hDiffer
  cases hOk : (describe false c s).1 with
  | error e =>
      rw [hOk] at hDiffer
      exact absurd rfl hDiffer.1
  | ok found =>
      cases hOk' : (describe false c' s).1 with
      | error e =>
          rw [hOk'] at hDiffer
          exact absurd rfl hDiffer.2.1
      | ok found' =>
          refine ⟨found, found', rfl, rfl, ?_⟩
          intro hSame
          rw [hOk, hOk'] at hDiffer
          apply hDiffer.2.2
          simp only [Except.toOption, Option.map_some, hSame]

end Session

end DeclaredApi
