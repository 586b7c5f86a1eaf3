import DeclaredApi.Proofs.ClassSignature.Document
import DeclaredApi.Proofs.ClassSignature.Failures
import DeclaredApi.Proofs.Sorting

/-
  Classes with their members in another order.

  A class whose fields, constructors and methods are
  rearranged is described with the same references in the
  same arrangement.  Its document differs at most in the
  order of members that are listed under one key.

  Main declarations:
    * `ClassDecl.Rearranged`
    * `Description.signature_eq_ok_iff`
    * `Description.signature_of_rearranged`
    * `ClassDocument.SameOrder`
    * `ClassDocument.ofSignature_eq_iff`
-/

------------------------------------------------------------
-- Rearranged Classes
------------------------------------------------------------

namespace DeclaredApi

namespace ClassDecl

/- A class without its fields, constructors and methods. -/
def withoutMembers (c : ClassDecl) : ClassDecl :=
  { c with fields := [], constructors := [], methods := [] }

/-
  The same class with its fields, constructors and methods in
  another order.
-/
structure Rearranged (c c' : ClassDecl) : Prop where
  rest : c'.withoutMembers = c.withoutMembers
  fields : c.fields.Perm c'.fields
  constructors : c.constructors.Perm c'.constructors
  methods : c.methods.Perm c'.methods

/- What does not read the members is the same. -/
theorem Rearranged.same
    {α : Type}
    {c c' : ClassDecl}
    (hRearranged : c.Rearranged c')
    (f : ClassDecl → α)
    (hOnly : ∀ e, f e = f e.withoutMembers) :
    f c' = f c := by
  rw [hOnly c', hOnly c, hRearranged.rest]

end ClassDecl

namespace MemberRef

/- Methods are listed by name and then by signature. -/
def listingKey
    (root : String)
    (m : MemberRef) : List String :=
  [m.name, m.signature root]

end MemberRef

namespace ClassSignature

/- A signature without fields, constructors and methods. -/
def withoutMembers (c : ClassSignature) : ClassSignature :=
  { c with fields := [], constructors := [], methods := [] }

/- The same signature with its members in another order. -/
structure Rearranged (c c' : ClassSignature) : Prop where
  rest : c'.withoutMembers = c.withoutMembers
  fields : c.fields.Perm c'.fields
  constructors : c.constructors.Perm c'.constructors
  methods : c.methods.Perm c'.methods

theorem Rearranged.same
    {α : Type}
    {c c' : ClassSignature}
    (hRearranged : c.Rearranged c')
    (f : ClassSignature → α)
    (hOnly : ∀ e, f e = f e.withoutMembers) :
    f c' = f c := by
  rw [hOnly c', hOnly c, hRearranged.rest]

end ClassSignature

end DeclaredApi

------------------------------------------------------------
-- Signatures
------------------------------------------------------------

namespace DeclaredApi

namespace Description

variable {d : Description}
variable {c c' : ClassDecl}
variable {found : ClassSignature}

/- The members of a class are resolved one by one. -/
theorem signature_eq_ok_iff :
    d.signature c = .ok found ↔
      d.signature c.withoutMembers = .ok found.withoutMembers ∧
        c.fields.mapM d.fieldRef = .ok found.fields ∧
        c.constructors.mapM d.memberRef =
          .ok found.constructors ∧
        c.methods.mapM d.memberRef = .ok found.methods := by
  unfold signature
  simp only [Result.bind_eq_ok_iff]
  constructor
  · rintro ⟨superclass, hSuperclass, typeParameters,
      hTypeParameters, interfaces, hInterfaces, fields, hFields,
      constructors, hConstructors, methods, hMethods, hFound⟩
    injection hFound with hFound
    subst hFound
    exact ⟨⟨superclass, hSuperclass, typeParameters,
      hTypeParameters, interfaces, hInterfaces, [], rfl, [], rfl,
      [], rfl, rfl⟩, hFields, hConstructors, hMethods⟩
  · rintro ⟨⟨superclass, hSuperclass, typeParameters,
      hTypeParameters, interfaces, hInterfaces, _, _, _, _, _, _,
      hFound⟩, hFields, hConstructors, hMethods⟩
    refine ⟨superclass, hSuperclass, typeParameters,
      hTypeParameters, interfaces, hInterfaces, found.fields,
      hFields, found.constructors, hConstructors, found.methods,
      hMethods, ?_⟩
    injection hFound with hFound
    exact congrArg
      (fun rest : ClassSignature => Except.ok
        { rest with
          fields := found.fields
          constructors := found.constructors
          methods := found.methods })
      hFound

/- A class is registered alike in every order. -/
theorem ofClass_of_rearranged
    (config : Config)
    (erases : Bool)
    (registry : Registry)
    (hRearranged : c.Rearranged c') :
    ofClass config erases registry c' =
      ofClass config erases registry c :=
  hRearranged.same (ofClass config erases registry)
    fun _ => rfl

/- A class that has a signature has it in every order. -/
theorem signature_of_rearranged
    (hRearranged : c.Rearranged c')
    (hOk : d.signature c = .ok found) :
    ∃ found',
      d.signature c' = .ok found' ∧
        found.Rearranged found' := by
  rcases signature_eq_ok_iff.mp hOk with
    ⟨hRest, hFields, hConstructors, hMethods⟩
  rcases Result.exists_mapM_of_perm hRearranged.fields hFields
    with ⟨fields, hFields', hSameFields⟩
  rcases Result.exists_mapM_of_perm hRearranged.constructors
      hConstructors with
    ⟨constructors, hConstructors', hSameConstructors⟩
  rcases Result.exists_mapM_of_perm hRearranged.methods
      hMethods with
    ⟨methods, hMethods', hSameMethods⟩
  refine ⟨{ found with
    fields := fields
    constructors := constructors
    methods := methods }, ?_, ?_⟩
  · rw [signature_eq_ok_iff, hRearranged.rest]
    exact ⟨hRest, hFields', hConstructors', hMethods'⟩
  · exact ⟨rfl, hSameFields, hSameConstructors, hSameMethods⟩

/- Fields keep their names. -/
theorem map_name_fields
    (hOk : d.signature c = .ok found) :
    found.fields.map FieldRef.name =
      c.fields.map FieldDecl.name := by
  rw [← List.forall₂_eq_eq_eq, List.forall₂_map_left_iff,
    List.forall₂_map_right_iff]
  apply (describes_of_signature hOk).fields.flip.imp
  intro entry f hField
  exact hField.name_eq

end Description

end DeclaredApi

------------------------------------------------------------
-- Documents
------------------------------------------------------------

namespace DeclaredApi

namespace ClassDocument

variable {root : String}
variable {registry : Registry}
variable {classifier : Classifier}
variable {probe : Probe}
variable {c c' : ClassSignature}

/-
  The members of each key are written alike, and in the same
  order, in two lists.
-/
def SameOrder
    {κ : Type}
    [DecidableEq κ]
    (key : MemberRef → κ)
    (form : MemberRef → Json)
    (members members' : List MemberRef) : Prop :=
  ∀ k,
    (members'.filter (fun m => key m = k)).map form =
      (members.filter (fun m => key m = k)).map form

/- Members that share a key may be written alike only. -/
theorem sameOrder_of_alike
    {κ : Type}
    [DecidableEq κ]
    {key : MemberRef → κ}
    {form : MemberRef → Json}
    {members members' : List MemberRef}
    (hPerm : members.Perm members')
    (hAlike :
      ∀ m ∈ members, ∀ n ∈ members,
        key m = key n → form m = form n) :
    SameOrder key form members members' := by
  intro k
  have hForms :
      ((members'.filter (fun m => key m = k)).map form).Perm
        ((members.filter (fun m => key m = k)).map form) :=
    (hPerm.symm.filter _).map form
  refine List.Perm.eq_of_pairwise ?_
    (List.pairwise_of_forall (R := fun _ _ => True)
      fun _ _ => trivial)
    (List.pairwise_of_forall fun _ _ => trivial) hForms
  intro x y hX hY _ _
  rcases List.mem_map.mp (hForms.mem_iff.mp hX) with ⟨m, hM, rfl⟩
  rcases List.mem_map.mp hY with ⟨n, hN, rfl⟩
  rcases List.mem_filter.mp hM with ⟨hM, hMKey⟩
  rcases List.mem_filter.mp hN with ⟨hN, hNKey⟩
  have hKeys : key m = key n := by
    rw [of_decide_eq_true hMKey, of_decide_eq_true hNKey]
  exact hAlike m hM n hN hKeys

/- What is written first does not depend on the order. -/
theorem opening_of_rearranged
    (hRearranged : c.Rearranged c')
    (hNames : (c.fields.map FieldRef.name).Nodup) :
    opening root registry c' = opening root registry c := by
  have hSorted : sortFields c'.fields = sortFields c.fields :=
    (Sorting.sort_keyLess_eq_of_perm hRearranged.fields
      (fun f hf g hg =>
        List.inj_on_of_nodup_map hNames hf hg)).symm
  have hEmpty : c'.fields.isEmpty = c.fields.isEmpty := by
    exact hRearranged.fields.symm.isEmpty_eq
  have hFields :
      ∀ s, fieldsField s c'.fields = fieldsField s c.fields := by
    intro s
    rw [fieldsField, fieldsField, hSorted, hEmpty]
  have hRest :
      opening root registry c' =
        opening root registry { c with fields := c'.fields } :=
    hRearranged.same
      (fun e =>
        opening root registry { e with fields := c'.fields })
      fun _ => rfl
  rw [hRest]
  simp only [opening, hFields]
  rfl

/-
  The documents of a signature and of a rearrangement are the
  same exactly if members that are listed under one key are
  written alike in the same order.
-/
theorem ofSignature_eq_iff
    (root : String)
    (registry : Registry)
    (hSound : Classifier.Sound probe classifier)
    (hRearranged : c.Rearranged c')
    (hNames : (c.fields.map FieldRef.name).Nodup) :
    let form :=
      memberForm classifier (scopeOf root registry c.scope)
    (ofSignature root registry c' classifier).1 =
        (ofSignature root registry c classifier).1 ↔
      SameOrder (MemberRef.signature root) form c.constructors
          c'.constructors ∧
        SameOrder (MemberRef.listingKey root) form c.methods
          c'.methods := by
  intro form
  have hScope : c'.scope = c.scope :=
    hRearranged.same ClassSignature.scope fun _ => rfl
  have hForm :
      memberForm classifier (scopeOf root registry c'.scope) =
        form := by
    rw [hScope]
  have hLists :
      (ofSignature root registry c' classifier).1 =
          (ofSignature root registry c classifier).1 ↔
        (sortConstructors root c'.constructors).map form =
            (sortConstructors root c.constructors).map form ∧
          (sortMethods root c'.methods).map form =
            (sortMethods root c.methods).map form := by
    constructor
    · intro hSame
      have hListed := listed_ofSignature root registry c hSound
      have hListed' := listed_ofSignature root registry c' hSound
      rw [hForm, hSame] at hListed'
      exact ⟨hListed'.1.symm.trans hListed.1,
        hListed'.2.symm.trans hListed.2⟩
    · rintro ⟨hConstructors, hMethods⟩
      rw [ofSignature_eq root registry c hSound,
        ofSignature_eq root registry c' hSound, hForm,
        opening_of_rearranged hRearranged hNames]
      rw [hConstructors, hMethods]
  rw [hLists]
  exact and_congr
    (Sorting.map_sort_eq_iff
      (Sorting.ordersBy_keyLess (MemberRef.signature root))
      hRearranged.constructors.symm form)
    (Sorting.map_sort_eq_iff
      (Sorting.ordersBy_listLess (MemberRef.listingKey root))
      hRearranged.methods.symm form)

end ClassDocument

end DeclaredApi
