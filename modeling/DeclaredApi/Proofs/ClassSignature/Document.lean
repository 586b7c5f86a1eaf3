import DeclaredApi.ClassSignature.Document
import DeclaredApi.Proofs.Structured.Projection

/-
  Documents do not depend on remembered decisions.

  Writing a document classifies names and does nothing else,
  so with a sound classifier the document is the same
  whatever was decided before.  It ends with the lists of
  constructors and methods.

  Main declarations:
    * `ClassDocument.settles_ofSignature`
    * `ApiDocument.settles_build`
    * `ClassDocument.listed`
    * `ClassDocument.ofSignature_eq`
    * `ClassDocument.listed_ofSignature`
-/

------------------------------------------------------------
-- Members
------------------------------------------------------------

namespace DeclaredApi

namespace ClassDocument

open DeclaredApi.Action

variable {probe : Probe}

theorem settles_project
    (s : Scope)
    (r : TypeRef) :
    Settles (Classifier.Sound probe) (s.project r) :=
  (Structured.yields_project r).settles

theorem settles_listField
    {α : Type}
    {form : α → Writer Json}
    (key : String)
    (items : List α)
    (hForm :
      ∀ item, Settles (Classifier.Sound probe) (form item)) :
    Settles (Classifier.Sound probe)
      (listField key items form) := by
  unfold listField
  split
  · exact settles_pure []
  · apply (settles_mapM fun item _ => hForm item).bind
    intro forms
    exact settles_pure _

theorem settles_typeParameter
    (s : Scope)
    (p : TypeParameterRef) :
    Settles (Classifier.Sound probe) (typeParameter s p) := by
  apply (settles_listField _ _ (settles_project s)).bind
  intro bounds
  exact settles_pure _

theorem settles_field
    (s : Scope)
    (f : FieldRef) :
    Settles (Classifier.Sound probe) (field s f) := by
  apply (settles_project s f.type).bind
  intro type
  exact settles_pure _

theorem settles_parameter
    (s : Scope)
    (p : ParameterRef) :
    Settles (Classifier.Sound probe) (parameter s p) := by
  apply (settles_project s p.type).bind
  intro type
  exact settles_pure _

theorem settles_returnField
    (s : Scope)
    (returns : Option ReturnRef) :
    Settles (Classifier.Sound probe)
      (returnField s returns) := by
  cases returns with
  | none => exact settles_pure []
  | some r =>
      apply (settles_project s r.type).bind
      intro type
      exact settles_pure _

theorem settles_member
    (s : Scope)
    (m : MemberRef) :
    Settles (Classifier.Sound probe) (member s m) := by
  unfold member
  apply (settles_listField _ _ (settles_typeParameter _)).bind
  intro typeParameters
  apply (settles_listField _ _ (settles_parameter _)).bind
  intro parameters
  apply (settles_returnField _ m.returns).bind
  intro returns
  exact settles_pure _

end ClassDocument

end DeclaredApi

------------------------------------------------------------
-- Classes
------------------------------------------------------------

namespace DeclaredApi

open DeclaredApi.Action

variable {probe : Probe}

namespace ClassDocument

theorem settles_superclassField
    (s : Scope)
    (superclass : Option TypeRef) :
    Settles (Classifier.Sound probe)
      (superclassField s superclass) := by
  cases superclass with
  | none => exact settles_pure []
  | some r =>
      apply (settles_project s r).bind
      intro form
      exact settles_pure _

theorem settles_fieldsField
    (s : Scope)
    (fields : List FieldRef) :
    Settles (Classifier.Sound probe)
      (fieldsField s fields) := by
  unfold fieldsField
  split
  · exact settles_pure []
  · refine (settles_mapM fun f _ => ?_).bind fun forms =>
      settles_pure _
    apply (settles_field s f).bind
    intro form
    exact settles_pure _

/- What is written before the constructors and methods. -/
def opening
    (root : String)
    (registry : Registry)
    (c : ClassSignature) : Writer (List (String × Json)) := do
  let s := scopeOf root registry c.scope
  let typeParameters ←
    listField "type_parameters" c.typeParameters
      (typeParameter s)
  let superclass ← superclassField s c.superclass
  let interfaces ←
    listField "implements" c.interfaces s.project
  let fields ← fieldsField s c.fields
  pure
    (header c ++ typeParameters ++ superclass ++ interfaces ++
      fields)

theorem settles_opening
    (root : String)
    (registry : Registry)
    (c : ClassSignature) :
    Settles (Classifier.Sound probe)
      (opening root registry c) := by
  apply (settles_listField _ _ (settles_typeParameter _)).bind
  intro typeParameters
  apply (settles_superclassField _ c.superclass).bind
  intro superclass
  apply (settles_listField _ _ (settles_project _)).bind
  intro interfaces
  apply (settles_fieldsField _ c.fields).bind
  intro fields
  exact settles_pure _

/- The constructors and methods are written last. -/
theorem ofSignature_eq_opening
    (root : String)
    (registry : Registry)
    (c : ClassSignature) :
    ofSignature root registry c = (do
      let s := scopeOf root registry c.scope
      let front ← opening root registry c
      let constructors ←
        listField "constructors"
          (sortConstructors root c.constructors) (member s)
      let methods ←
        listField "methods" (sortMethods root c.methods)
          (member s)
      pure (.object (front ++ constructors ++ methods))) :=
  rfl

/- The document of a class is always the same. -/
theorem settles_ofSignature
    (root : String)
    (registry : Registry)
    (c : ClassSignature) :
    Settles (Classifier.Sound probe)
      (ofSignature root registry c) := by
  rw [ofSignature_eq_opening]
  apply (settles_opening root registry c).bind
  intro front
  apply (settles_listField _ _ (settles_member _)).bind
  intro constructors
  apply (settles_listField _ _ (settles_member _)).bind
  intro methods
  exact settles_pure _

end ClassDocument

namespace ApiDocument

theorem settles_packagesFrom
    (root : String)
    (registry : Registry)
    (packages : List (String × Json))
    (signatures : List ClassSignature) :
    Settles (Classifier.Sound probe)
      (packagesFrom root registry packages signatures) := by
  induction signatures generalizing packages with
  | nil => exact settles_pure packages
  | cons c cs ih =>
      rw [packagesFrom]
      apply (ClassDocument.settles_ofSignature _ _ c).bind
      intro form
      exact ih _

/- And so is the document of some classes. -/
theorem settles_build
    (root : String)
    (registry : Registry)
    (version : String)
    (signatures : List ClassSignature) :
    Settles (Classifier.Sound probe)
      (build root registry version signatures) := by
  unfold build
  apply (settles_packagesFrom _ _ [] _).bind
  intro packages
  exact settles_pure _

end ApiDocument

end DeclaredApi

------------------------------------------------------------
-- Lists of Members
------------------------------------------------------------

namespace DeclaredApi

namespace ClassDocument

open DeclaredApi.Action

variable {probe : Probe}
variable {classifier : Classifier}

/- The items that an object lists under a key. -/
def listed
    (key : String)
    (document : Json) : List Json :=
  match document.get? key with
  | some (.list items) => items
  | _ => []

/- The entry of a list, which is left out if it is empty. -/
def listEntry
    (key : String)
    (forms : List Json) : List (String × Json) :=
  if forms.isEmpty then [] else [(key, .list forms)]

/- One entry is found under its own key only. -/
theorem lookup_singleton_of_ne
    {key other : String}
    (form : Json)
    (hOther : other ≠ key) :
    [(key, form)].lookup other = none := by
  simpa using hOther

theorem lookup_listEntry_of_ne
    {key other : String}
    (forms : List Json)
    (hOther : other ≠ key) :
    (listEntry key forms).lookup other = none := by
  cases forms with
  | nil => rfl
  | cons form forms => exact lookup_singleton_of_ne _ hOther

/- An object lists what is written under a key once. -/
theorem listed_object
    {key : String}
    {front : List (String × Json)}
    (forms : List Json)
    (rest : List (String × Json))
    (hFront : front.lookup key = none)
    (hRest : rest.lookup key = none) :
    listed key (.object (front ++ listEntry key forms ++ rest)) =
      forms := by
  unfold listed Json.get? Json.fields
  cases forms with
  | nil =>
      simp [listEntry, List.lookup_append, hFront, hRest]
  | cons form forms =>
      simp [listEntry, List.lookup_append, hFront]

/- What is written has no entry under a key. -/
def Omits
    (key : String)
    (x : Writer (List (String × Json))) : Prop :=
  ∀ classifier, (x classifier).1.lookup key = none

theorem Omits.bind
    {key : String}
    {x : Writer (List (String × Json))}
    {f : List (String × Json) → Writer (List (String × Json))}
    (hFirst : Omits key x)
    (hNext :
      ∀ entries,
        entries.lookup key = none → Omits key (f entries)) :
    Omits key (x >>= f) := by
  intro classifier
  exact hNext _ (hFirst classifier) (x classifier).2

theorem omits_listField
    {α : Type}
    {key other : String}
    (items : List α)
    (form : α → Writer Json)
    (hOther : other ≠ key) :
    Omits other (listField key items form) := by
  intro classifier
  unfold listField
  split
  · rfl
  · exact lookup_singleton_of_ne _ hOther

theorem omits_superclassField
    {key : String}
    (s : Scope)
    (superclass : Option TypeRef)
    (hKey : key ≠ "extends") :
    Omits key (superclassField s superclass) := by
  intro classifier
  cases superclass with
  | none => rfl
  | some r => exact lookup_singleton_of_ne _ hKey

theorem omits_fieldsField
    {key : String}
    (s : Scope)
    (fields : List FieldRef)
    (hKey : key ≠ "fields") :
    Omits key (fieldsField s fields) := by
  intro classifier
  unfold fieldsField
  split
  · rfl
  · exact lookup_singleton_of_ne _ hKey

theorem lookup_header
    {key : String}
    (c : ClassSignature)
    (hKey : key ∉ ["scope", "kind", "static", "final"]) :
    (header c).lookup key = none := by
  rw [List.lookup_eq_none_iff]
  intro entry hEntry
  simp only [header, flag] at hEntry
  grind

/- The keys in front are not those of the members. -/
theorem omits_opening
    {key : String}
    (root : String)
    (registry : Registry)
    (c : ClassSignature)
    (hKey : key ∈ ["constructors", "methods"]) :
    Omits key (opening root registry c) := by
  unfold opening
  apply (omits_listField _ _ (by grind)).bind
  intro typeParameters hTypeParameters
  apply (omits_superclassField _ _ (by grind)).bind
  intro superclass hSuperclass
  apply (omits_listField _ _ (by grind)).bind
  intro interfaces hInterfaces
  apply (omits_fieldsField _ _ (by grind)).bind
  intro fields hFields classifier
  have hHeader : (header c).lookup key = none :=
    lookup_header c (by grind)
  show List.lookup key
    (header c ++ typeParameters ++ superclass ++ interfaces ++
      fields) = none
  simp only [List.lookup_append, hHeader, hTypeParameters,
    hSuperclass, hInterfaces, hFields, Option.or_none]

/- The form of a member, as a sound classifier gives it. -/
def memberForm
    (classifier : Classifier)
    (s : Scope)
    (m : MemberRef) : Json :=
  (member s m classifier).1

theorem yields_members
    (key : String)
    (s : Scope)
    (members : List MemberRef)
    (hSound : Classifier.Sound probe classifier) :
    Yields (Classifier.Sound probe)
      (listEntry key (members.map (memberForm classifier s)))
      (listField key members (member s)) := by
  have hForms :
      Yields (Classifier.Sound probe)
        (members.map (memberForm classifier s))
        (members.mapM (member s)) :=
    yields_mapM fun m _ => (settles_member s m).yields hSound
  unfold listField
  cases members with
  | nil => exact yields_pure []
  | cons m members => exact hForms.bind (yields_pure _)

/- A document from its front and the forms of its members. -/
theorem ofSignature_eq
    (root : String)
    (registry : Registry)
    (c : ClassSignature)
    (hSound : Classifier.Sound probe classifier) :
    let form :=
      memberForm classifier (scopeOf root registry c.scope)
    (ofSignature root registry c classifier).1 =
      .object
        ((opening root registry c classifier).1 ++
          listEntry "constructors"
            ((sortConstructors root c.constructors).map form) ++
          listEntry "methods"
            ((sortMethods root c.methods).map form)) := by
  intro form
  have hOpening :=
    (settles_opening root registry c).yields hSound
  rw [ofSignature_eq_opening]
  refine (hOpening.bind ?_ classifier hSound).1
  apply (yields_members "constructors" _ _ hSound).bind
  apply (yields_members "methods" _ _ hSound).bind
  exact yields_pure _

/- A document lists its members in the order of their keys. -/
theorem listed_ofSignature
    (root : String)
    (registry : Registry)
    (c : ClassSignature)
    (hSound : Classifier.Sound probe classifier) :
    let form :=
      memberForm classifier (scopeOf root registry c.scope)
    let document := (ofSignature root registry c classifier).1
    listed "constructors" document =
        (sortConstructors root c.constructors).map form ∧
      listed "methods" document =
        (sortMethods root c.methods).map form := by
  intro form document
  have hConstructors :
      (opening root registry c classifier).1.lookup
          "constructors" = none :=
    omits_opening root registry c (by simp) classifier
  have hMethods :
      (opening root registry c classifier).1.lookup "methods" =
        none :=
    omits_opening root registry c (by simp) classifier
  have hDocument : document = _ :=
    ofSignature_eq root registry c hSound
  refine ⟨?_, ?_⟩
  · rw [hDocument]
    exact listed_object _ _ hConstructors
      (lookup_listEntry_of_ne _ (by simp))
  · have hFront :
        ((opening root registry c classifier).1 ++
            listEntry "constructors"
              ((sortConstructors root c.constructors).map
                form)).lookup "methods" =
          none := by
      rw [List.lookup_append, hMethods,
        lookup_listEntry_of_ne _ (by simp)]
      rfl
    have hListed :=
      listed_object ((sortMethods root c.methods).map form) []
        hFront rfl
    rw [List.append_nil] at hListed
    rw [hDocument]
    exact hListed

end ClassDocument

end DeclaredApi
