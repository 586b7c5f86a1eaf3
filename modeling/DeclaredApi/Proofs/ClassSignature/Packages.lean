import Mathlib.Data.List.Nodup
import Mathlib.Data.List.Perm.Basic
import DeclaredApi.Proofs.ClassSignature.Document
import DeclaredApi.Proofs.Json.Value

/-
  Classes by package.

  A document files each class under its package and its local
  name.  Filing a class at a place that is free adds one entry
  and leaves the others as they are, whatever packages there
  are.  So the entries of a document are those of the classes
  if no two classes have one place.

  Main declarations:
    * `ApiDocument.entries`
    * `ApiDocument.fileClass`
    * `ApiDocument.Filed`
    * `ApiDocument.filed_fileClass`
    * `ApiDocument.filed_fileAll`
    * `ApiDocument.yields_build`
-/

------------------------------------------------------------
-- Packages
------------------------------------------------------------

namespace DeclaredApi

/- The package and the local name of a class. -/
def ClassSignature.place (c : ClassSignature) : String × String :=
  (c.package, c.localName)

namespace ApiDocument

/- A package with its classes by local name. -/
abbrev Package :=
  String × List (String × Json)

/- A package as the field of a document. -/
def packageField (p : Package) : String × Json :=
  (p.1, .object [("classes", .object p.2)])

/- The document of some packages. -/
def ofPackages
    (version : String)
    (packages : List Package) : Json :=
  .object
    [("version", .str version),
      ("languages",
        .object
          [(language,
            .object
              [("packages",
                .object (packages.map packageField))])])]

/- What is filed, with the place where it is filed. -/
def entries
    (packages : List Package) :
    List ((String × String) × Json) :=
  packages.flatMap fun p =>
    p.2.map fun entry => ((p.1, entry.1), entry.2)

theorem entries_cons
    (p : Package)
    (packages : List Package) :
    entries (p :: packages) =
      p.2.map (fun entry => ((p.1, entry.1), entry.2)) ++
        entries packages :=
  rfl

/- File a class at a place. -/
def fileClass
    (place : String × String)
    (form : Json) : List Package → List Package
| [] => [(place.1, [(place.2, form)])]
| p :: ps =>
    if p.1 = place.1 then
      (p.1, Json.put place.2 form p.2) :: ps
    else
      p :: fileClass place form ps

theorem putClass_cons_of_ne
    {package : String}
    {field : String × Json}
    (localName : String)
    (form : Json)
    (fields : List (String × Json))
    (hOther : field.1 ≠ package) :
    putClass package localName form (field :: fields) =
      field :: putClass package localName form fields := by
  have hKey : (package == field.1) = false :=
    beq_eq_false_iff_ne.mpr (Ne.symm hOther)
  unfold putClass
  rw [List.lookup_cons, hKey, Json.put, if_neg hOther]

/- A class is put into the fields as it is filed. -/
theorem putClass_map
    (place : String × String)
    (form : Json)
    (packages : List Package) :
    putClass place.1 place.2 form (packages.map packageField) =
      (fileClass place form packages).map packageField := by
  induction packages with
  | nil => rfl
  | cons p ps ih =>
      rw [List.map_cons, fileClass]
      split
      · next hSame =>
          rw [← hSame]
          simp [putClass, packageField, Json.put, Json.get?,
            Json.fields]
      · next hOther =>
          rw [putClass_cons_of_ne _ _ _ hOther, ih,
            List.map_cons]

end ApiDocument

end DeclaredApi

------------------------------------------------------------
-- Filed Classes
------------------------------------------------------------

namespace DeclaredApi

namespace ApiDocument

variable {packages : List Package}
variable {given : List ((String × String) × Json)}

/- Different packages, none empty, hold the given entries. -/
structure Filed
    (packages : List Package)
    (given : List ((String × String) × Json)) : Prop where
  packages_nodup : (packages.map Prod.fst).Nodup
  ne_nil : ∀ p ∈ packages, p.2 ≠ []
  entries_perm : (entries packages).Perm given

/- The order of the given entries does not matter. -/
theorem Filed.of_perm
    {others : List ((String × String) × Json)}
    (hFiled : Filed packages given)
    (hPerm : given.Perm others) :
    Filed packages others where
  packages_nodup := hFiled.packages_nodup
  ne_nil := hFiled.ne_nil
  entries_perm := hFiled.entries_perm.trans hPerm

theorem filed_nil :
    Filed [] [] where
  packages_nodup := List.nodup_nil
  ne_nil := fun _ hp => absurd hp List.not_mem_nil
  entries_perm := .nil

/- A class is filed in its own package, the old or a new one. -/
theorem mem_map_fst_fileClass
    {name : String}
    {place : String × String}
    {form : Json}
    (hName :
      name ∈ (fileClass place form packages).map Prod.fst) :
    name = place.1 ∨ name ∈ packages.map Prod.fst := by
  induction packages with
  | nil => exact Or.inl (List.mem_singleton.mp hName)
  | cons p ps ih =>
      rw [fileClass] at hName
      rw [List.map_cons, List.mem_cons]
      split at hName
      · exact Or.inr (List.mem_cons.mp hName)
      · rcases List.mem_cons.mp hName with hHead | hTail
        · exact Or.inr (Or.inl hHead)
        · exact (ih hTail).imp_right Or.inr

theorem nodup_map_fst_fileClass
    (place : String × String)
    (form : Json)
    (hNodup : (packages.map Prod.fst).Nodup) :
    ((fileClass place form packages).map Prod.fst).Nodup := by
  induction packages with
  | nil => exact List.nodup_singleton place.1
  | cons p ps ih =>
      rw [fileClass]
      split
      · exact hNodup
      · next hOther =>
          rw [List.map_cons, List.nodup_cons] at hNodup ⊢
          refine ⟨?_, ih hNodup.2⟩
          intro hMem
          rcases mem_map_fst_fileClass hMem with hSame | hOld
          · exact hOther hSame
          · exact hNodup.1 hOld

theorem ne_nil_of_mem_fileClass
    (place : String × String)
    (form : Json)
    (hNonempty : ∀ p ∈ packages, p.2 ≠ []) :
    ∀ p ∈ fileClass place form packages, p.2 ≠ [] := by
  induction packages with
  | nil =>
      intro p hp
      rw [List.mem_singleton.mp hp]
      exact List.cons_ne_nil _ _
  | cons p ps ih =>
      rw [List.forall_mem_cons] at hNonempty
      rw [fileClass]
      split
      · rw [List.forall_mem_cons]
        exact ⟨Json.put_ne_nil _ _ _, hNonempty.2⟩
      · rw [List.forall_mem_cons]
        exact ⟨hNonempty.1, ih hNonempty.2⟩

/- At a free place one entry is added. -/
theorem entries_fileClass_perm
    {place : String × String}
    (form : Json)
    (hFree : place ∉ (entries packages).map Prod.fst) :
    (entries (fileClass place form packages)).Perm
      ((place, form) :: entries packages) := by
  induction packages with
  | nil => exact List.Perm.refl _
  | cons p ps ih =>
      rw [entries_cons, List.map_append, List.mem_append,
        not_or] at hFree
      rw [fileClass]
      split
      · next hSame =>
          have hNew : place.2 ∉ p.2.map Prod.fst := by
            intro hMem
            apply hFree.1
            rcases List.mem_map.mp hMem with ⟨entry, hEntry, hKey⟩
            simp only [List.map_map, List.mem_map]
            exact ⟨entry, hEntry, Prod.ext hSame hKey⟩
          rw [entries_cons, entries_cons,
            Json.put_of_not_mem form hNew, List.map_append,
            List.append_assoc, hSame]
          exact List.perm_middle
      · rw [entries_cons, entries_cons]
        exact ((ih hFree.2).append_left _).trans
          List.perm_middle

/- A class that is filed at a free place adds its entry. -/
theorem filed_fileClass
    {place : String × String}
    (form : Json)
    (hFiled : Filed packages given)
    (hFree : place ∉ given.map Prod.fst) :
    Filed (fileClass place form packages)
      ((place, form) :: given) where
  packages_nodup :=
    nodup_map_fst_fileClass place form hFiled.packages_nodup
  ne_nil := ne_nil_of_mem_fileClass place form hFiled.ne_nil
  entries_perm := by
    have hPlaces :=
      (hFiled.entries_perm.map Prod.fst).mem_iff.not.mpr hFree
    exact (entries_fileClass_perm form hPlaces).trans
      (hFiled.entries_perm.cons _)

/- File classes one after the other. -/
def fileAll
    (form : ClassSignature → Json)
    (packages : List Package)
    (cs : List ClassSignature) : List Package :=
  cs.foldl
    (fun packages c => fileClass c.place (form c) packages)
    packages

/- Classes at different places add their entries. -/
theorem filed_fileAll
    {cs : List ClassSignature}
    (form : ClassSignature → Json)
    (hFiled : Filed packages given)
    (hPlaces :
      (cs.map ClassSignature.place ++
        given.map Prod.fst).Nodup) :
    Filed (fileAll form packages cs)
      (cs.map (fun c => (c.place, form c)) ++ given) := by
  induction cs generalizing packages given with
  | nil => exact hFiled
  | cons c cs ih =>
      have hOrder :
          (cs.map ClassSignature.place ++
              c.place :: given.map Prod.fst).Nodup :=
        List.perm_middle.nodup_iff.mpr hPlaces
      have hFree : c.place ∉ given.map Prod.fst := by
        intro hMem
        exact (List.nodup_cons.mp hPlaces).1
          (List.mem_append_right _ hMem)
      have hRest :=
        ih (filed_fileClass (form c) hFiled hFree) hOrder
      exact hRest.of_perm List.perm_middle

end ApiDocument

end DeclaredApi

------------------------------------------------------------
-- Written Packages
------------------------------------------------------------

namespace DeclaredApi

namespace ApiDocument

open DeclaredApi.Action

variable {probe : Probe}
variable {classifier : Classifier}

/- Classes are written and put into packages as they are filed. -/
theorem yields_packagesFrom
    (root : String)
    (registry : Registry)
    (packages : List Package)
    (cs : List ClassSignature)
    (hSound : Classifier.Sound probe classifier) :
    let form (c : ClassSignature) : Json :=
      (ClassDocument.ofSignature root registry c classifier).1
    Yields (Classifier.Sound probe)
      ((fileAll form packages cs).map packageField)
      (packagesFrom root registry (packages.map packageField)
        cs) := by
  intro form
  induction cs generalizing packages with
  | nil => exact yields_pure _
  | cons c cs ih =>
      have hForm :
          Yields (Classifier.Sound probe) (form c)
            (ClassDocument.ofSignature root registry c) :=
        (ClassDocument.settles_ofSignature _ _ c).yields hSound
      rw [packagesFrom]
      apply hForm.bind
      have hPut := putClass_map c.place (form c) packages
      rw [ClassSignature.place] at hPut
      rw [hPut]
      exact ih _

/- So is the document of some classes, by their names. -/
theorem yields_build
    (root : String)
    (registry : Registry)
    (version : String)
    (cs : List ClassSignature)
    (hSound : Classifier.Sound probe classifier) :
    let form (c : ClassSignature) : Json :=
      (ClassDocument.ofSignature root registry c classifier).1
    let sorted :=
      Sorting.sort (Sorting.keyLess ClassSignature.name) cs
    Yields (Classifier.Sound probe)
      (ofPackages version (fileAll form [] sorted))
      (build root registry version cs) := by
  intro form sorted
  exact (yields_packagesFrom root registry [] sorted
    hSound).bind (yields_pure _)

end ApiDocument

end DeclaredApi
