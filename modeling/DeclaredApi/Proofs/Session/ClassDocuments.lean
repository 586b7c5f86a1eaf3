import DeclaredApi.Proofs.ClassSignature.Packages
import DeclaredApi.Proofs.Session.Classification
import DeclaredApi.Proofs.Sorting

/-
  The classes of a document.

  The name of a class is its package joined to its local
  name, so classes of different names have different places,
  also where one package is the beginning of another.  None
  of them replaces another one in a document, and the order
  in which they are given does not show.

  Main declarations:
    * `Session.document_files_classes`
-/

------------------------------------------------------------
-- Classes of Different Names
------------------------------------------------------------

namespace DeclaredApi

variable {signatures others : List ClassSignature}

/- Classes that are named by their places have different ones. -/
theorem ClassSignature.nodup_map_place
    (hNames : (signatures.map name).Nodup)
    (hPlaces :
      ∀ c ∈ signatures,
        c.name = Name.inside c.package c.localName) :
    (signatures.map place).Nodup := by
  have hJoined :
      signatures.map name =
        (signatures.map place).map
          (fun p => Name.inside p.1 p.2) := by
    rw [List.map_map]
    exact List.map_congr_left hPlaces
  rw [hJoined] at hNames
  exact hNames.of_map

/- Classes of different names have one order. -/
theorem ClassSignature.sort_name_eq_of_perm
    (hPerm : others.Perm signatures)
    (hNames : (signatures.map name).Nodup) :
    Sorting.sort (Sorting.keyLess name) others =
      Sorting.sort (Sorting.keyLess name) signatures := by
  have hOthers : (others.map name).Nodup :=
    (hPerm.map name).nodup_iff.mpr hNames
  apply Sorting.sort_keyLess_eq_of_perm hPerm
  intro a ha b hb hSame
  exact List.inj_on_of_nodup_map hOthers ha hb hSame

end DeclaredApi

------------------------------------------------------------
-- Documents after a History
------------------------------------------------------------

namespace DeclaredApi

namespace Session

open ApiDocument

/-
  After any history, the document of classes with different
  names, each of which is its package joined to its local
  name, has one entry for each class and no other: at its
  package and local name, and equal to its own document.  No
  two classes have one place, and every order of the classes
  gives the same document.
-/
theorem document_files_classes
    (start : Session)
    (ops : List Operation)
    {signatures : List ClassSignature}
    (version : String)
    (hNames : (signatures.map ClassSignature.name).Nodup)
    (hPlaces :
      ∀ c ∈ signatures,
        c.name = Name.inside c.package c.localName) :
    let s := run ops (reset start).2
    (∃ packages,
      (document version signatures s).1 =
          ofPackages version packages ∧
        Filed packages
          (signatures.map fun c =>
            (c.place, (classDocument c s).1))) ∧
      (signatures.map ClassSignature.place).Nodup ∧
      ∀ others : List ClassSignature,
        others.Perm signatures →
          document version others s =
            document version signatures s := by
  intro s
  have hDecided : s.Decided :=
    decided_run ops (Classifier.sound_forget _)
  have hDifferent :=
    ClassSignature.nodup_map_place hNames hPlaces
  refine ⟨?_, hDifferent, ?_⟩
  · let form (c : ClassSignature) : Json :=
      (classDocument c s).1
    let sorted :=
      Sorting.sort (Sorting.keyLess ClassSignature.name)
        signatures
    have hPerm : sorted.Perm signatures :=
      Sorting.perm_sort _ signatures
    have hDocument :
        (document version signatures s).1 =
          ofPackages version (fileAll form [] sorted) :=
      (yields_build s.root s.registry version signatures
        hDecided s.classifier hDecided).1
    have hSorted :
        (sorted.map ClassSignature.place ++ []).Nodup := by
      rw [List.append_nil]
      exact (hPerm.map _).nodup_iff.mpr hDifferent
    have hFiled := filed_fileAll form filed_nil hSorted
    refine ⟨fileAll form [] sorted, hDocument, ?_⟩
    rw [List.append_nil] at hFiled
    exact hFiled.of_perm (hPerm.map _)
  · intro others hPerm
    unfold document build
    rw [ClassSignature.sort_name_eq_of_perm hPerm hNames]

/- A class at a place, with a field of a type variable. -/
def signatureAt
    (package localName : String) : ClassSignature where
  name := Name.inside package localName
  package := package
  localName := localName
  kind := .plain
  visibility := .package
  isStatic := false
  isFinal := false
  typeParameters := []
  superclass := none
  interfaces := []
  fields :=
    [{ name := "f", type := .named "T", modifiers := [] }]
  constructors := []
  methods := []
  scope := { name := Name.inside package localName }

/-
  Packages that begin alike, the default package and a nested
  class.
-/
def prefixedSignatures : List ClassSignature :=
  [signatureAt "a.b" "D", signatureAt "a" "b.C",
    signatureAt "" "a.b.E", signatureAt "a.b" "D.I"]

/- Each of them has its own entry, in either order. -/
theorem document_files_classes_prefixed :
    let s : Session := run [.parse "T"] (reset {}).2
    (∃ packages,
      (document "1.0" prefixedSignatures s).1 =
          ofPackages "1.0" packages ∧
        Filed packages
          (prefixedSignatures.map fun c =>
            (c.place, (classDocument c s).1))) ∧
      (prefixedSignatures.map ClassSignature.place).Nodup ∧
      document "1.0" prefixedSignatures.reverse s =
        document "1.0" prefixedSignatures s := by
  intro s
  have hNames :
      (prefixedSignatures.map ClassSignature.name).Nodup := by
    decide +kernel
  have hPlaces :
      ∀ c ∈ prefixedSignatures,
        c.name = Name.inside c.package c.localName := by
    simp [prefixedSignatures, signatureAt]
  rcases document_files_classes {} [.parse "T"] "1.0" hNames
      hPlaces with
    ⟨hFiled, hDifferent, hOrder⟩
  exact ⟨hFiled, hDifferent,
    hOrder _ (List.reverse_perm prefixedSignatures)⟩

end Session

end DeclaredApi
