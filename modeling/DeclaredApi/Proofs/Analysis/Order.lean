import DeclaredApi.Proofs.Analysis.Isolation
import DeclaredApi.Proofs.ClassSignature.Failures
import DeclaredApi.Proofs.Source.Lookups
import DeclaredApi.Proofs.Source.Tables

/-
  The order of source files.

  Files are taken in the order of their paths.  The symbol
  table is a set of declarations, and classes of different
  names are registered alike in every order.  So the outcome
  of an analysis depends on the contents of the files and not
  on their names.

  Main declarations:
    * `SourceEntry.perm_declared`
    * `Registry.lookup_withAll_of_perm`
    * `Analysis.signatures_of_perm`
    * `Session.analyze_renamed`
-/

------------------------------------------------------------
-- Declared Classes
------------------------------------------------------------

namespace DeclaredApi

/- The classes of a file, if it can be built. -/
def SourceContent.classes
    (table : SymbolTable)
    (c : SourceContent) : List ClassDecl :=
  match SourceFile.build c.source table c.tree with
  | .ok classes => classes
  | .error _ => []

namespace SourceEntry

variable {entries others : List SourceEntry}

/- Entries without a content declare no types. -/
theorem scanned_eq
    (entries : List SourceEntry) :
    entries.flatMap (fun e => e.scan.types) =
      (entries.filterMap content).flatMap
        (fun c => (Scan.ofFile c.source c.tree).types) := by
  induction entries with
  | nil => rfl
  | cons e entries ih =>
      rw [List.flatMap_cons, ih, List.filterMap_cons, scan]
      cases e.content with
      | none => rfl
      | some c => rw [List.flatMap_cons]

/- And no classes either. -/
theorem buildAll_eq
    (table : SymbolTable)
    (entries : List SourceEntry) :
    buildAll table entries =
      (entries.filterMap content).flatMap
        (SourceContent.classes table) := by
  rw [buildAll]
  induction entries with
  | nil => rfl
  | cons e entries ih =>
      rw [List.flatMap_cons, ih, List.filterMap_cons, build]
      cases e.content with
      | none => rfl
      | some c =>
          change
            SourceContent.classes table c ++ _ =
              (c :: entries.filterMap content).flatMap
                (SourceContent.classes table)
          rw [List.flatMap_cons]

/- Files of the same contents fill the same symbol table. -/
theorem resolve_scanAll_eq
    (hContents :
      (others.filterMap content).Perm
        (entries.filterMap content))
    (short : String)
    (file : FileContext) :
    (scanAll others).resolve short file =
      (scanAll entries).resolve short file := by
  apply SymbolTable.resolve_congr
  apply SymbolTable.candidates_ofList_eq
  intro t
  rw [scanned_eq, scanned_eq]
  exact (hContents.flatMap_right _).mem_iff

/- So they declare the same classes, in some order. -/
theorem perm_declared
    (hContents :
      (others.filterMap content).Perm
        (entries.filterMap content)) :
    (declared others).Perm (declared entries) := by
  have hClasses :
      SourceContent.classes (scanAll others) =
        SourceContent.classes (scanAll entries) := by
    funext c
    rw [SourceContent.classes, SourceContent.classes,
      SourceFile.build_congr (resolve_scanAll_eq hContents)]
  rw [declared, declared, buildAll_eq, buildAll_eq, hClasses]
  exact hContents.flatMap_right _

end SourceEntry

end DeclaredApi

------------------------------------------------------------
-- Registered Classes
------------------------------------------------------------

namespace DeclaredApi

namespace Registry

variable {classes others : List ClassDecl}

theorem lookup_map_ofDecl_eq_some_iff
    {name : String}
    {scope : ClassScope}
    (hNames : (classes.map ClassDecl.name).Nodup) :
    lookup (classes.map ClassScope.ofDecl) name = some scope ↔
      ∃ c ∈ classes,
        c.name = name ∧ ClassScope.ofDecl c = scope := by
  constructor
  · intro hLookup
    have hMem := List.mem_of_find?_eq_some hLookup
    rcases List.mem_map.mp hMem with ⟨c, hc, rfl⟩
    have hName := List.find?_some hLookup
    exact ⟨c, hc, of_decide_eq_true hName, rfl⟩
  · rintro ⟨c, hc, rfl, rfl⟩
    exact lookup_map_ofDecl hNames hc

/- Classes of different names are registered in any order. -/
theorem lookup_withAll_of_perm
    (hPerm : others.Perm classes)
    (hNames : (classes.map ClassDecl.name).Nodup)
    (name : String) :
    lookup (withAll [] others) name =
      lookup (withAll [] classes) name := by
  have hOthers : (others.map ClassDecl.name).Nodup :=
    (hPerm.map ClassDecl.name).nodup_iff.mpr hNames
  rw [lookup_withAll_nil, lookup_withAll_nil]
  apply Option.ext
  intro scope
  rw [lookup_map_ofDecl_eq_some_iff hOthers,
    lookup_map_ofDecl_eq_some_iff hNames]
  simp only [hPerm.mem_iff]

end Registry

namespace Analysis

variable {classes others : List ClassDecl}

/- Signatures have the names of their classes. -/
theorem map_name_of_mapM
    {d : ClassDecl → Description}
    {found : List ClassSignature}
    (hOk :
      classes.mapM (fun c => (d c).signature c) = .ok found) :
    classes.map ClassDecl.name =
      found.map ClassSignature.name := by
  rw [← List.forall₂_eq_eq_eq, List.forall₂_map_left_iff,
    List.forall₂_map_right_iff]
  apply (Result.forall₂_of_mapM hOk).imp
  intro c sig hSig
  exact (Description.describes_of_signature hSig).name_eq.symm

/- A class is described alike in every order of the classes. -/
theorem signature_of_perm
    {c : ClassDecl}
    (config : Config)
    (erases : Bool)
    (hPerm : others.Perm classes)
    (hNames : (classes.map ClassDecl.name).Nodup)
    (hc : c ∈ classes) :
    (Description.ofClass config erases
        (Registry.withAll [] others) c).signature c =
      (Description.ofClass config erases
        (Registry.withAll [] classes) c).signature c := by
  rcases Registry.exists_lookup_withAll [] hc with
    ⟨scope, hLookup⟩
  have hPart :=
    Registry.PartOf.of_lookup
      (Registry.lookup_withAll_of_perm hPerm hNames)
  rw [Description.signature_ofClass_eq config erases hPart hLookup]

/-
  Classes of different names have the same signatures in
  every order, or some class has none.
-/
theorem signatures_of_perm
    (config : Config)
    (erases : Bool)
    (hPerm : others.Perm classes)
    (hNames : (classes.map ClassDecl.name).Nodup) :
    let first :=
      signatures config erases (Registry.withAll [] classes)
        classes
    let second :=
      signatures config erases (Registry.withAll [] others) others
    (∃ found, first = .ok found ∧ second = .ok found) ∨
      ∃ e e', first = .error e ∧ second = .error e' := by
  intro first second
  let describe (c : ClassDecl) :=
    (Description.ofClass config erases
      (Registry.withAll [] classes) c).signature c
  have hFirst :
      first = (do
        let found ← classes.mapM describe
        pure (Sorting.sort (Sorting.keyLess ClassSignature.name)
          found)) :=
    rfl
  have hSecond :
      second = (do
        let found ← others.mapM describe
        pure (Sorting.sort (Sorting.keyLess ClassSignature.name)
          found)) := by
    rw [← Result.mapM_congr fun c hc =>
      signature_of_perm config erases hPerm hNames
        (hPerm.mem_iff.mp hc)]
    rfl
  rw [hFirst, hSecond]
  rcases Result.mapM_perm_cases describe hPerm.symm with
    ⟨found, rest, hFound, hRest, hSame⟩ | ⟨e, e', hE, hE'⟩
  · left
    have hApart : (found.map ClassSignature.name).Nodup :=
      map_name_of_mapM hFound ▸ hNames
    have hSorted :=
      Sorting.sort_keyLess_eq_of_perm hSame
        (fun a ha b hb => List.inj_on_of_nodup_map hApart ha hb)
    refine ⟨Sorting.sort (Sorting.keyLess ClassSignature.name)
      found, ?_, ?_⟩
    · rw [hFound]
      rfl
    · rw [hRest, hSorted]
      rfl
  · right
    refine ⟨e, e', ?_, ?_⟩
    · rw [hE]
      rfl
    · rw [hE']
      rfl

end Analysis

end DeclaredApi

------------------------------------------------------------
-- Renamed Files
------------------------------------------------------------

namespace DeclaredApi

namespace SourceEntry

variable {place : List String} {files : List SourceEntry}

/- An entry below a directory has another path than it. -/
theorem find?_of_below
    (hBelow : ∀ e ∈ files, e.isBelow place = true) :
    files.find? (fun e => e.path = place) = none := by
  rw [List.find?_eq_none]
  intro e he hPath
  have hLength := hBelow e he
  rw [isBelow, of_decide_eq_true hPath, Bool.and_eq_true,
    decide_eq_true_iff] at hLength
  exact Nat.lt_irrefl _ hLength.2

/- Directories have no content. -/
theorem filterMap_content_directories
    (select : SourceEntry → Bool) :
    ((directories files).filter select).filterMap content =
      [] := by
  rw [List.filterMap_eq_nil_iff]
  intro e he
  rcases List.mem_map.mp (List.mem_of_mem_filter he) with
    ⟨path, _, rfl⟩
  rfl

/- The sources below a directory are selected in some order. -/
theorem perm_content_select
    (hFiles :
      ∀ e ∈ files, e.isBelow place = true ∧ e.isSource = true) :
    ((select place files).filterMap content).Perm
      (files.filterMap content) := by
  have hAll :
      files.filter (fun e => e.isBelow place && e.isSource) =
        files := by
    rw [List.filter_eq_self]
    intro e he
    rw [Bool.and_eq_true]
    exact hFiles e he
  rw [select, find?_of_below fun e he => (hFiles e he).1]
  apply ((Sorting.perm_sort _ _).filterMap content).trans
  rw [List.filter_append, List.filterMap_append, hAll,
    filterMap_content_directories, List.append_nil]

end SourceEntry

namespace Session

/-
  Files have the same signatures under whatever names they
  lie below a directory, or no signatures under any, if their
  classes have different names.  A symbol table answers alike
  in every order and repetition of declarations.
-/
theorem analyze_renamed
    {files renamed : List SourceEntry}
    {place place' : List String}
    (start : Session)
    (erases installs : Bool)
    (hFiles :
      ∀ e ∈ files, e.isBelow place = true ∧ e.isSource = true)
    (hRenamed :
      ∀ e ∈ renamed,
        e.isBelow place' = true ∧ e.isSource = true)
    (hContents :
      (renamed.map SourceEntry.content).Perm
        (files.map SourceEntry.content))
    (hNames :
      ((SourceEntry.declared
        (SourceEntry.select place files)).map
          ClassDecl.name).Nodup) :
    let outcome (entries : List SourceEntry) :=
      (analyze erases installs entries (reset start).2).1
    let first := outcome (SourceEntry.select place files)
    let second := outcome (SourceEntry.select place' renamed)
    ((∃ found, first = .ok found ∧ second = .ok found) ∨
        ∃ e e', first = .error e ∧ second = .error e') ∧
      ∀ types others : List (String × String),
        (∀ t, t ∈ others ↔ t ∈ types) →
          ∀ short file,
            (SymbolTable.ofList others).resolve short file =
              (SymbolTable.ofList types).resolve short file := by
  intro outcome first second
  have hReset : (reset start).2.FollowsReset :=
    ⟨start, [], fun _ h => absurd h List.not_mem_nil, rfl⟩
  have hSelected :
      ((SourceEntry.select place' renamed).filterMap
          SourceEntry.content).Perm
        ((SourceEntry.select place files).filterMap
          SourceEntry.content) := by
    have hSame := hContents.filterMap (fun content => content)
    rw [List.filterMap_map, List.filterMap_map] at hSame
    exact (SourceEntry.perm_content_select hRenamed).trans
      (hSame.trans
        (SourceEntry.perm_content_select hFiles).symm)
  constructor
  · have hOutcome := fun entries =>
      analyze_eq_signatures hReset erases installs entries
    simp only [first, second, outcome, hOutcome]
    exact Analysis.signatures_of_perm _ erases
      (SourceEntry.perm_declared hSelected) hNames
  · intro types others hSame short file
    exact SymbolTable.resolve_congr
      (SymbolTable.candidates_ofList_eq hSame short) file

/- Two classes keep their signatures if files change names. -/
theorem analyze_renamed_swapped :
    let first := plainContent
    let second :=
      genericContent "class D<T>{T x;}" 10 [] [letterField 11]
    let files : List SourceEntry :=
      [⟨["a", "C.java"], some first⟩,
        ⟨["a", "D.java"], some second⟩]
    let renamed : List SourceEntry :=
      [⟨["b", "C.java"], some second⟩,
        ⟨["b", "D.java"], some first⟩]
    let outcome (entries : List SourceEntry) :=
      (analyze false true entries (reset {}).2).1
    (SourceEntry.declared
        (SourceEntry.select ["b"] renamed)).map ClassDecl.name =
        ["D", "C"] ∧
      ∃ found,
        outcome (SourceEntry.select ["a"] files) = .ok found ∧
          outcome (SourceEntry.select ["b"] renamed) =
            .ok found := by
  intro first second files renamed outcome
  refine ⟨by decide +kernel, ?_⟩
  have hFiles :
      ∀ e ∈ files, e.isBelow ["a"] = true ∧ e.isSource = true := by
    decide +kernel
  have hRenamed :
      ∀ e ∈ renamed,
        e.isBelow ["b"] = true ∧ e.isSource = true := by
    decide +kernel
  have hSwapped :=
    analyze_renamed {} false true hFiles hRenamed
      (List.Perm.swap _ _ _) (by decide +kernel)
  rcases hSwapped.1 with hOk | ⟨e, e', hError, _⟩
  · exact hOk
  · have hNone :
        Result.failure?
            (outcome (SourceEntry.select ["a"] files)) =
          none := by
      decide +kernel
    rcases Result.failure?_eq_none_iff.mp hNone with ⟨found, hOk⟩
    cases hError.symm.trans hOk

end Session

end DeclaredApi
