import DeclaredApi.Source.TypeNames

/-
  Simple names that a file imports.

  A type that is imported by name is the one that the simple
  name stands for when the symbol table knows it.  When it
  does not, a type of the table by the same simple name comes
  first if an on-demand import brings it in, or if it is the
  only one.

  Main declarations:
    * `FileContext.Imports`
    * `SymbolTable.resolve_of_declared_import`
    * `SymbolTable.resolve_of_undeclared_import`
    * `SourceFile.qualify_eq_import_iff`
-/

------------------------------------------------------------
-- Guesses of the Symbol Table
------------------------------------------------------------

namespace DeclaredApi

namespace SymbolTable

/- Only a single candidate is taken for the one meant. -/
theorem sole?_eq_none_iff
    (candidates : List String) :
    sole? candidates = none ↔ candidates.length ≠ 1 := by
  cases candidates with
  | nil => simp [sole?]
  | cons name others =>
      cases others with
      | nil => simp [sole?]
      | cons other rest => simp [sole?]

theorem mem_of_sole?
    {candidates : List String}
    {name : String}
    (hSole : sole? candidates = some name) :
    name ∈ candidates := by
  unfold sole? at hSole
  split at hSole
  · cases hSole
    exact List.mem_cons_self
  · cases hSole

/- What an on-demand import brings in is a candidate. -/
theorem mem_of_onDemandCandidate?
    {candidates : List String}
    {short text name : String}
    (hFound :
      onDemandCandidate? candidates short text = some name) :
    name ∈ candidates := by
  unfold onDemandCandidate? at hFound
  split at hFound
  · cases hFound
  · exact List.mem_of_find?_eq_some hFound

/- An import brings in no type where none is declared. -/
theorem onDemandCandidate?_eq_none_iff
    (candidates : List String)
    (short text : String) :
    onDemandCandidate? candidates short text = none ↔
      ∀ holder,
        FileContext.onDemand? text = some holder →
          holder ++ "." ++ short ∉ candidates := by
  unfold onDemandCandidate?
  cases FileContext.onDemand? text with
  | none => simp
  | some holder =>
      rw [List.find?_eq_none]
      constructor
      · intro hNone other hEq hMem
        cases hEq
        exact hNone _ hMem (decide_eq_true rfl)
      · intro hNone name hMem hEq
        exact hNone holder rfl (of_decide_eq_true hEq ▸ hMem)

end SymbolTable

end DeclaredApi

------------------------------------------------------------
-- Explicit Imports
------------------------------------------------------------

namespace DeclaredApi

namespace FileContext

/- One name alone is imported under a simple name. -/
structure Imports
    (file : FileContext)
    (short qualified : String) : Prop where
  mem : qualified ∈ file.imports
  names : importsName short qualified = true
  unique :
    ∀ other ∈ file.imports,
      importsName short other = true → other = qualified

/- It is the first import that a condition on it selects. -/
theorem Imports.find?_eq
    {file : FileContext}
    {short qualified : String}
    (hImports : file.Imports short qualified)
    (select : String → Bool) :
    file.imports.find?
        (fun text => importsName short text && select text) =
      if select qualified then some qualified else none := by
  split
  · next hSelect =>
      cases hFind :
          file.imports.find?
            (fun text =>
              importsName short text && select text) with
      | none =>
          rw [List.find?_eq_none] at hFind
          have hNot := hFind qualified hImports.mem
          simp [hImports.names, hSelect] at hNot
      | some other =>
          have hMem := List.mem_of_find?_eq_some hFind
          have hNames := List.find?_some hFind
          rw [Bool.and_eq_true] at hNames
          rw [hImports.unique other hMem hNames.1]
  · next hSelect =>
      rw [List.find?_eq_none]
      intro other hMem hNames
      rw [Bool.and_eq_true] at hNames
      rw [hImports.unique other hMem hNames.1] at hNames
      exact hSelect hNames.2

end FileContext

namespace SymbolTable

variable {table : SymbolTable}
variable {file : FileContext}
variable {short qualified : String}

/- An imported type that is declared is the one meant. -/
theorem resolve_of_declared_import
    (hLocal : file.localTypes.lookup short = none)
    (hPackage :
      Name.inside file.package short ∉ table.candidates short)
    (hImports : file.Imports short qualified)
    (hDeclared : qualified ∈ table.candidates short) :
    table.resolve short file = some qualified := by
  have hSame :
      (table.candidates short).contains
          (Name.inside file.package short) =
        false := by
    simpa using hPackage
  have hSelect :
      (table.candidates short).contains qualified = true := by
    simpa using hDeclared
  simp only [resolve, hLocal, hSame, Bool.false_eq_true,
    if_false, hImports.find?_eq, hSelect, if_true]

/- Otherwise the table guesses among what it declares. -/
theorem resolve_of_undeclared_import
    (hLocal : file.localTypes.lookup short = none)
    (hPackage :
      Name.inside file.package short ∉ table.candidates short)
    (hImports : file.Imports short qualified)
    (hUndeclared : qualified ∉ table.candidates short) :
    table.resolve short file =
      (file.imports.findSome?
        (onDemandCandidate? (table.candidates short) short)).or
        (sole? (table.candidates short)) := by
  have hSame :
      (table.candidates short).contains
          (Name.inside file.package short) =
        false := by
    simpa using hPackage
  have hSelect :
      (table.candidates short).contains qualified = false := by
    simpa using hUndeclared
  simp only [resolve, hLocal, hSame, Bool.false_eq_true,
    if_false, hImports.find?_eq, hSelect]
  cases file.imports.findSome?
      (onDemandCandidate? (table.candidates short) short) with
  | none => rfl
  | some name => rfl

end SymbolTable

end DeclaredApi

------------------------------------------------------------
-- Qualified Names
------------------------------------------------------------

namespace DeclaredApi

namespace SourceFile

open FileContext

variable {f : SourceFile}
variable {name qualified : String}

/- What the symbol table answers is the qualified name. -/
theorem qualify_of_resolve
    {found : String}
    (hResolve : f.table.resolve name f.context = some found) :
    f.qualify name = found := by
  simp only [qualify, lookup, hResolve]

/- Where it has no answer, the import is taken. -/
theorem qualify_of_import
    (hResolve : f.table.resolve name f.context = none)
    (hImports : f.context.Imports name qualified) :
    f.qualify name = qualified := by
  have hFind :
      f.context.imports.find? (importsName name) =
        some qualified := by
    simpa using hImports.find?_eq (fun _ => true)
  simp only [qualify, lookup, hResolve, hFind]

/-
  The only import of a simple name, which neither the file
  nor its package declares, is what the name stands for
  exactly if the symbol table declares the import, or if it
  has no guess: no on-demand import brings in a type by the
  name, and there is not just one type by the name.
-/
theorem qualify_eq_import_iff
    (hLocal : f.context.localTypes.lookup name = none)
    (hPackage :
      Name.inside f.context.package name ∉
        f.table.candidates name)
    (hImports : f.context.Imports name qualified) :
    f.qualify name = qualified ↔
      qualified ∈ f.table.candidates name ∨
        (∀ text ∈ f.context.imports, ∀ holder,
          onDemand? text = some holder →
            holder ++ "." ++ name ∉ f.table.candidates name) ∧
          (f.table.candidates name).length ≠ 1 := by
  by_cases hDeclared : qualified ∈ f.table.candidates name
  · have hResolve :=
      SymbolTable.resolve_of_declared_import hLocal hPackage
        hImports hDeclared
    exact iff_of_true (qualify_of_resolve hResolve)
      (Or.inl hDeclared)
  · have hResolve :=
      SymbolTable.resolve_of_undeclared_import hLocal hPackage
        hImports hDeclared
    -- A guess is a declared type, which the import is not.
    have hGuess :
        ∀ found ∈ f.table.candidates name,
          f.table.resolve name f.context = some found →
            f.qualify name ≠ qualified := by
      intro found hFound hAnswer hEq
      rw [qualify_of_resolve hAnswer] at hEq
      exact hDeclared (hEq ▸ hFound)
    rw [or_iff_right hDeclared]
    cases hDemand :
        f.context.imports.findSome?
          (SymbolTable.onDemandCandidate?
            (f.table.candidates name) name) with
    | some found =>
        rcases List.exists_of_findSome?_eq_some hDemand with
          ⟨text, hText, hFound⟩
        have hMem := SymbolTable.mem_of_onDemandCandidate? hFound
        rw [hDemand, Option.some_or] at hResolve
        refine iff_of_false (hGuess found hMem hResolve) ?_
        rintro ⟨hNone, -⟩
        rw [(SymbolTable.onDemandCandidate?_eq_none_iff
          _ name text).mpr (hNone text hText)] at hFound
        cases hFound
    | none =>
        rw [hDemand, Option.none_or] at hResolve
        have hNone :
            ∀ text ∈ f.context.imports, ∀ holder,
              onDemand? text = some holder →
                holder ++ "." ++ name ∉
                  f.table.candidates name := by
          intro text hText
          exact (SymbolTable.onDemandCandidate?_eq_none_iff
            _ name text).mp
            (List.findSome?_eq_none_iff.mp hDemand text hText)
        cases hSole :
            SymbolTable.sole? (f.table.candidates name) with
        | some found =>
            have hMem := SymbolTable.mem_of_sole? hSole
            rw [hSole] at hResolve
            refine iff_of_false (hGuess found hMem hResolve) ?_
            rintro ⟨-, hCount⟩
            rw [(SymbolTable.sole?_eq_none_iff _).mpr hCount]
              at hSole
            cases hSole
        | none =>
            rw [hSole] at hResolve
            exact iff_of_true
              (qualify_of_import hResolve hImports)
              ⟨hNone,
                (SymbolTable.sole?_eq_none_iff _).mp hSole⟩

/- A file that imports a type by name and a package. -/
def importingFile (table : SymbolTable) : SourceFile where
  source := ByteArray.empty
  table := table
  context :=
    { package := "c", imports := ["a.Node", "b.*"] }

/- Types that the table declares elsewhere do not matter. -/
theorem qualify_eq_import_iff_unambiguous :
    let f := importingFile
      (.ofList [("Node", "d.Node"), ("Node", "e.Node")])
    f.context.localTypes.lookup "Node" = none ∧
      Name.inside f.context.package "Node" ∉
        f.table.candidates "Node" ∧
      f.context.Imports "Node" "a.Node" ∧
      f.qualify "Node" = "a.Node" := by
  intro f
  have hPackage :
      Name.inside f.context.package "Node" ∉
        f.table.candidates "Node" := by
    decide +kernel
  have hImports : f.context.Imports "Node" "a.Node" :=
    { mem := by decide +kernel
      names := by decide +kernel
      unique := by decide +kernel }
  refine ⟨rfl, hPackage, hImports, ?_⟩
  refine (qualify_eq_import_iff rfl hPackage hImports).mpr
    (Or.inr ⟨?_, by decide +kernel⟩)
  intro text hText holder hDemand
  have hHolder : holder = "b" := by
    simp only [f, importingFile, List.mem_cons,
      List.not_mem_nil, or_false] at hText
    rcases hText with rfl | rfl
    · have hNone : onDemand? "a.Node" = none := by
        decide +kernel
      rw [hNone] at hDemand
      cases hDemand
    · have hSome : onDemand? "b.*" = some "b" := by
        decide +kernel
      rw [hSome] at hDemand
      exact (Option.some.inj hDemand).symm
  subst hHolder
  decide +kernel

/- The package that is imported comes before the name. -/
theorem imported_package_hides_import :
    let f := importingFile (.ofList [("Node", "b.Node")])
    f.context.localTypes.lookup "Node" = none ∧
      Name.inside f.context.package "Node" ∉
        f.table.candidates "Node" ∧
      f.context.Imports "Node" "a.Node" ∧
      f.qualify "Node" = "b.Node" := by
  intro f
  refine ⟨rfl, by decide +kernel, ?_, by decide +kernel⟩
  exact
    { mem := by decide +kernel
      names := by decide +kernel
      unique := by decide +kernel }

end SourceFile

end DeclaredApi
