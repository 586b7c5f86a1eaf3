import DeclaredApi.Classifier
import DeclaredApi.Sorting

/-
  Symbol tables of declared types.

  A symbol table lists the qualified names declared under
  each short name.  In a file a short name stands for a type
  of the file, of its package, or of its imports, in that
  order, and otherwise for the only type of that name.

  Key definitions include:
    * `FileContext`
    * `SymbolTable`
    * `SymbolTable.add`
    * `SymbolTable.qualifiedNames`
    * `SymbolTable.resolve`
    * `SymbolTable.probe`
-/

------------------------------------------------------------
-- Files
------------------------------------------------------------

namespace DeclaredApi

/-
  What decides the short names of a file: its package, its
  imports, and the types that it declares.
-/
structure FileContext where
  package : String := ""
  imports : List String := []
  localTypes : List (String × String) := []
deriving Repr, Inhabited

namespace FileContext

/- An import that names a type ends in its short name. -/
def importsName
    (name text : String) : Bool :=
  ("." ++ name).toList.isSuffixOf text.toList

/- The package or class of an on-demand import. -/
def onDemand? (text : String) : Option String :=
  if ".*".toList.isSuffixOf text.toList then
    some (String.ofList (text.toList.take (text.length - 2)))
  else
    none

end FileContext

end DeclaredApi

------------------------------------------------------------
-- Tables
------------------------------------------------------------

namespace DeclaredApi

/- Qualified names by short name, in order of declaration. -/
structure SymbolTable where
  types : List (String × List String) := []
deriving DecidableEq, Repr, Inhabited

namespace SymbolTable

/- Add a name to those of its short name, once. -/
def addName
    (short qualified : String) :
    List (String × List String) →
    List (String × List String)
| [] => [(short, [qualified])]
| (key, names) :: rest =>
    if key = short then
      if names.contains qualified then
        (key, names) :: rest
      else
        (key, names ++ [qualified]) :: rest
    else
      (key, names) :: addName short qualified rest

/- Declare a type. -/
def add
    (short qualified : String)
    (table : SymbolTable) : SymbolTable :=
  ⟨addName short qualified table.types⟩

/- The table of a list of declarations. -/
def ofList (types : List (String × String)) : SymbolTable :=
  types.foldl (fun table t => table.add t.1 t.2) {}

/- The qualified names declared under a short name. -/
def candidates
    (table : SymbolTable)
    (short : String) : List String :=
  Sorting.sort Sorting.textLess
    ((table.types.lookup short).getD [])

/- All the qualified names, in order and each once. -/
def qualifiedNames (table : SymbolTable) : List String :=
  (Sorting.sort Sorting.textLess
    (table.types.flatMap Prod.snd)).eraseDups

/- A declared type. -/
def isKnown
    (table : SymbolTable)
    (name : String) : Bool :=
  table.types.any (fun entry => entry.2.contains name)

/-
  A probe of the declared types: primitive names, declared
  types and names with a package are concrete.
-/
def probe (table : SymbolTable) : Probe where
  answer := fun name =>
    let element := (Name.splitDimensions name).1
    some (Name.isPrimitive element || table.isKnown element ||
      element.toList.contains '.')

end SymbolTable

end DeclaredApi

------------------------------------------------------------
-- Short Names
------------------------------------------------------------

namespace DeclaredApi

namespace SymbolTable

/- The candidate that an on-demand import brings in. -/
def onDemandCandidate?
    (candidates : List String)
    (short : String)
    (text : String) : Option String :=
  match FileContext.onDemand? text with
  | none => none
  | some holder =>
      candidates.find? (fun c => c = holder ++ "." ++ short)

/- The only candidate, if there is just one. -/
def sole? : List String → Option String
| [name] => some name
| _ => none

/-
  The qualified name that a short name stands for in a file,
  as far as the table tells.
-/
def resolve
    (table : SymbolTable)
    (short : String)
    (file : FileContext) : Option String :=
  match file.localTypes.lookup short with
  | some name => some name
  | none =>
      let candidates := table.candidates short
      let samePackage := Name.inside file.package short
      if candidates.contains samePackage then
        some samePackage
      else
        let explicit := file.imports.find? (fun text =>
          FileContext.importsName short text &&
            candidates.contains text)
        match explicit with
        | some name => some name
        | none =>
            match file.imports.findSome?
                (onDemandCandidate? candidates short) with
            | some name => some name
            | none => sole? candidates

end SymbolTable

end DeclaredApi
