import DeclaredApi.Session
import DeclaredApi.Source.Files

/-
  Analysis of source files.

  All declared types are collected first, so that the names
  in one file are qualified with the types of all of them;
  all classes are registered before any of them is described,
  so that the variables of every class are in scope.

  Key definitions include:
    * `Analysis.skipped`
    * `Session.registerAll`
    * `Session.analyze`
-/

------------------------------------------------------------
-- Skipped Files
------------------------------------------------------------

namespace DeclaredApi

namespace Analysis

/- The phase in which a file was left out. -/
inductive Phase where
| scan
| process
deriving DecidableEq, Repr

namespace Phase

/- The name of a phase. -/
def label : Phase → String
| .scan => "scan"
| .process => "process"

end Phase

/- The files that were left out, phase by phase. -/
def skipped
    (entries : List SourceEntry) :
    List (Phase × SourceEntry) :=
  let table := SourceEntry.scanAll entries
  (SourceEntry.unscanned entries).map (fun e => (.scan, e)) ++
    (SourceEntry.unbuilt table entries).map
      (fun e => (.process, e))

end Analysis

end DeclaredApi

------------------------------------------------------------
-- Analysis
------------------------------------------------------------

namespace DeclaredApi

namespace Session

/- Register classes one after the other. -/
def registerAll : List ClassDecl → StateM Session Unit
| [] => pure ()
| c :: cs => do
    let _ ← register c
    registerAll cs

/-
  The signatures of all the classes that some files declare,
  in the order of their names.  On request the probe of the
  declared types is installed.
-/
def analyze
    (erases installs : Bool)
    (entries : List SourceEntry) :
    Action DescribeError (List ClassSignature) := do
  let table := SourceEntry.scanAll entries
  if installs then
    monadLift (install table.probe)
  let classes := SourceEntry.buildAll table entries
  monadLift (registerAll classes)
  let signatures ← describeAll erases classes
  pure (Sorting.sort (Sorting.keyLess ClassSignature.name)
    signatures)

end Session

end DeclaredApi
