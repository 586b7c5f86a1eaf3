import DeclaredApi.Cli.Run
import DeclaredApi.Config
import DeclaredApi.Json.Reader
import DeclaredApi.Source.TreeReading

/-
  The command line.

  A scan reads the files, with their syntax trees, as one
  JSON object on standard input.  Settings are taken from
  the environment.

  Key definitions include:
    * `Main.settings`
    * `Main.files`
    * `Main.deliver`
    * `main`
-/

------------------------------------------------------------
-- Input and Output
------------------------------------------------------------

namespace DeclaredApi

namespace Main

/- The settings in the environment. -/
def settings : IO Config.Settings := do
  let rootObject ← IO.getEnv "DECLARED_API_ROOT_OBJECT_TYPE"
  let depthLimit ← IO.getEnv "DECLARED_API_MAX_TYPE_DEPTH"
  let interns ← IO.getEnv "DECLARED_API_INTERN_TYPES"
  return {
    rootObject := rootObject
    depthLimit := depthLimit
    interns := interns }

/- The files on standard input. -/
def files : IO (List SourceEntry) := do
  let input ← (← IO.getStdin).readToEnd
  match Json.read input with
  | .ok value => return SourceEntry.ofJson value
  | .error _ => return []

/- Print what a command comes to, and write its file. -/
def deliver (outcome : Outcome) : IO UInt32 := do
  match outcome.written? with
  | some file =>
      IO.FS.writeFile file.place.text file.document
  | none => pure ()
  IO.print outcome.output
  IO.eprint outcome.errorOutput
  return UInt32.ofNat outcome.exitCode

end Main

end DeclaredApi

------------------------------------------------------------
-- Program
------------------------------------------------------------

open DeclaredApi in
/- Run the command that the arguments ask for. -/
def main (arguments : List String) : IO UInt32 := do
  match Config.ofSettings (← Main.settings) with
  | .error _ =>
      IO.eprintln "The settings are not valid."
      return 1
  | .ok config =>
      let files ←
        match Command.ofArguments? arguments with
        | some (.scan _) => Main.files
        | _ => pure []
      let (outcome, _) :=
        Command.runArguments files arguments { config := config }
      Main.deliver outcome
