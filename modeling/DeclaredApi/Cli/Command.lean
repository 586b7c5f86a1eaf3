import DeclaredApi.Cli.Options

/-
  Commands of the command line.

  `parse` takes one signature, `classify` one or more names
  and `scan` one path.  The options of all commands come
  before the command's name, its own anywhere after it.

  Key definitions include:
    * `ScanRequest`
    * `Command`
    * `Command.ofArguments?`
-/

------------------------------------------------------------
-- Commands
------------------------------------------------------------

namespace DeclaredApi

/- What to scan, and what to do with the classes found. -/
structure ScanRequest where
  path : String
  className : Option String := none
  erases : Bool := false
  target : Option String := none
deriving DecidableEq, Repr

/- One use of the command line. -/
inductive Command where
| parse (signature : String) (asJson : Bool)
| classify (names : List String)
| scan (request : ScanRequest)
deriving DecidableEq, Repr

end DeclaredApi

------------------------------------------------------------
-- Options of the Commands
------------------------------------------------------------

namespace DeclaredApi

namespace Command

/- The keys of all options. -/
inductive OptionKey where
| verbose
| json
| className
| erase
| target
deriving DecidableEq, Repr

/- The options before the command's name. -/
def generalOptions : List (CliOption OptionKey) :=
  [{ key := .verbose, long := "--verbose", short := some 'v' }]

/- The options of `parse`. -/
def parseOptions : List (CliOption OptionKey) :=
  [{ key := .json, long := "--json" }]

/- The options of `scan`. -/
def scanOptions : List (CliOption OptionKey) :=
  [{ key := .className
     long := "--class"
     short := some 'c'
     takesValue := true },
    { key := .erase, long := "--erase" },
    { key := .target
      long := "--output"
      short := some 'o'
      takesValue := true }]

end Command

end DeclaredApi

------------------------------------------------------------
-- Reading Commands
------------------------------------------------------------

namespace DeclaredApi

namespace Command

/- The command `parse` with its arguments. -/
def parse? (arguments : List String) : Option Command := do
  let read ← CliArguments.read parseOptions true arguments
  match read.positional with
  | [signature] =>
      some (.parse signature (read.has .json))
  | _ => none

/- The command `classify` with its arguments. -/
def classify? (arguments : List String) : Option Command := do
  let read ←
    CliArguments.read (κ := OptionKey) [] true arguments
  match read.positional with
  | [] => none
  | names => some (.classify names)

/- The command `scan` with its arguments. -/
def scan? (arguments : List String) : Option Command := do
  let read ← CliArguments.read scanOptions true arguments
  match read.positional with
  | [path] =>
      some (.scan
        { path := path
          className := read.value? .className
          erases := read.has .erase
          target := read.value? .target })
  | _ => none

/- The command that the arguments of a program ask for. -/
def ofArguments? (arguments : List String) :
    Option Command := do
  let read ← CliArguments.read generalOptions false arguments
  match read.positional with
  | "parse" :: rest => parse? rest
  | "classify" :: rest => classify? rest
  | "scan" :: rest => scan? rest
  | _ => none

end Command

end DeclaredApi
