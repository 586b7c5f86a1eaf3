import DeclaredApi.Cli.Target
import DeclaredApi.Resolution.Erasure
import DeclaredApi.Text.Console

/-
  Outcomes of the command line.

  A command is misused, fails with a report, is cut short by
  a failure that has no report of its own, or answers on
  standard output.  Only an export also writes a file, and
  what is printed after that may still be cut short.

  Key definitions include:
    * `Interruption`
    * `Outcome`
    * `Outcome.printed`
    * `Outcome.refused`
    * `Outcome.exitCode`
    * `Outcome.output`
    * `Outcome.errorOutput`
    * `Outcome.written?`
-/

------------------------------------------------------------
-- Outcomes
------------------------------------------------------------

namespace DeclaredApi

/- A failure that ends a command without a report. -/
inductive Interruption where
| unresolved (error : ResolveError)
| unwritable (problem : Target.Problem)
| unshown (fault : Markup.Fault)

/- A document with the place that it is written to. -/
structure Export where
  place : Target.Place
  document : String

/- What a use of the command line comes to. -/
inductive Outcome where
| misused
| failed (report : String)
| interrupted (cause : Interruption)
| answered (text : String)
| exported
    (file : Export)
    (text : String)
    (cause : Option Interruption)

namespace Outcome

/- The outcome of printing. -/
def printed : Except Markup.Fault String → Outcome
| .ok text => .answered text
| .error fault => .interrupted (.unshown fault)

/- The outcome of a failure that is reported. -/
def refused (message : String) : Outcome :=
  match Console.line "Error: " (Markup.escape message) with
  | .ok report => .failed report
  | .error fault => .interrupted (.unshown fault)

end Outcome

end DeclaredApi

------------------------------------------------------------
-- Channels
------------------------------------------------------------

namespace DeclaredApi

namespace Outcome

/- The failure that cut a command short. -/
def interruption? : Outcome → Option Interruption
| .interrupted cause => some cause
| .exported _ _ cause => cause
| _ => none

/- The exit code of the program. -/
def exitCode : Outcome → Nat
| .misused => 2
| .failed _ => 1
| .interrupted _ => 1
| .answered _ => 0
| .exported _ _ none => 0
| .exported _ _ (some _) => 1

/- The text on standard output. -/
def output : Outcome → String
| .answered text => text
| .exported _ text _ => text
| _ => ""

/- The text on standard error. -/
def errorOutput : Outcome → String
| .failed report => report
| _ => ""

/- The file that is written. -/
def written? : Outcome → Option Export
| .exported file _ _ => some file
| _ => none

end Outcome

end DeclaredApi
