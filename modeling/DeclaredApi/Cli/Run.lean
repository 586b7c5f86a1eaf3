import DeclaredApi.Analysis
import DeclaredApi.Cli.Command
import DeclaredApi.Cli.Outcome
import DeclaredApi.Json.Printer

/-
  Running commands.

  A command is run in a session, on a set of files around
  which the current directory is the outermost.

  Key definitions include:
    * `Command.classification`
    * `Command.classTable`
    * `Command.parse`
    * `Command.classify`
    * `Command.scan`
    * `Command.run`
    * `Command.runArguments`
-/

------------------------------------------------------------
-- Parsing a Signature
------------------------------------------------------------

namespace DeclaredApi

namespace Command

/- What is printed for a signature that was parsed. -/
def parsed
    (canonical : String)
    (structured : Json)
    (asJson : Bool) : Except Markup.Fault String :=
  if asJson then
    .ok (Json.pretty
      (.object
        [("canonical", .str canonical),
          ("structured", structured)]) ++ "\n")
  else do
    let line ←
      Console.line "Canonical: " (Markup.escape canonical)
    pure (line ++ "Structured:\n" ++ structured.pretty ++ "\n")

/- Parse a signature and show its two forms. -/
def runParse
    (signature : String)
    (asJson : Bool) : StateM Session Outcome := do
  match ← (Session.parse signature).run with
  | .error e => pure (.refused e.message)
  | .ok reference => do
      let structured ← Session.project none reference
      let root := (← get).root
      pure (.printed
        (parsed (reference.compact root) structured asJson))

end Command

end DeclaredApi

------------------------------------------------------------
-- Classifying Names
------------------------------------------------------------

namespace DeclaredApi

namespace Command

/- How a bare name is classified. -/
def classification (name : String) :
    StateM Session String := do
  if Name.isPrimitive name then
    pure "primitive"
  else if ← Session.isConcrete name then
    pure "concrete"
  else
    pure "type variable"

/- How some names are classified, one after the other. -/
def classifications :
    List String → StateM Session (List String)
| [] => pure []
| name :: rest => do
    let kind ← classification name
    let kinds ← classifications rest
    pure (kind :: kinds)

/- Show how names are classified. -/
def runClassify
    (names : List String) : StateM Session Outcome := do
  let kinds ← classifications names
  let table : Table String :=
    { columns :=
        [⟨"Name", names.map Markup.escape⟩,
          ⟨"Classification", kinds⟩] }
  pure (.printed (Console.table table))

end Command

end DeclaredApi

------------------------------------------------------------
-- Scanning Sources
------------------------------------------------------------

namespace DeclaredApi

namespace Command

/- A class goes by its qualified and by its local name. -/
def isNamed
    (name : String)
    (c : ClassSignature) : Bool :=
  name = c.name || name = c.localName

/- The names of the type parameters of a class. -/
def parameterNames (c : ClassSignature) : String :=
  ", ".intercalate (c.typeParameters.map TypeParameterRef.name)

/- The summary of some classes. -/
def classTable
    (signatures : List ClassSignature) : Table String where
  columns :=
    [⟨"Class", signatures.map ClassSignature.name⟩,
      ⟨"Kind", signatures.map (fun c => c.kind.label.toLower)⟩,
      ⟨"Type Parameters", signatures.map parameterNames⟩,
      ⟨"Fields",
        signatures.map (fun c => toString c.fields.length)⟩,
      ⟨"Constructors",
        signatures.map (fun c =>
          toString c.constructors.length)⟩,
      ⟨"Methods",
        signatures.map (fun c => toString c.methods.length)⟩]

/- What is printed once a document has been written. -/
def exported
    (file : Export)
    (path : String)
    (signatures : List ClassSignature) : Outcome :=
  match Console.line "✓ Exported to: " (Target.shown path) with
  | .error fault => .exported file "" (some (.unshown fault))
  | .ok line =>
      match Console.table (classTable signatures) with
      | .error fault =>
          .exported file line (some (.unshown fault))
      | .ok table => .exported file (line ++ table) none

/- Print a document, or write it and print a summary. -/
def deliver
    (files : List SourceEntry)
    (target : Option String)
    (signatures : List ClassSignature)
    (document : String) : Outcome :=
  match target with
  | none => .answered (document ++ "\n")
  | some path =>
      match Target.locate files path with
      | .error problem => .interrupted (.unwritable problem)
      | .ok place =>
          exported
            { place := place, document := document ++ "\n" }
            path signatures

/-
  A type variable that is not declared is reported; any other
  type that cannot be resolved interrupts the command.
-/
def refusal : DescribeError → Outcome
| .unresolved e => .interrupted (.unresolved e)
| e => .refused e.message

/- The document of the classes asked for. -/
def documentOf
    (signatures : List ClassSignature) :
    StateM Session (Except Json.SerializeError String) := do
  let document ←
    Session.document ApiDocument.defaultVersion signatures
  pure document.serialize

/- Capture the declared types of the sources at a place. -/
def runScan
    (files : List SourceEntry)
    (place : List String)
    (request : ScanRequest) : StateM Session Outcome := do
  let entries := SourceEntry.select place files
  match ← (Session.analyze request.erases true entries).run with
  | .error e => pure (refusal e)
  | .ok signatures => do
      let wanted :=
        match request.className with
        | none => signatures
        | some name => signatures.filter (isNamed name)
      match request.className, wanted with
      | some name, [] =>
          pure (.refused ("Class not found: " ++ name))
      | _, _ => do
          match ← documentOf wanted with
          | .error e => pure (.refused e.message)
          | .ok document =>
              pure (deliver files request.target wanted document)

end Command

end DeclaredApi

------------------------------------------------------------
-- Running
------------------------------------------------------------

namespace DeclaredApi

namespace Command

/- A place is that of a file or directory. -/
def isThere
    (files : List SourceEntry)
    (place : List String) : Bool :=
  SourceEntry.isFile place files ||
    SourceEntry.isDirectory place files

/- A text holds the character that ends paths. -/
def holdsPathEnd (s : String) : Bool :=
  s.toList.contains '\x00'

/- No path of a request holds the character that ends paths. -/
def hasValidPaths (request : ScanRequest) : Bool :=
  !holdsPathEnd request.path &&
    !request.target.any holdsPathEnd

/- Run a command on a set of files. -/
def run
    (files : List SourceEntry) :
    Command → StateM Session Outcome
| .parse signature asJson => runParse signature asJson
| .classify names => runClassify names
| .scan request =>
    match SourceEntry.place? request.path with
    | none => pure .misused
    | some place =>
        if hasValidPaths request && isThere files place then
          runScan files place request
        else
          pure .misused

/- Run what the arguments of a program ask for. -/
def runArguments
    (files : List SourceEntry)
    (arguments : List String) : StateM Session Outcome :=
  match ofArguments? arguments with
  | none => pure .misused
  | some command => run files command

end Command

end DeclaredApi
