import DeclaredApi.Sorting
import DeclaredApi.Source.Classes
import DeclaredApi.Source.Scan

/-
  Sets of source files.

  The sources at a path are one file, or the source files
  below a directory in the order of their path components.
  An entry that has a source's name but no content, such as
  a directory, is listed and then skipped.

  Key definitions include:
    * `SourceEntry`
    * `SourceEntry.components`
    * `SourceEntry.place?`
    * `SourceEntry.select`
    * `SourceEntry.selectAt`
    * `SourceEntry.scanAll`
    * `SourceEntry.buildAll`
-/

------------------------------------------------------------
-- Entries
------------------------------------------------------------

namespace DeclaredApi

/- The bytes of a file with their syntax tree. -/
structure SourceContent where
  source : SourceText
  tree : SyntaxTree

/- A path with what is found there, if it can be read. -/
structure SourceEntry where
  path : List String
  content : Option SourceContent

namespace SourceEntry

/- The text of a path. -/
def pathText (entry : SourceEntry) : String :=
  "/".intercalate entry.path

/- The components of a path; `.` and empty ones mean nothing. -/
def components (path : String) : List String :=
  (path.splitOn "/").filter (fun c => c != "" && c != ".")

/- A path leads nowhere but out of directories. -/
def isOuter (path : List String) : Bool :=
  path.all (fun component => component = "..")

/- Follow one component; `..` leads out of a directory. -/
def follow
    (path : List String)
    (component : String) : List String :=
  if component != ".." || isOuter path then
    path ++ [component]
  else
    path.dropLast

/- A path starts at a root that is in no set of files. -/
def isAbsolute (path : String) : Bool :=
  path.startsWith "/"

/-
  The place that a path names from the outermost directory,
  whatever is found there.  The directories around that one
  hold what it holds, and nothing else.
-/
def place? (path : String) : Option (List String) :=
  let place := (components path).foldl follow []
  if isAbsolute path then
    none
  else if isOuter place then
    some []
  else if place.head? = some ".." then
    none
  else
    some place

/- A name of source files. -/
def isSourceName (name : String) : Bool :=
  ".java".toList.isSuffixOf name.toList

/- The last component of a path names a source file. -/
def isSource (entry : SourceEntry) : Bool :=
  match entry.path.getLast? with
  | none => false
  | some name => isSourceName name

/- An entry lies below a directory. -/
def isBelow
    (directory : List String)
    (entry : SourceEntry) : Bool :=
  directory.isPrefixOf entry.path &&
    directory.length < entry.path.length

end SourceEntry

end DeclaredApi

------------------------------------------------------------
-- Selection
------------------------------------------------------------

namespace DeclaredApi

namespace SourceEntry

/- The paths of the directories around a path. -/
def parents (path : List String) : List (List String) :=
  (List.range path.length).tail.map (fun n => path.take n)

/- The directories around the files of a set, each once. -/
def directories (files : List SourceEntry) : List SourceEntry :=
  ((files.flatMap (fun e => parents e.path)).eraseDups).map
    (fun path => ⟨path, none⟩)

/- The sources at a path among the files of a set. -/
def select
    (wanted : List String)
    (files : List SourceEntry) : List SourceEntry :=
  match files.find? (fun e => e.path = wanted) with
  | some file => [file]
  | none =>
      Sorting.sort
        (fun a b => Sorting.listLess a.path b.path)
        ((files ++ directories files).filter
          (fun e => e.isBelow wanted && e.isSource))

/- A path leads to a file of a set. -/
def isFile
    (wanted : List String)
    (files : List SourceEntry) : Bool :=
  files.any (fun e => e.path = wanted)

/- A path leads to a directory around the files of a set. -/
def isDirectory
    (wanted : List String)
    (files : List SourceEntry) : Bool :=
  isOuter wanted || files.any (fun e => e.isBelow wanted)

/- The directories that lead to a place all exist. -/
def isReached
    (files : List SourceEntry)
    (path : List String) : List String → Bool
| [] => true
| component :: rest =>
    isDirectory path files &&
      isReached files (follow path component) rest

/-
  The sources at a path that is not resolved: they are known
  by that path, and each directory on it has to exist.
-/
def selectAt
    (path : String)
    (files : List SourceEntry) : List SourceEntry :=
  let named := components path
  match place? path with
  | none => []
  | some place =>
      if isReached files [] named then
        (select place files).map (fun entry =>
          { entry with
            path := named ++ entry.path.drop place.length })
      else
        []

end SourceEntry

end DeclaredApi

------------------------------------------------------------
-- Scanning and Building
------------------------------------------------------------

namespace DeclaredApi

namespace SourceEntry

/- The types that an entry declares. -/
def scan (entry : SourceEntry) : Scan :=
  match entry.content with
  | none => .stopped
  | some c => .ofFile c.source c.tree

/- The symbol table of all the types that entries declare. -/
def scanAll (entries : List SourceEntry) : SymbolTable :=
  .ofList (entries.flatMap (fun e => e.scan.types))

/- The entries whose scan stopped before the end. -/
def unscanned (entries : List SourceEntry) : List SourceEntry :=
  entries.filter (fun e => !e.scan.complete)

/- The classes that an entry declares. -/
def build
    (table : SymbolTable)
    (entry : SourceEntry) :
    Except SourceError (List ClassDecl) :=
  match entry.content with
  | none => .error .unreadable
  | some c => SourceFile.build c.source table c.tree

/- The classes of the entries that can be built. -/
def buildAll
    (table : SymbolTable)
    (entries : List SourceEntry) : List ClassDecl :=
  entries.flatMap (fun e =>
    match e.build table with
    | .ok classes => classes
    | .error _ => [])

/- The entries that cannot be built. -/
def unbuilt
    (table : SymbolTable)
    (entries : List SourceEntry) : List SourceEntry :=
  entries.filter (fun e => !(e.build table).isOk)

end SourceEntry

end DeclaredApi
