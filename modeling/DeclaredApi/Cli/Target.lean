import DeclaredApi.Source.Files

/-
  The file that a document is written to.

  Every directory on the way to the file has to exist, and
  the file itself must be no directory; a file that exists
  is overwritten.  Neither the path nor a component of it may
  be too long.  Outside of the set of files only what every
  system has is known.

  Key definitions include:
    * `Target.Problem`
    * `Target.Place`
    * `Target.named`
    * `Target.shown`
    * `Target.Tree`
    * `Target.locate`
-/

------------------------------------------------------------
-- Places
------------------------------------------------------------

namespace DeclaredApi

namespace Target

/- Why a file cannot be written. -/
inductive Problem where
| isDirectory
| missingParent
| parentIsFile
| nameTooLong
deriving DecidableEq, Repr

/-
  A place from a root, or from the current directory if the
  root is empty.
-/
structure Place where
  root : String
  path : List String
deriving DecidableEq, Repr

namespace Place

/- A place does not depend on the current directory. -/
def isAbsolute (place : Place) : Bool :=
  !place.root.isEmpty

/- The text of a place. -/
def text (place : Place) : String :=
  let whole := place.root ++ "/".intercalate place.path
  if whole.isEmpty then
    "."
  else
    whole

end Place

/- The slashes of a root; just two of them stay two. -/
def root (path : String) : String :=
  if SourceEntry.isAbsolute path then
    if path.startsWith "//" && !path.startsWith "///" then
      "//"
    else
      "/"
  else
    ""

/- The place that a path names, with all of its components. -/
def named (path : String) : Place where
  root := root path
  path := SourceEntry.components path

/- The text of a path without its idle components. -/
def shown (path : String) : String :=
  (named path).text

end Target

end DeclaredApi

------------------------------------------------------------
-- Trees
------------------------------------------------------------

namespace DeclaredApi

namespace Target

/- The directories and files that are known. -/
structure Tree where
  isDirectory : List String → Bool
  isFile : List String → Bool

/- The tree of a set of files. -/
def Tree.ofFiles (files : List SourceEntry) : Tree where
  isDirectory := fun path => SourceEntry.isDirectory path files
  isFile := fun path => SourceEntry.isFile path files

/- The directories at the root of every system. -/
def systemDirectories : List String :=
  ["bin", "boot", "dev", "etc", "home", "lib", "media", "mnt",
    "opt", "proc", "root", "run", "sbin", "srv", "sys", "tmp",
    "usr", "var"]

/- The tree of a system, with the file that takes anything. -/
def Tree.ofSystem : Tree where
  isDirectory := fun path =>
    SourceEntry.isOuter path ||
      systemDirectories.any (fun name => path = [name])
  isFile := fun path => path = ["dev", "null"]

end Target

end DeclaredApi

------------------------------------------------------------
-- Locating the File
------------------------------------------------------------

namespace DeclaredApi

namespace Target

/- The most bytes that a component may have. -/
def nameLimit : Nat :=
  255

/- The most bytes that a path may have. -/
def pathLimit : Nat :=
  4095

/- Walk from a directory along components to a file. -/
def locateFrom
    (tree : Tree) :
    List String → List String →
    Except Problem (List String)
| directory, [] =>
    if tree.isDirectory directory then
      .error .isDirectory
    else
      .ok directory
| directory, component :: rest =>
    let next := SourceEntry.follow directory component
    if nameLimit < component.utf8ByteSize then
      .error .nameTooLong
    else if rest.isEmpty || tree.isDirectory next then
      locateFrom tree next rest
    else if tree.isFile next then
      .error .parentIsFile
    else
      .error .missingParent

/- The steps to a place; nothing leads out of a root. -/
def steps (place : Place) : List String :=
  if place.isAbsolute then
    place.path.dropWhile (fun component => component = "..")
  else
    place.path

/- The place of a file that can be written. -/
def locate
    (files : List SourceEntry)
    (path : String) : Except Problem Place :=
  let place := named path
  let tree :=
    if place.isAbsolute then .ofSystem else Tree.ofFiles files
  if pathLimit < place.text.utf8ByteSize then
    .error .nameTooLong
  else do
    let found ← locateFrom tree [] (steps place)
    pure { place with path := found }

end Target

end DeclaredApi
