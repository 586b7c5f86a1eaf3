import DeclaredApi.Source.Outline

/-
  Qualified names of the types that a file mentions.

  A simple name is looked up in the symbol table with the
  context of the file, then among the explicit imports, then
  among the types that every file imports; a name that is
  found nowhere belongs to the package of the file.

  Key definitions include:
    * `SourceFile`
    * `SourceFile.wellKnown`
    * `SourceFile.lookup`
    * `SourceFile.qualify`
-/

------------------------------------------------------------
-- Source Files
------------------------------------------------------------

namespace DeclaredApi

/- A source file with what its names are looked up in. -/
structure SourceFile where
  source : SourceText
  table : SymbolTable
  context : FileContext

namespace SourceFile

/- The text of a node. -/
def read
    (f : SourceFile)
    (t : SyntaxTree) : Except SourceError String :=
  f.source.read t

/- The text of the node that fills a field of some nodes. -/
def readAt
    (f : SourceFile)
    (field : String)
    (nodes : List SyntaxTree) : Except SourceError String :=
  f.source.readOptional (SyntaxTree.atField? field nodes)

/- The array dimensions in the field of some nodes. -/
def dimensionsAt
    (f : SourceFile)
    (nodes : List SyntaxTree) : Except SourceError Nat :=
  f.source.countDimensions
    (SyntaxTree.atField? "dimensions" nodes)

end SourceFile

end DeclaredApi

------------------------------------------------------------
-- Qualification
------------------------------------------------------------

namespace DeclaredApi

namespace SourceFile

/- The package whose types every file imports. -/
def wellKnownPackage : String :=
  "java.lang"

/- The types that every file imports. -/
def wellKnown : List String :=
  ["Appendable", "AutoCloseable", "Boolean", "Byte",
    "CharSequence", "Character", "Class", "ClassLoader",
    "Cloneable", "Comparable", "Deprecated", "Double", "Enum",
    "Error", "Exception", "Float", "FunctionalInterface",
    "Integer", "Iterable", "Long", "Math", "Number", "Object",
    "Override", "Process", "Record", "Runnable",
    "RuntimeException", "SafeVarargs", "Short", "String",
    "StringBuilder", "SuppressWarnings", "System", "Thread",
    "ThreadLocal", "Throwable", "Void"]

/- The qualified name of a simple name, if it is known. -/
def lookup
    (f : SourceFile)
    (name : String) : Option String :=
  match f.table.resolve name f.context with
  | some qualified => some qualified
  | none =>
      match f.context.imports.find?
          (FileContext.importsName name) with
      | some qualified => some qualified
      | none =>
          if wellKnown.contains name then
            some (wellKnownPackage ++ "." ++ name)
          else
            none

/- The qualified name of a simple name. -/
def qualify
    (f : SourceFile)
    (name : String) : String :=
  match f.lookup name with
  | some qualified => qualified
  | none => Name.inside f.context.package name

/-
  The qualified name of a name that is written with dots:
  its first word is qualified if it is known.
-/
def qualifySegments
    (f : SourceFile) :
    List String → Except SourceError String
| [] => .error .unreadable
| head :: rest =>
    let first := (f.lookup head).getD head
    .ok (".".intercalate (first :: rest))

end SourceFile

end DeclaredApi
