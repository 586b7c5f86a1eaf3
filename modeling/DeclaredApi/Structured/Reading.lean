import DeclaredApi.Signature.Interner
import DeclaredApi.Structured.Projection
import DeclaredApi.TypeRef.Draft

/-
  Reading of structured forms.

  A text is parsed as a signature, and so is the base of an
  object that has no other key.  Any other object describes a
  wildcard or a named type by its keys; the first key whose
  value has the wrong shape is reported with its path.  What
  the keys describe is validated before it is interned.

  Key definitions include:
    * `StructuredError`
    * `StructuredError.message`
    * `Structured.Failure`
    * `Structured.wildcardOf`
    * `Structured.namedOf`
    * `Structured.readNode`
    * `Structured.readListAt`
    * `Structured.readItems`
-/

------------------------------------------------------------
-- Errors
------------------------------------------------------------

namespace DeclaredApi

/- Why a structured form is refused. -/
inductive StructuredError where
| signature (error : ParseError)
| wrongValue
    (path expected : String)
    (actual : Json)
    (cause : Option ParseError)
| missingKey (path key : String)

namespace StructuredError

/- The report of a refused structured form. -/
def message : StructuredError → String
| .signature error => error.message
| .wrongValue path expected actual _ =>
    "The value of " ++ path ++ " is invalid: expected " ++
      expected ++ ", got " ++ actual.kind ++ " " ++ actual.shown
| .missingKey path key =>
    "The key is missing: " ++ path ++ "[\"" ++ key ++ "\"]"

end StructuredError

/-
  How reading a structured form fails: the form is refused,
  or validation refuses a reference that was read from it.
-/
inductive Structured.Failure where
| refused (error : StructuredError)
| invalid (error : TypeRef.BuildError)

end DeclaredApi

------------------------------------------------------------
-- Paths and Checks
------------------------------------------------------------

namespace DeclaredApi

namespace Structured

/- Reading uses the interner and may fail. -/
abbrev Reader :=
  ExceptT Failure (StateM Interner)

/- The path of a key. -/
def keyPath
    (path key : String) : String :=
  path ++ "." ++ key

/- The path of an item of the list under a key. -/
def itemPath
    (path : String)
    (index : Nat) : String :=
  path ++ "[" ++ toString index ++ "]"

/- Refuse the value under a key. -/
def refuse
    {α : Type}
    (path key expected : String)
    (actual : Json) : Reader α :=
  throw (.refused
    (.wrongValue (keyPath path key) expected actual none))

/- Parse a text that stands for a whole reference. -/
def readSignature
    (config : Config)
    (text : String) : Reader TypeRef :=
  fun interner =>
    match Interner.parse config text interner with
    | (.ok reference, interner) => (.ok reference, interner)
    | (.error e, interner) =>
        (.error (.refused (.signature e)), interner)

/- Parse the base of an object that has no other key. -/
def readLoneBase
    (config : Config)
    (path text : String) : Reader TypeRef :=
  fun interner =>
    match Interner.parse config text interner with
    | (.ok reference, interner) => (.ok reference, interner)
    | (.error e, interner) =>
        (.error (.refused (.wrongValue (keyPath path baseKey)
          "type signature" (.str text) (some e))), interner)

/- Intern a reference that was read, if it is valid. -/
def internRead
    (config : Config)
    (built : Except TypeRef.BuildError TypeRef) :
    Reader TypeRef :=
  match built with
  | .error e => throw (.invalid e)
  | .ok reference =>
      fun interner =>
        let (stored, interner) :=
          Interner.intern config reference interner
        (.ok stored, interner)

/- A key that only the other kind of reference may have. -/
def refuseKey
    (path key expected : String)
    (fields : List (String × Json)) : Reader Unit :=
  match fields.lookup key with
  | none => pure ()
  | some value => refuse path key expected value

/- The direction of the bounds of a wildcard. -/
def readRelation
    (path : String)
    (fields : List (String × Json)) : Reader BoundRelation :=
  match fields.lookup relationKey with
  | none => pure .upper
  | some (.str word) =>
      match BoundRelation.ofWord? word with
      | some relation => pure relation
      | none =>
          refuse path relationKey "'extends' | 'super'"
            (.str word)
  | some value => refuse path relationKey "str" value

/- The value under a key, where null counts as absent. -/
def present?
    (key : String)
    (fields : List (String × Json)) : Option Json :=
  match fields.lookup key with
  | none => none
  | some .null => none
  | some value => some value

/- The base of a named type, read without its spaces. -/
def readBase
    (path base : String) : Reader String :=
  let compact := Text.withoutSpaces base
  if Name.isBase compact then
    pure compact
  else
    refuse path baseKey "dotted type name" (.str compact)

end Structured

end DeclaredApi

------------------------------------------------------------
-- Objects
------------------------------------------------------------

namespace DeclaredApi

namespace Structured

/- The mark of a generic type is a flag, if there is one. -/
def checkGeneric
    (path : String)
    (fields : List (String × Json)) : Reader Unit :=
  match fields.lookup genericKey with
  | none => pure ()
  | some (.bool _) => pure ()
  | some value => refuse path genericKey "bool" value

/- The wildcard of an object; `bounds` reads its bounds. -/
def wildcardOf
    (config : Config)
    (path : String)
    (fields : List (String × Json))
    (bounds : Reader (List TypeRef)) : Reader TypeRef := do
  refuseKey path parametersKey "absent for wildcards" fields
  let relation ← readRelation path fields
  match present? boundsKey fields with
  | none =>
      if relation = .lower then
        throw (.refused (.missingKey path boundsKey))
      else
        internRead config (do
          let root ← TypeRef.ofBase config.rootObject []
          TypeRef.ofBounds relation [root])
  | some (.list (_ :: _)) => do
      let bounds ← bounds
      internRead config (TypeRef.ofBounds relation bounds)
  | some value => refuse path boundsKey "non-empty list" value

/- Keys that only wildcards may have. -/
def refuseWildcardKeys
    (path : String)
    (fields : List (String × Json)) : Reader Unit := do
  let absent := "absent for non-wildcard types"
  refuseKey path genericKey absent fields
  refuseKey path relationKey absent fields
  refuseKey path boundsKey absent fields

/-
  The named type of an object; `arguments` reads its type
  arguments.
-/
def namedOf
    (config : Config)
    (path base : String)
    (fields : List (String × Json))
    (arguments : Reader (List TypeRef)) : Reader TypeRef := do
  let base ← readBase path base
  refuseWildcardKeys path fields
  match present? parametersKey fields with
  | none => internRead config (TypeRef.ofBase base [])
  | some (.list items) =>
      if !items.isEmpty && Name.isPrimitiveFamily base then
        refuse path parametersKey "absent for primitive types"
          (.list items)
      else do
        let arguments ← arguments
        internRead config (TypeRef.ofBase base arguments)
  | some value => refuse path parametersKey "list" value

end Structured

end DeclaredApi

------------------------------------------------------------
-- Nodes
------------------------------------------------------------

namespace DeclaredApi

namespace Structured

mutual

/- The reference that a structured form describes. -/
def readNode
    (config : Config)
    (path : String) : Json → Reader TypeRef
| .str text => readSignature config text
| .object fields =>
    match fields.lookup baseKey with
    | none => throw (.refused (.missingKey path baseKey))
    | some (.str base) => do
        checkGeneric path fields
        if fields.all (fun field => field.1 = baseKey) then
          readLoneBase config path base
        else if Text.trimBlanks base = "?" then
          wildcardOf config path fields
            (readListAt config path boundsKey true fields)
        else
          namedOf config path base fields
            (readListAt config path parametersKey false fields)
    | some value => refuse path baseKey "str" value
| value =>
    throw (.refused (.wrongValue path "str | dict" value none))

/-
  The references of the list under a key; `plain` ones must
  not be wildcards.
-/
def readListAt
    (config : Config)
    (path key : String)
    (plain : Bool) :
    List (String × Json) → Reader (List TypeRef)
| [] => pure []
| (k, .list items) :: rest =>
    if k = key then
      readItems config (keyPath path key) plain 0 items
    else
      readListAt config path key plain rest
| _ :: rest => readListAt config path key plain rest

/- The references of the items from an index on. -/
def readItems
    (config : Config)
    (path : String)
    (plain : Bool)
    (index : Nat) : List Json → Reader (List TypeRef)
| [] => pure []
| item :: rest => do
    let here := itemPath path index
    let reference ← readNode config here item
    if plain && reference.isWildcard then
      throw (.refused
        (.wrongValue here "non-wildcard type" item none))
    let references ←
      readItems config path plain (index + 1) rest
    pure (reference :: references)

end

end Structured

end DeclaredApi
