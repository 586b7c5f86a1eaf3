import DeclaredApi.Config
import DeclaredApi.Json.Value
import DeclaredApi.Memo
import DeclaredApi.Signature.Grammar
import DeclaredApi.TypeRef.Compact

/-
  Interning of type references.

  An interner keeps the first reference stored under a text:
  the canonical text of a reference, or a text that was
  parsed.  A text that was parsed before is not read again.

  Key definitions include:
    * `Interner`
    * `Interner.intern`
    * `Interner.parse`
    * `Interner.parseValue`
-/

------------------------------------------------------------
-- Interning
------------------------------------------------------------

namespace DeclaredApi

/- References by canonical text and by parsed text. -/
abbrev Interner := Memo String TypeRef

namespace Interner

/-
  The reference stored under the canonical text of the given
  one, which is stored if there is none.
-/
def intern
    (config : Config)
    (reference : TypeRef) :
    StateM Interner TypeRef :=
  fun interner =>
    if config.interns then
      Memo.putIfAbsent (reference.compact config.rootObject)
        reference interner
    else
      (reference, interner)

end Interner

end DeclaredApi

------------------------------------------------------------
-- Parsing
------------------------------------------------------------

namespace DeclaredApi

namespace Interner

/- Read a text by the grammar, whatever is stored. -/
def readText
    (config : Config)
    (text : String) : Except ParseError TypeRef :=
  match Signature.read config.rootObject config.depthLimit
      text with
  | .ok reference => .ok reference
  | .error fault => .error { fault with source := text }

/- Read a text by the grammar and intern the reference. -/
def readInterned
    (config : Config)
    (text : String) :
    ExceptT ParseError (StateM Interner) TypeRef :=
  fun interner =>
    match readText config text with
    | .error e => (.error e, interner)
    | .ok reference =>
        let (stored, interner) :=
          intern config reference interner
        (.ok stored, interner)

/- The reference that a text spells. -/
def parse
    (config : Config)
    (text : String) :
    ExceptT ParseError (StateM Interner) TypeRef :=
  if config.interns then
    Memo.getOrCompute text (readInterned config text)
  else
    fun interner => (readText config text, interner)

/- As `parse`, for a value that may be no text at all. -/
def parseValue
    (config : Config)
    (value : Json) :
    ExceptT ParseError (StateM Interner) TypeRef :=
  match value with
  | .str text => parse config text
  | value =>
      fun interner =>
        (.error
          { position := 0
            reason := .notText value.kind
            source := value.shown }, interner)

end Interner

end DeclaredApi
