import DeclaredApi.Signature.Error
import DeclaredApi.TypeRef.Basic

/-
  The grammar of textual type signatures.

      Type      := "?" [("extends" | "super") Bounds]
                 | Named
      Bounds    := Named ("&" Named)*
      Named     := Word ("." Word)* ["<" Arguments ">"]
                   ("[" "]")*
      Arguments := Type ("," Type)*

  Each rule reads a reference off the front of a token list
  and returns the tokens that are left.  The rules take the
  reader of type arguments as a parameter, so that the depth
  limit is the number of times `Grammar.readType` is nested.

  Key definitions include:
    * `Grammar`
    * `Grammar.Reader`
    * `Grammar.readSegments`
    * `Grammar.readDimensions`
    * `Grammar.readSeparated`
    * `Grammar.readArguments`
    * `Grammar.readNamed`
    * `Grammar.readBound`
    * `Grammar.readWildcard`
    * `Grammar.readType`
    * `Grammar.typeReader`
    * `Signature.read`
-/

------------------------------------------------------------
-- Readers
------------------------------------------------------------

namespace DeclaredApi

/-
  What the rules depend on: the root object type, the depth
  limit that errors name, and the offset of the end.
-/
structure Grammar where
  root : String
  limit : Nat
  stop : Nat

namespace Grammar

/- Reads a value off the front of a token list. -/
abbrev Reader (α : Type) :=
  List Token → Except ParseFault (α × List Token)

/- The offset of the next token, or of the end. -/
def position (g : Grammar) : List Token → Nat
| [] => g.stop
| token :: _ => token.position

/- Refuse the next token, or the end. -/
def refuse
    {α : Type}
    (g : Grammar)
    (reason : ParseReason)
    (tokens : List Token) :
    Except ParseFault α :=
  .error ⟨g.position tokens, reason⟩

end Grammar

end DeclaredApi

------------------------------------------------------------
-- Names and Dimensions
------------------------------------------------------------

namespace DeclaredApi

namespace Grammar

/- The words that follow dots. -/
def readSegments (g : Grammar) : Reader (List String)
| ⟨.symbol .dot, _⟩ :: ⟨.word w, _⟩ :: rest => do
    let (words, rest) ← g.readSegments rest
    pure (w :: words, rest)
| ⟨.symbol .dot, _⟩ :: rest => g.refuse .emptySegment rest
| rest => pure ([], rest)

/- The number of bracket pairs. -/
def readDimensions (g : Grammar) : Reader Nat
| ⟨.symbol .openBracket, _⟩ ::
    ⟨.symbol .closeBracket, _⟩ :: rest => do
    let (count, rest) ← g.readDimensions rest
    pure (count + 1, rest)
| ⟨.symbol .openBracket, _⟩ :: rest =>
    g.refuse .unclosedBracket rest
| rest => pure (0, rest)

end Grammar

end DeclaredApi

------------------------------------------------------------
-- Lists of Types
------------------------------------------------------------

namespace DeclaredApi

namespace Grammar

/-
  One or more references with a symbol between them.  Each
  item takes a token, so the number of tokens is fuel enough.
-/
def readSeparated
    (mark : Symbol)
    (item : Reader TypeRef) :
    Nat → Reader (List TypeRef)
| 0, tokens => do
    let (first, rest) ← item tokens
    pure ([first], rest)
| fuel + 1, tokens => do
    let (first, rest) ← item tokens
    match rest with
    | ⟨.symbol s, p⟩ :: others =>
        if s = mark then
          let (more, rest) ←
            readSeparated mark item fuel others
          pure (first :: more, rest)
        else
          pure ([first], ⟨.symbol s, p⟩ :: others)
    | rest => pure ([first], rest)

/-
  The type arguments of a name, if it has any.  `inner` reads
  one argument and is absent where the limit is reached.
-/
def readArguments
    (g : Grammar)
    (inner : Option (Reader TypeRef))
    (name : String) :
    Reader (List TypeRef)
| ⟨.symbol .less, p⟩ :: rest =>
    if Name.isPrimitive name then
      .error ⟨p, .primitiveArguments name⟩
    else
      match rest, inner with
      | ⟨.symbol .greater, q⟩ :: _, _ =>
          .error ⟨q, .emptyArguments⟩
      | _, none => .error ⟨p, .tooDeep g.limit⟩
      | _, some item => do
          let (arguments, rest) ←
            readSeparated .comma item rest.length rest
          match rest with
          | [] => g.refuse .unclosedArguments []
          | ⟨.symbol .greater, _⟩ :: rest =>
              pure (arguments, rest)
          | token :: rest =>
              g.refuse (.unexpected token.lexeme)
                (token :: rest)
| tokens => pure ([], tokens)

end Grammar

end DeclaredApi

------------------------------------------------------------
-- Types
------------------------------------------------------------

namespace DeclaredApi

namespace Grammar

/- A named type with its arguments and dimensions. -/
def readNamed
    (g : Grammar)
    (inner : Option (Reader TypeRef)) :
    Reader TypeRef
| ⟨.word w, _⟩ :: rest => do
    let (words, rest) ← g.readSegments rest
    let name := ".".intercalate (w :: words)
    let (arguments, rest) ← g.readArguments inner name rest
    let (dimensions, rest) ← g.readDimensions rest
    pure (.simple name dimensions arguments, rest)
| tokens => g.refuse .expectedTypeName tokens

/- A bound of a wildcard, which is a named type. -/
def readBound
    (g : Grammar)
    (inner : Option (Reader TypeRef)) :
    Reader TypeRef
| ⟨.symbol .question, p⟩ :: _ => .error ⟨p, .wildcardBound⟩
| ⟨.word w, p⟩ :: rest =>
    g.readNamed inner (⟨.word w, p⟩ :: rest)
| tokens => g.refuse .expectedBound tokens

/- What follows the question mark of a wildcard. -/
def readWildcard
    (g : Grammar)
    (inner : Option (Reader TypeRef))
    (tokens : List Token) :
    Except ParseFault (TypeRef × List Token) := do
  let (reference, rest) ←
    match tokens with
    | ⟨.word w, p⟩ :: rest =>
        match BoundRelation.ofWord? w with
        | none => .error ⟨p, .unknownKeyword w⟩
        | some relation => do
            let (bounds, rest) ←
              readSeparated .ampersand (g.readBound inner)
                rest.length rest
            pure (.wildcard relation bounds, rest)
    | rest => pure (.unbounded g.root, rest)
  match rest with
  | ⟨.symbol .openBracket, p⟩ :: _ =>
      .error ⟨p, .wildcardArray⟩
  | rest => pure (reference, rest)

/- A wildcard or a named type. -/
def readType
    (g : Grammar)
    (inner : Option (Reader TypeRef)) :
    Reader TypeRef
| ⟨.symbol .question, _⟩ :: rest => g.readWildcard inner rest
| tokens => g.readNamed inner tokens

/- A type whose arguments nest at most `depth` deep. -/
def typeReader
    (g : Grammar) :
    (depth : Nat) → Reader TypeRef
| 0 => g.readType none
| depth + 1 => g.readType (some (g.typeReader depth))

end Grammar

end DeclaredApi

------------------------------------------------------------
-- Whole Signatures
------------------------------------------------------------

namespace DeclaredApi

namespace Signature

/- The reference that all the tokens of a text spell. -/
def readTokens
    (g : Grammar)
    (tokens : List Token) :
    Except ParseFault TypeRef := do
  if tokens.isEmpty then
    throw ⟨0, .emptySignature⟩
  let (reference, rest) ← g.typeReader g.limit tokens
  match rest with
  | [] => pure reference
  | token :: _ =>
      throw ⟨token.position, .unexpected token.lexeme⟩

/-
  The reference that a text spells, where `?` is bounded by
  `root` and arguments nest at most `limit` deep.
-/
def read
    (root : String)
    (limit : Nat)
    (text : String) :
    Except ParseFault TypeRef :=
  match Token.scan text with
  | .error stray =>
      .error ⟨stray.position, .strayCharacter stray.char⟩
  | .ok tokens => readTokens ⟨root, limit, text.length⟩ tokens

end Signature

end DeclaredApi
