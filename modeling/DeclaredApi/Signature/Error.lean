import DeclaredApi.Signature.Token
import DeclaredApi.Text.Quoted

/-
  Errors of textual type signatures.

  A signature is refused at one position for one reason;
  `ParseError.message` puts both before the quoted text.

  Key definitions include:
    * `ParseReason`
    * `ParseReason.text`
    * `ParseFault`
    * `ParseError`
    * `ParseError.message`
-/

------------------------------------------------------------
-- Reasons
------------------------------------------------------------

namespace DeclaredApi

/- Why a signature is refused. -/
inductive ParseReason where
| notText (kind : String)
| strayCharacter (c : Char)
| emptySignature
| expectedTypeName
| emptySegment
| unknownKeyword (word : String)
| wildcardArray
| wildcardBound
| expectedBound
| primitiveArguments (name : String)
| emptyArguments
| tooDeep (limit : Nat)
| unclosedArguments
| unclosedBracket
| unexpected (lexeme : Lexeme)
deriving DecidableEq, Repr

namespace ParseReason

/- The wording of a reason. -/
def text : ParseReason → String
| .notText kind => "expected a string, got " ++ kind
| .strayCharacter c =>
    "unexpected character " ++ Text.quote c.toString
| .emptySignature => "empty type signature"
| .expectedTypeName => "expected a type name"
| .emptySegment => "empty identifier segment"
| .unknownKeyword word =>
    "unknown bounds keyword " ++ Text.quote word
| .wildcardArray => "a wildcard cannot be an array"
| .wildcardBound => "a wildcard cannot be a bound"
| .expectedBound => "expected a bound type"
| .primitiveArguments name =>
    "primitive type '" ++ name ++
      "' cannot have type arguments"
| .emptyArguments => "empty type argument list"
| .tooDeep limit =>
    "type arguments nested deeper than " ++ toString limit
| .unclosedArguments => "unbalanced '<'"
| .unclosedBracket => "unbalanced '['"
| .unexpected (.symbol .greater) => "unbalanced '>'"
| .unexpected (.symbol .closeBracket) => "unbalanced ']'"
| .unexpected lexeme =>
    "unexpected " ++ Text.quote lexeme.text

end ParseReason

end DeclaredApi

------------------------------------------------------------
-- Errors
------------------------------------------------------------

namespace DeclaredApi

/- A reason and the offset at which reading stopped. -/
structure ParseFault where
  position : Nat
  reason : ParseReason
deriving DecidableEq, Repr

/- A fault together with the text that was read. -/
structure ParseError extends ParseFault where
  source : String
deriving DecidableEq, Repr

namespace ParseError

/- The report of a refused signature. -/
def message (e : ParseError) : String :=
  "Invalid type signature at position " ++
    toString e.position ++ ": " ++ e.reason.text ++ ": " ++
    Text.quote e.source

end ParseError

end DeclaredApi
