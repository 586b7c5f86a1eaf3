import DeclaredApi.Text.Blank
import DeclaredApi.Name

/-
  Tokens of textual type signatures.

  A signature is made of words and of eight symbols; blanks
  separate them.  `Token.scan` splits a text into its tokens
  and fails at the first character that starts none.

  Key definitions include:
    * `Symbol`
    * `Lexeme`
    * `Token`
    * `Token.takeWord`
    * `Token.scan`
    * `Token.ofText`
-/

------------------------------------------------------------
-- Tokens
------------------------------------------------------------

namespace DeclaredApi

/- The punctuation of type signatures. -/
inductive Symbol where
| question
| dot
| less
| greater
| comma
| ampersand
| openBracket
| closeBracket
deriving DecidableEq, Repr

namespace Symbol

/- The character that a symbol is written with. -/
def char : Symbol → Char
| .question => '?'
| .dot => '.'
| .less => '<'
| .greater => '>'
| .comma => ','
| .ampersand => '&'
| .openBracket => '['
| .closeBracket => ']'

/- The symbol that a character writes. -/
def ofChar? (c : Char) : Option Symbol :=
  [.question, .dot, .less, .greater, .comma, .ampersand,
    .openBracket, .closeBracket].find? (fun s => s.char = c)

end Symbol

/- What a token is: a word, a symbol, or the end. -/
inductive Lexeme where
| word (text : String)
| symbol (s : Symbol)
| finish
deriving DecidableEq, Repr

namespace Lexeme

/- The text that a lexeme is written with. -/
def text : Lexeme → String
| .word w => w
| .symbol s => s.char.toString
| .finish => ""

/- The name of the kind of a lexeme. -/
def kind : Lexeme → String
| .word _ => "IDENT"
| .symbol s => s.char.toString
| .finish => "EOF"

end Lexeme

/- A lexeme and the offset of its first character. -/
structure Token where
  lexeme : Lexeme
  position : Nat
deriving DecidableEq, Repr

end DeclaredApi

------------------------------------------------------------
-- Scanning
------------------------------------------------------------

namespace DeclaredApi

namespace Token

/- A character that no token starts with. -/
structure Stray where
  position : Nat
  char : Char
deriving DecidableEq, Repr

/- Put a token in front of the tokens that follow. -/
def before
    (token : Token) :
    Except Stray (List Token) → Except Stray (List Token)
| .ok tokens => .ok (token :: tokens)
| .error stray => .error stray

/-
  The tokens of a text that starts at `position`.  A word is
  taken whole at its first character; `inWord` is set while
  the characters that it took are passed over.
-/
def scanFrom
    (inWord : Bool)
    (position : Nat) :
    List Char → Except Stray (List Token)
| [] => .ok []
| c :: rest =>
    if inWord && Name.isWordPart c then
      scanFrom true (position + 1) rest
    else if Name.isWordStart c then
      before
        ⟨.word (String.ofList
          (c :: rest.takeWhile Name.isWordPart)), position⟩
        (scanFrom true (position + 1) rest)
    else if Text.isBlank c then
      scanFrom false (position + 1) rest
    else
      match Symbol.ofChar? c with
      | some s =>
          before ⟨.symbol s, position⟩
            (scanFrom false (position + 1) rest)
      | none => .error ⟨position, c⟩

/- The tokens of a text, without the end. -/
def scan (text : String) : Except Stray (List Token) :=
  scanFrom false 0 text.toList

/- The tokens of a text, closed by the end at its length. -/
def ofText (text : String) : Except Stray (List Token) :=
  match scan text with
  | .ok tokens => .ok (tokens ++ [⟨.finish, text.length⟩])
  | .error stray => .error stray

end Token

end DeclaredApi
