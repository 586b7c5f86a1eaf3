import DeclaredApi.Text.Literal.Token

/-
  The grammar of literal values.

  A literal is a number, a quoted text, a constant, a tuple,
  a set or a dictionary.  A real number may have a sign, and
  an imaginary one may be added to it.  What is an element of
  a set or a key of a dictionary must not hold sets and
  dictionaries itself.

  Key definitions include:
    * `Literal.Shape`
    * `Literal.Shape.isValue`
    * `Literal.value`
    * `Literal.isWellFormed`
-/

------------------------------------------------------------
-- Shapes
------------------------------------------------------------

namespace DeclaredApi

namespace Literal

/- What of a literal decides where it may stand. -/
inductive Shape where
| real
| imaginary
| signedReal
| fixed
| changeable
| maker
deriving DecidableEq, Repr

namespace Shape

/- Anything but the word that makes sets is a value. -/
def isValue (shape : Shape) : Bool :=
  shape != .maker

/- A value can be an element of a set. -/
def isElement (shape : Shape) : Bool :=
  shape.isValue && shape != .changeable

/- A number with a sign before it. -/
def signed? : Shape → Option Shape
| .real => some .signedReal
| .imaginary => some .fixed
| _ => none

/- A number with another one after a sign. -/
def sum? : Shape → Shape → Option Shape
| .real, .imaginary => some .fixed
| .signedReal, .imaginary => some .fixed
| _, _ => none

/- The shape of a tuple. -/
def tuple? (shapes : List Shape) : Option Shape :=
  if shapes.all isElement then
    some .fixed
  else if shapes.all isValue then
    some .changeable
  else
    none

/- The shape of a set. -/
def set? (shapes : List Shape) : Option Shape :=
  if shapes.all isElement then
    some .changeable
  else
    none

/- The shape of a dictionary with some keys and values. -/
def dictionary?
    (entries : List (Shape × Shape)) : Option Shape :=
  if entries.all (fun entry =>
      entry.1.isElement && entry.2.isValue) then
    some .changeable
  else
    none

end Shape

/- The shape of a word. -/
def wordShape? : String → Option Shape
| "True" => some .fixed
| "False" => some .fixed
| "None" => some .fixed
| "set" => some .maker
| _ => none

/- A mark is a sign. -/
def isSign (c : Char) : Bool :=
  c = '+' || c = '-'

end Literal

end DeclaredApi

------------------------------------------------------------
-- Reading Values
------------------------------------------------------------

namespace DeclaredApi

namespace Literal

/- The tokens after quoted texts that go on with one. -/
def afterQuoted?
    (isBytes : Bool) : List Token → Option (List Token)
| .quoted others :: rest =>
    if others = isBytes then
      afterQuoted? isBytes rest
    else
      none
| rest => some rest

/- The word that makes sets is used to make an empty one. -/
def made
    (shape : Shape)
    (rest : List Token) : Shape × List Token :=
  match shape, rest with
  | .maker, .mark '(' :: .mark ')' :: others =>
      (.changeable, others)
  | _, _ => (shape, rest)

mutual

/-
  A value: a term with or without a sign, and another one
  that is added to it.  The fuel bounds the depth.
-/
def value :
    Nat → List Token → Option (Shape × List Token)
| 0, _ => none
| fuel + 1, tokens => do
    let (first, rest) ←
      match tokens with
      | .mark c :: others =>
          if isSign c then do
            let (shape, rest) ← term fuel others
            let signed ← shape.signed?
            pure (signed, rest)
          else
            term fuel tokens
      | _ => term fuel tokens
    match rest with
    | .mark c :: others =>
        if isSign c then do
          let (second, rest) ← term fuel others
          let sum ← first.sum? second
          pure (sum, rest)
        else
          pure (first, rest)
    | _ => pure (first, rest)

/- A value without a sign. -/
def term :
    Nat → List Token → Option (Shape × List Token)
| 0, _ => none
| fuel + 1, tokens => do
    match tokens with
    | .number isImaginary :: rest =>
        pure (if isImaginary then .imaginary else .real, rest)
    | .quoted isBytes :: rest =>
        let rest ← afterQuoted? isBytes rest
        pure (.fixed, rest)
    | .ellipsis :: rest => pure (.fixed, rest)
    | .word name :: rest =>
        let shape ← wordShape? name
        pure (made shape rest)
    | .mark '(' :: .mark ')' :: rest => pure (.fixed, rest)
    | .mark '(' :: rest => group fuel rest
    | .mark '\x7b' :: .mark '\x7d' :: rest =>
        pure (.changeable, rest)
    | .mark '\x7b' :: rest => braces fuel rest
    | _ => none

/- A value in brackets, or a tuple. -/
def group :
    Nat → List Token → Option (Shape × List Token)
| 0, _ => none
| fuel + 1, tokens => do
    let (first, rest) ← value fuel tokens
    match rest with
    | .mark ')' :: rest => pure (made first rest)
    | _ => do
        let (shapes, rest) ← values fuel (.mark ')') rest
        let shape ← Shape.tuple? (first :: shapes)
        pure (shape, rest)

/- The elements of a set, or the entries of a dictionary. -/
def braces :
    Nat → List Token → Option (Shape × List Token)
| 0, _ => none
| fuel + 1, tokens => do
    let (first, rest) ← value fuel tokens
    match rest with
    | .mark ':' :: rest => do
        let (second, rest) ← value fuel rest
        let (others, rest) ← entries fuel rest
        let all := (first, second) :: others
        let shape ← Shape.dictionary? all
        pure (shape, rest)
    | _ => do
        let (shapes, rest) ← values fuel (.mark '\x7d') rest
        let shape ← Shape.set? (first :: shapes)
        pure (shape, rest)

/- Further values, a comma before each, up to a bracket. -/
def values :
    Nat → Token → List Token →
    Option (List Shape × List Token)
| 0, _, _ => none
| fuel + 1, close, tokens => do
    match tokens with
    | .mark ',' :: token :: rest =>
        if token = close then
          pure ([], rest)
        else do
          let (shape, rest) ← value fuel (token :: rest)
          let (shapes, rest) ← values fuel close rest
          pure (shape :: shapes, rest)
    | token :: rest =>
        if token = close then pure ([], rest) else none
    | [] => none

/- Further entries, a comma before each, up to a brace. -/
def entries :
    Nat → List Token →
    Option (List (Shape × Shape) × List Token)
| 0, _ => none
| fuel + 1, tokens => do
    match tokens with
    | .mark ',' :: .mark '\x7d' :: rest => pure ([], rest)
    | .mark ',' :: rest => do
        let (key, rest) ← value fuel rest
        match rest with
        | .mark ':' :: rest => do
            let (shape, rest) ← value fuel rest
            let (others, rest) ← entries fuel rest
            pure ((key, shape) :: others, rest)
        | _ => none
    | .mark '\x7d' :: rest => pure ([], rest)
    | _ => none

end

end Literal

end DeclaredApi

------------------------------------------------------------
-- Reading Texts
------------------------------------------------------------

namespace DeclaredApi

namespace Literal

/-
  Tokens are those of one value, or of a tuple without its
  brackets.
-/
def isWhole (tokens : List Token) : Bool :=
  let fuel := 4 * tokens.length + 4
  let close := Token.mark ')'
  match value fuel tokens with
  | some (shape, []) => shape.isValue
  | some (first, rest) =>
      match values fuel close (rest ++ [close]) with
      | some (shapes, []) =>
          (Shape.tuple? (first :: shapes)).isSome
      | _ => false
  | none => false

/- A text writes a literal value. -/
def isWellFormed (s : String) : Bool :=
  (tokens? s).any isWhole

end Literal

end DeclaredApi
