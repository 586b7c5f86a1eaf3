import DeclaredApi.Text.Emoji
import DeclaredApi.Text.Literal.Grammar
import DeclaredApi.Text.StyledText

/-
  Texts with markup.

  A tag in brackets switches a style on, and a tag with a
  slash switches it off.  Of the backslashes before a tag
  each pair stands for one, and one without a partner makes
  the tag plain text.  A tag with an at sign names a handler,
  whose arguments are literals.  Plain text may name emoji;
  controls that would ring, go back or change the line are
  left out.  A plain text is escaped before it is put among
  markup, so that its tags are shown.

  Key definitions include:
    * `Markup.bracketed?`
    * `Markup.escape`
    * `Markup.Piece`
    * `Markup.pieces`
    * `Markup.Fault`
    * `Markup.OpenTag`
    * `Markup.hasArguments`
    * `Markup.Shown`
    * `Markup.shown`
-/

------------------------------------------------------------
-- Tags
------------------------------------------------------------

namespace DeclaredApi

namespace Markup

/- The first character of a tag's content. -/
def opensTag (c : Char) : Bool :=
  c.isLower || c = '#' || c = '/' || c = '@'

/-
  The content of a tag whose opening bracket stands before
  the characters; no bracket comes before the closing one.
-/
def bracketed? : List Char → Option (List Char)
| [] => none
| c :: rest =>
    let content :=
      rest.takeWhile (fun d => d != '[' && d != ']')
    if opensTag c &&
        (rest.drop content.length).head? = some ']' then
      some (c :: content)
    else
      none

/- The backslashes before a character. -/
def slashes (count : Nat) : List Char :=
  List.replicate count '\\'

end Markup

end DeclaredApi

------------------------------------------------------------
-- Escaping
------------------------------------------------------------

namespace DeclaredApi

namespace Markup

/-
  Escape the tags of a text, where `count` backslashes stand
  before the characters.
-/
def escapeTags
    (count : Nat)
    (chars : List Char) : List Char :=
  match chars with
  | [] => slashes count
  | '\\' :: rest => escapeTags (count + 1) rest
  | '[' :: rest =>
      match bracketed? rest with
      | some content =>
          slashes (2 * count + 1) ++ ['['] ++ content ++ [']'] ++
            escapeTags 0 (rest.drop (content.length + 1))
      | none => slashes count ++ ['['] ++ escapeTags 0 rest
  | c :: rest => slashes count ++ [c] ++ escapeTags 0 rest
termination_by chars.length
decreasing_by
  all_goals simp only [List.length_cons, List.length_drop]
  all_goals omega

/- A lone backslash at the end of a text is doubled. -/
def doubleLast (chars : List Char) : List Char :=
  match chars.reverse with
  | '\\' :: '\\' :: _ => chars
  | '\\' :: _ => chars ++ ['\\']
  | _ => chars

/- A text as it is put among markup. -/
def escape (s : String) : String :=
  String.ofList (doubleLast (escapeTags 0 s.toList))

end Markup

end DeclaredApi

------------------------------------------------------------
-- Pieces
------------------------------------------------------------

namespace DeclaredApi

namespace Markup

/- A part of a text with markup. -/
inductive Piece where
| plain (chars : List Char)
| tag (content : List Char)
deriving DecidableEq, Repr

/-
  The pieces of a tag with its content, where `count`
  backslashes stand before the tag.
-/
def tagPieces
    (count : Nat)
    (content : List Char) : List Piece :=
  if count % 2 = 1 then
    [.plain (slashes (count / 2)),
      .plain (['['] ++ content ++ [']'])]
  else
    [.plain (slashes (count / 2)), .tag content]

/-
  The pieces of characters after some plain ones, which come
  in reverse, and after `count` backslashes.
-/
def piecesAfter
    (before : List Char)
    (count : Nat)
    (chars : List Char) : List Piece :=
  match chars with
  | [] => [.plain (before.reverse ++ slashes count)]
  | '\\' :: rest => piecesAfter before (count + 1) rest
  | '[' :: rest =>
      match bracketed? rest with
      | some content =>
          [.plain before.reverse] ++ tagPieces count content ++
            piecesAfter [] 0 (rest.drop (content.length + 1))
      | none =>
          piecesAfter ('[' :: (slashes count ++ before)) 0 rest
  | c :: rest =>
      piecesAfter (c :: (slashes count ++ before)) 0 rest
termination_by chars.length
decreasing_by
  all_goals simp only [List.length_cons, List.length_drop]
  all_goals omega

/- The pieces of a text with markup. -/
def pieces (s : String) : List Piece :=
  piecesAfter [] 0 s.toList

end Markup

end DeclaredApi

------------------------------------------------------------
-- Open Tags
------------------------------------------------------------

namespace DeclaredApi

namespace Markup

/-
  A style is switched off that was not switched on, a handler
  has no readable arguments, or a colour is faulty.
-/
inductive Fault where
| unopened (style : String)
| unreadable (arguments : String)
| colour (fault : Style.ColourFault)
deriving DecidableEq, Repr

/- A tag that is open from a place on. -/
structure OpenTag where
  start : Nat
  name : String
  parameters : Option String := none
deriving DecidableEq, Repr

namespace OpenTag

/- The definition of the style that a tag switches on. -/
def definition (tag : OpenTag) : String :=
  match tag.parameters with
  | none => tag.name
  | some parameters => tag.name ++ " " ++ parameters

/- A tag names a handler. -/
def isHandler (tag : OpenTag) : Bool :=
  tag.name.startsWith "@"

end OpenTag

/- The name that a style goes by. -/
def styleName (definition : List Char) :
    Except Fault String :=
  match Style.name (String.ofList definition) with
  | .ok name => .ok name
  | .error fault => .error (.colour fault)

end Markup

end DeclaredApi

------------------------------------------------------------
-- Handlers
------------------------------------------------------------

namespace DeclaredApi

namespace Markup

/- A character of the name of a handler. -/
def isHandlerCharacter (c : Char) : Bool :=
  Text.isWordCharacter c || c = '.'

/-
  The arguments that the parameters of a handler hold: after
  a name those in brackets on the same line, else all.
-/
def argumentsOf (parameters : List Char) : List Char :=
  let rest := parameters.dropWhile isHandlerCharacter
  if rest.isEmpty then
    ['(', ')']
  else if rest.head? = some '(' && rest.getLast? = some ')' &&
      !rest.contains '\n' then
    rest
  else
    parameters

/- The arguments of a handler can be read. -/
def hasArguments (parameters : String) : Bool :=
  parameters.isEmpty ||
    Literal.isWellFormed (String.ofList
      (argumentsOf (Text.trimBlanks parameters).toList))

end Markup

end DeclaredApi

------------------------------------------------------------
-- Shown Texts
------------------------------------------------------------

namespace DeclaredApi

namespace Markup

/- The controls that are left out. -/
def silentControls : List Nat :=
  [0x07, 0x08, 0x0B, 0x0C, 0x0D]

/- Drop the backslash right before an opening bracket. -/
def keepBrackets : List Char → List Char
| '\\' :: '[' :: rest => '[' :: keepBrackets rest
| c :: rest => c :: keepBrackets rest
| [] => []

/- Plain characters as they are shown. -/
def shownPlain (chars : List Char) : List Char :=
  (Text.withEmoji (keepBrackets chars)).filter
    (fun c => !silentControls.contains c.toNat)

/- What is shown of a text; the last open tag comes first. -/
structure Shown where
  text : StyledText := { chars := [] }
  opened : List OpenTag := []
deriving DecidableEq, Repr

namespace Shown

/- The number of characters. -/
def size (shown : Shown) : Nat :=
  shown.text.chars.length

/- Show plain characters. -/
def withPlain
    (shown : Shown)
    (chars : List Char) : Shown :=
  { shown with
    text := shown.text.append { chars := shownPlain chars } }

/- Cover the characters from a place on with a style. -/
def covered
    (shown : Shown)
    (start : Nat)
    (style : String) : Shown :=
  let span : Span :=
    { start := start, stop := shown.size, style := style }
  { shown with
    text :=
      { shown.text with spans := shown.text.spans ++ [span] } }

/- Switch on the style of a tag. -/
def opening
    (shown : Shown)
    (name : List Char)
    (parameters : Option String) : Except Fault Shown := do
  let name ← styleName name
  let tag : OpenTag :=
    { start := shown.size
      name := name
      parameters := parameters }
  pure { shown with opened := tag :: shown.opened }

/- Switch off the style of an open tag. -/
def without
    (shown : Shown)
    (tag : OpenTag) : Except Fault Shown :=
  let shown := { shown with opened := shown.opened.erase tag }
  if tag.isHandler then
    let parameters := tag.parameters.getD ""
    if hasArguments parameters then
      .ok (shown.covered tag.start "")
    else
      .error (.unreadable parameters)
  else
    .ok (shown.covered tag.start tag.definition)

/-
  Switch off the style of a name, or the last style if there
  is no name.
-/
def closing
    (shown : Shown)
    (name : List Char) : Except Fault Shown := do
  let name := Text.trim Text.isBlank name
  let style ←
    if name.isEmpty then pure "" else styleName name
  match shown.opened.find? (fun tag =>
    name.isEmpty || tag.name = style) with
  | some tag => shown.without tag
  | none => .error (.unopened style)

/- Show a piece after what is shown. -/
def withPiece (shown : Shown) : Piece → Except Fault Shown
| .plain chars => .ok (shown.withPlain chars)
| .tag content =>
    let head := content.takeWhile (fun c => c != '=')
    let parameters :=
      if head.length = content.length then
        none
      else
        some (String.ofList (content.drop (head.length + 1)))
    match head with
    | '/' :: name => shown.closing name
    | name => shown.opening name parameters

/- Show pieces after what is shown. -/
def withPieces
    (shown : Shown) :
    List Piece → Except Fault Shown
| [] => .ok shown
| piece :: rest => do
    let shown ← shown.withPiece piece
    withPieces shown rest

/- Styles that are still open cover all the rest. -/
def whole (shown : Shown) : StyledText :=
  (shown.opened.foldl (fun shown tag =>
    shown.covered tag.start tag.definition) shown).text

end Shown

/- The text that a text with markup is shown as. -/
def shown (s : String) : Except Fault StyledText := do
  let shown ← Shown.withPieces {} (pieces s)
  pure shown.whole

end Markup

end DeclaredApi
