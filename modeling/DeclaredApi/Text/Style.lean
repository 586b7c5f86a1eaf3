import DeclaredApi.Text.Alphanumeric
import DeclaredApi.Text.Case
import DeclaredApi.Text.Colours

/-
  Styles of texts.

  A style is defined by words: attributes, which `not` before
  them switches off, a colour, a colour of the background
  after `on`, and a place to go to after `link`.  Of several
  words for one thing the last one counts.  A style has one
  text, in which the attributes come first and in order.

  Key definitions include:
    * `Style.ColourFault`
    * `Style.Problem`
    * `Style.readColour`
    * `Style`
    * `Style.attributes`
    * `Style.text`
    * `Style.read`
    * `Style.name`
    * `Style.fault?`
-/

------------------------------------------------------------
-- Colours
------------------------------------------------------------

namespace DeclaredApi

namespace Style

/- A part of a colour is no number. -/
structure ColourFault where
  colour : String
deriving DecidableEq, Repr

/- Why a text defines no style. -/
inductive Problem where
| unknown
| faulty (fault : ColourFault)
deriving DecidableEq, Repr

/- The highest number of a part of a colour. -/
def componentLimit : Nat :=
  255

/- The most digits that a part of a colour may have. -/
def digitLimit : Nat :=
  4300

/- The characters between an opening and an ending. -/
def between?
    (opening : String)
    (ending : String)
    (s : String) : Option (List Char) :=
  let body := s.toList.drop opening.length
  if opening.toList.isPrefixOf s.toList &&
      ending.toList.isSuffixOf body then
    some (body.take (body.length - ending.length))
  else
    none

/- The number that decimal digits of any script write. -/
def number? (digits : List Char) : Option Nat :=
  if digits.isEmpty || digitLimit < digits.length then
    none
  else
    (digits.mapM Text.decimalDigit?).map (fun values =>
      values.foldl (fun n value => n * 10 + value) 0)

/- A colour is written by six hexadecimal digits. -/
def isHexadecimal (name : String) : Bool :=
  match between? "#" "" name with
  | none => false
  | some digits =>
      digits.length = 6 &&
        digits.all (fun c =>
          c.isDigit || ('a' ≤ c && c ≤ 'f'))

/- A colour is the one at a place of the palette. -/
def isNumbered (name : String) : Bool :=
  match between? "color(" ")" name with
  | none => false
  | some digits =>
      digits.length ≤ 3 && digits.all Char.isDigit &&
        (number? digits).any (fun n => n ≤ componentLimit)

/- The parts of a colour that is mixed of three. -/
def components? (name : String) : Option (List String) := do
  let body ← between? "rgb(" ")" name
  if !body.isEmpty &&
      body.all (fun c =>
        c = ',' || (Text.decimalDigit? c).isSome) then
    some ((String.ofList body).splitOn ",")
  else
    none

/- The name of a colour that is mixed of some parts. -/
def readMixture
    (name : String)
    (parts : List String) : Except Problem String :=
  if parts.length = 3 then
    match parts.mapM (fun part => number? part.toList) with
    | none => .error (.faulty ⟨name⟩)
    | some values =>
        if values.all (fun n => n ≤ componentLimit) then
          .ok name
        else
          .error .unknown
  else
    .error .unknown

/- The name of the colour that a word stands for. -/
def readColour (word : String) : Except Problem String :=
  let name := Text.lowerCase word
  if name = "default" || Text.colourNames.contains name ||
      isHexadecimal name || isNumbered name then
    .ok name
  else
    match components? name with
    | some parts => readMixture name parts
    | none => .error .unknown

end Style

end DeclaredApi

------------------------------------------------------------
-- Styles
------------------------------------------------------------

namespace DeclaredApi

/-
  What a style sets.  Of the attributes it switches on or
  off, the first entry of a name counts.
-/
structure Style where
  switches : List (String × Bool) := []
  colour : Option String := none
  background : Option String := none
  link : Option String := none
deriving DecidableEq, Repr

namespace Style

/- The attributes in order, with their short forms. -/
def attributes : List (String × Option String) :=
  [("bold", some "b"), ("dim", some "d"),
    ("italic", some "i"), ("underline", some "u"),
    ("blink", none), ("blink2", none),
    ("reverse", some "r"), ("conceal", some "c"),
    ("strike", some "s"), ("underline2", some "uu"),
    ("frame", none), ("encircle", none),
    ("overline", some "o")]

/- The attribute that a word stands for. -/
def attribute? (word : String) : Option String :=
  (attributes.find? (fun entry =>
    word = entry.1 || some word = entry.2)).map Prod.fst

/- Switch an attribute on or off. -/
def switch
    (style : Style)
    (name : String)
    (isOn : Bool) : Style :=
  { style with switches := (name, isOn) :: style.switches }

/- The text of a style. -/
def text (style : Style) : String :=
  let switches := attributes.filterMap (fun entry =>
    (style.switches.lookup entry.1).map (fun isOn =>
      if isOn then entry.1 else "not " ++ entry.1))
  let parts :=
    switches ++ style.colour.toList ++
      (style.background.map (fun c => "on " ++ c)).toList ++
      (style.link.map (fun l => "link " ++ l)).toList
  if parts.isEmpty then
    "none"
  else
    " ".intercalate parts

end Style

end DeclaredApi

------------------------------------------------------------
-- Reading Definitions
------------------------------------------------------------

namespace DeclaredApi

namespace Style

/- The words of a text that blanks separate. -/
def words (s : String) : List String :=
  (s.toList.splitBy (fun c d =>
    Text.isBlank c = Text.isBlank d)).filterMap (fun word =>
      if word.any Text.isBlank then
        none
      else
        some (String.ofList word))

/- Set what a word says on its own. -/
def withWord
    (style : Style)
    (word : String) : Except Problem Style :=
  match attribute? word with
  | some name => .ok (style.switch name true)
  | none => do
      let colour ← readColour word
      pure { style with colour := some colour }

/- Set what the words of a definition say. -/
def readWords
    (style : Style) :
    List String → Except Problem Style
| [] => .ok style
| [word] => style.withWord (Text.lowerCase word)
| word :: next :: rest =>
    match Text.lowerCase word with
    | "on" => do
        let colour ← readColour next
        readWords { style with background := some colour } rest
    | "not" =>
        match attribute? next with
        | some name => readWords (style.switch name false) rest
        | none => .error .unknown
    | "link" => readWords { style with link := some next } rest
    | small => do
        let style ← style.withWord small
        readWords style (next :: rest)

/- The style that a definition stands for. -/
def read (definition : String) : Except Problem Style :=
  if Text.trimBlanks definition = "none" then
    .ok {}
  else
    readWords {} (words definition)

/-
  The name that a style goes by, which is its text if it is
  one; a text that defines no style is taken in lower case.
-/
def name (definition : String) : Except ColourFault String :=
  match read definition with
  | .ok style => .ok style.text
  | .error .unknown =>
      .ok (Text.lowerCase (Text.trimBlanks definition))
  | .error (.faulty fault) => .error fault

/- What is wrong with a definition whatever its words mean. -/
def fault? (definition : String) : Option ColourFault :=
  match read definition with
  | .error (.faulty fault) => some fault
  | _ => none

end Style

end DeclaredApi
