import DeclaredApi.Text.StyledText
import DeclaredApi.Text.Width

/-
  Texts laid out in lines of cells.

  A tab reaches to the next multiple of eight cells.  A line
  that is too long is broken before words; a word takes the
  blanks after it along, which do not count for its length.
  A line that is still too long ends in an ellipsis.  On the
  display each run of a line is measured by itself.

  Key definitions include:
    * `Text.naturalWidth`
    * `Text.expandTabs`
    * `Text.spacedWords`
    * `Text.brokenLines`
    * `Text.fitted`
    * `Text.layout`
    * `Text.adjusted`
-/

------------------------------------------------------------
-- Natural Width
------------------------------------------------------------

namespace DeclaredApi

namespace Text

/- The characters that end a line. -/
def lineEndRanges : List (Nat × Nat) :=
  [(0x0A, 0x0D), (0x1C, 0x1E), (0x85, 0x85),
    (0x2028, 0x2029)]

/- A character ends a line. -/
def endsLine (c : Char) : Bool :=
  inRanges lineEndRanges c.toNat

/- The cells of the widest line of a text. -/
def naturalWidth (text : StyledText) : Nat :=
  ((text.chars.splitBy (fun c d =>
    endsLine c = endsLine d)).map
      (fun line => width (String.ofList line))).foldl max 0

end Text

end DeclaredApi

------------------------------------------------------------
-- Tabs
------------------------------------------------------------

namespace DeclaredApi

namespace Text

/- The distance of two tab stops. -/
def tabSize : Nat :=
  8

/- A text of blanks. -/
def blanks (count : Nat) : String :=
  String.ofList (List.replicate count ' ')

/- Add blanks in the styles of the last character. -/
def stretch
    (count : Nat)
    (text : StyledText) : StyledText where
  chars := text.chars ++ (blanks count).toList
  spans := text.spans.map (fun span =>
    if text.chars.length ≤ span.stop then
      { span with stop := span.stop + count }
    else
      span)

/-
  Fill up parts with blanks to the next tab stop, if they end
  with a tab; the first part starts at the given cell.
-/
def fillTabs (cell : Nat) :
    List StyledText → List StyledText
| [] => []
| part :: rest =>
    if part.chars.getLast? = some '\t' then
      let part :=
        part.withChars (part.chars.dropLast ++ [' '])
      let stop := cell + width part.plain
      let filler := (tabSize - stop % tabSize) % tabSize
      stretch filler part :: fillTabs (stop + filler) rest
    else
      part :: fillTabs (cell + width part.plain) rest

/- A line with blanks in the place of its tabs. -/
def expandTabs (line : StyledText) : StyledText :=
  if line.chars.contains '\t' then
    .concat (fillTabs 0 (line.splitAfter (fun c => c = '\t')))
  else
    line

end Text

end DeclaredApi

------------------------------------------------------------
-- Words
------------------------------------------------------------

namespace DeclaredApi

namespace Text

/- Join each run of characters with the run after it. -/
def joinPairs : List (List Char) → List (List Char)
| first :: second :: rest => (first ++ second) :: joinPairs rest
| runs => runs

/-
  The words of a line with the blanks after them; the first
  word has the blanks before it as well.
-/
def spacedWords (line : List Char) : List (List Char) :=
  match line.splitBy (fun c d => isBlank c = isBlank d) with
  | lead :: body :: rest =>
      if lead.all isBlank then
        joinPairs ((lead ++ body) :: rest)
      else
        joinPairs (lead :: body :: rest)
  | runs => runs

/- The cells of a word without the blanks after it. -/
def wordWidth (word : List Char) : Nat :=
  width (String.ofList
    (word.reverse.dropWhile isBlank).reverse)

end Text

end DeclaredApi

------------------------------------------------------------
-- Breaking Lines
------------------------------------------------------------

namespace DeclaredApi

namespace Text

/-
  Put words on lines of some cells, where a line of `count`
  characters has been begun and takes `used` cells.  The
  first word of a line stays on it whatever its length.  The
  lines are given by their numbers of characters.
-/
def fill
    (cells : Nat)
    (used : Nat)
    (count : Nat) : List (List Char) → List Nat
| [] => [count]
| word :: rest =>
    if count = 0 || used + wordWidth word ≤ cells then
      fill cells (used + width (String.ofList word))
        (count + word.length) rest
    else
      count ::
        fill cells (width (String.ofList word))
          word.length rest

/-
  A line without the last of its blanks, as many as it has
  characters too many.
-/
def trimEnd
    (cells : Nat)
    (line : StyledText) : StyledText :=
  let size := line.chars.length
  let spare := (line.chars.reverse.takeWhile isBlank).length
  line.withChars
    (line.chars.take (size - min spare (size - cells)))

/- A line that is broken before words. -/
def brokenLines
    (cells : Nat)
    (line : StyledText) : List StyledText :=
  (line.divide (fill cells 0 0 (spacedWords line.chars))).map
    (trimEnd cells)

end Text

end DeclaredApi

------------------------------------------------------------
-- Fitting Lines
------------------------------------------------------------

namespace DeclaredApi

namespace Text

/- A text with blanks after it, or cut, to take some cells. -/
def resized
    (cells : Nat)
    (s : String) : String :=
  if cells < width s then
    clip cells s
  else
    s ++ blanks (cells - width s)

/- A line that is too long is cut and ends in an ellipsis. -/
def cut
    (cells : Nat)
    (line : StyledText) : StyledText :=
  if cells < width line.plain then
    line.withChars
      ((resized (cells - 1) line.plain).toList ++ ['…'])
  else
    line

/- A line cut, or padded by its cells, and then cut again. -/
def fitted
    (cells : Nat)
    (line : StyledText) : StyledText :=
  let count := cells - width line.plain
  let whole := cut cells line
  cut cells
    (whole.withChars (whole.chars ++ (blanks count).toList))

/- The lines of a text, each fitted into some cells. -/
def layout
    (cells : Nat)
    (text : StyledText) : List StyledText :=
  text.lines.flatMap (fun line =>
    (brokenLines cells (expandTabs line)).map (fitted cells))

end Text

end DeclaredApi

------------------------------------------------------------
-- Runs on the Display
------------------------------------------------------------

namespace DeclaredApi

namespace Text

/- The cells of runs that are measured one by one. -/
def runsWidth (runs : List String) : Nat :=
  (runs.map width).foldl (fun m n => m + n) 0

/- The first runs, and so much of the next as still fits. -/
def cropped (cells : Nat) : List String → List String
| [] => []
| run :: rest =>
    if width run < cells then
      run :: cropped (cells - width run) rest
    else
      [resized cells run]

/- Runs that are made to take some cells. -/
def adjusted
    (cells : Nat)
    (runs : List String) : List String :=
  if cells < runsWidth runs then
    cropped cells runs
  else
    runs ++ [blanks (cells - runsWidth runs)]

end Text

end DeclaredApi
