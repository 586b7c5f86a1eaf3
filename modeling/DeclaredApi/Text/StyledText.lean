import DeclaredApi.Text.Style

/-
  Texts with styles.

  A style covers a span of the characters, which may be
  empty.  Where a text is divided, a part keeps what is
  covered of it, and empty spans are lost.  A text is shown
  in runs, which end wherever a span begins or ends.

  Key definitions include:
    * `Span`
    * `StyledText`
    * `StyledText.append`
    * `StyledText.slice`
    * `StyledText.divide`
    * `StyledText.lines`
    * `StyledText.withChars`
    * `StyledText.runs`
    * `StyledText.fault?`
-/

------------------------------------------------------------
-- Spans
------------------------------------------------------------

namespace DeclaredApi

/- A style that covers the characters from a place to another. -/
structure Span where
  start : Nat
  stop : Nat
  style : String
deriving DecidableEq, Repr

namespace Span

/- Move a span to the right. -/
def shift
    (span : Span)
    (count : Nat) : Span :=
  { span with
    start := span.start + count
    stop := span.stop + count }

/- The part of a span between two places, if there is any. -/
def within?
    (start : Nat)
    (stop : Nat)
    (span : Span) : Option Span :=
  let first := max start span.start
  let last := min stop span.stop
  if first < last then
    some ⟨first - start, last - start, span.style⟩
  else
    none

end Span

end DeclaredApi

------------------------------------------------------------
-- Styled Texts
------------------------------------------------------------

namespace DeclaredApi

/- Characters with the spans of their styles. -/
structure StyledText where
  chars : List Char
  spans : List Span := []
deriving DecidableEq, Repr

namespace StyledText

/- The characters of a text. -/
def plain (text : StyledText) : String :=
  String.ofList text.chars

/- A text without styles. -/
def ofString (s : String) : StyledText :=
  { chars := s.toList }

/- A text after another one. -/
def append
    (first : StyledText)
    (second : StyledText) : StyledText where
  chars := first.chars ++ second.chars
  spans :=
    first.spans ++
      second.spans.map (fun span =>
        span.shift first.chars.length)

/- Some texts one after the other. -/
def concat (texts : List StyledText) : StyledText :=
  texts.foldl append { chars := [] }

end StyledText

end DeclaredApi

------------------------------------------------------------
-- Dividing Texts
------------------------------------------------------------

namespace DeclaredApi

namespace StyledText

/- The part of a text between two places. -/
def slice
    (text : StyledText)
    (start : Nat)
    (stop : Nat) : StyledText where
  chars := (text.chars.take stop).drop start
  spans := text.spans.filterMap (Span.within? start stop)

/- The parts of a text that have some lengths, from a place. -/
def slicesFrom
    (text : StyledText)
    (start : Nat) : List Nat → List StyledText
| [] => []
| length :: rest =>
    text.slice start (start + length) ::
      slicesFrom text (start + length) rest

/- A text in parts of some lengths; one part is the whole. -/
def divide
    (text : StyledText)
    (lengths : List Nat) : List StyledText :=
  if lengths.length ≤ 1 then
    [text]
  else
    text.slicesFrom 0 lengths

/-
  The lengths of the parts of characters that end with one
  of a kind, where `count` characters of a part are found.
-/
def endings
    (isEnd : Char → Bool)
    (count : Nat) : List Char → List Nat
| [] => [count]
| c :: rest =>
    if isEnd c then
      (count + 1) :: endings isEnd 0 rest
    else
      endings isEnd (count + 1) rest

/- The parts of a text, each but the last with its ending. -/
def splitAfter
    (isEnd : Char → Bool)
    (text : StyledText) : List StyledText :=
  text.divide (endings isEnd 0 text.chars)

/- A text without its last character if that ends a line. -/
def withoutLineEnd (text : StyledText) : StyledText :=
  if text.chars.getLast? = some '\n' then
    text.slice 0 (text.chars.length - 1)
  else
    text

/- The lines of a text. -/
def lines (text : StyledText) : List StyledText :=
  (text.splitAfter (fun c => c = '\n')).map withoutLineEnd

/-
  A text with other characters.  If they are fewer, spans
  are cut where they end; empty ones may stay.
-/
def withChars
    (text : StyledText)
    (chars : List Char) : StyledText where
  chars := chars
  spans :=
    if chars.length < text.chars.length then
      (text.spans.filter (fun span =>
        span.start < chars.length)).map (fun span =>
          { span with stop := min span.stop chars.length })
    else
      text.spans

end StyledText

end DeclaredApi

------------------------------------------------------------
-- Runs
------------------------------------------------------------

namespace DeclaredApi

namespace StyledText

/- A span begins or ends at a place. -/
def isBoundary
    (text : StyledText)
    (place : Nat) : Bool :=
  text.spans.any (fun span =>
    span.start = place || span.stop = place)

/-
  The runs of characters from a place, where `run` has been
  begun and comes in reverse.
-/
def runsFrom
    (text : StyledText)
    (place : Nat)
    (run : List Char) : List Char → List String
| [] => [String.ofList run.reverse]
| c :: rest =>
    if text.isBoundary place && !run.isEmpty then
      String.ofList run.reverse ::
        runsFrom text (place + 1) [c] rest
    else
      runsFrom text (place + 1) (c :: run) rest

/- The runs of a text from one boundary to the next. -/
def runs (text : StyledText) : List String :=
  text.runsFrom 0 [] text.chars

/-
  The first style that cannot be shown; a definition without
  a meaning is passed over.
-/
def fault? (text : StyledText) : Option Style.ColourFault :=
  text.spans.findSome? (fun span => Style.fault? span.style)

end StyledText

end DeclaredApi
