import DeclaredApi.Text.Markup
import DeclaredApi.Text.Table

/-
  Texts on a console.

  The console shows texts with markup.  It is wide enough
  for every line; only in the cells of a table are lines
  broken.  The styles that are left in the lines must have
  colours without a fault.

  Key definitions include:
    * `Console.shownColumn`
    * `Console.line`
    * `Console.table`
-/

------------------------------------------------------------
-- Lines
------------------------------------------------------------

namespace DeclaredApi

namespace Console

/- Check the styles of lines. -/
def check (lines : List StyledText) :
    Except Markup.Fault Unit :=
  match lines.findSome? StyledText.fault? with
  | some fault => .error (.colour fault)
  | none => .ok ()

/- Print a text with markup after a plain one. -/
def line
    (lead : String)
    (markup : String) : Except Markup.Fault String := do
  let text ← Markup.shown markup
  let lines :=
    ((StyledText.ofString lead).append text).lines.map
      Text.expandTabs
  check lines
  pure ("\n".intercalate (lines.map StyledText.plain) ++ "\n")

end Console

end DeclaredApi

------------------------------------------------------------
-- Tables
------------------------------------------------------------

namespace DeclaredApi

namespace Console

/- A column whose cells hold markup, as it is shown. -/
def shownColumn
    (column : Column String) :
    Except Markup.Fault (Column StyledText) := do
  let cells ← column.cells.mapM Markup.shown
  pure { heading := column.heading, cells := cells }

/- Print a table whose cells hold markup. -/
def table (t : Table String) : Except Markup.Fault String := do
  let columns ← t.columns.mapM shownColumn
  let shown : Table StyledText := { columns := columns }
  check shown.cellLines
  pure shown.render

end Console

end DeclaredApi
