import ErrorTriage.Text.Blank
import ErrorTriage.Text.Width

/-!
# Report.Table — tables drawn with lines, and words in colour

Every column is as wide as its widest line and a row as high as its highest cell; a line feed in a
cell starts a new line of the cell.  The marks that switch a colour on and off take columns like
other characters.
-/

namespace ErrorTriage
namespace Report

/-! ## Colours -/

inductive Color where
  | red
  | green
  | yellow
  | cyan
deriving DecidableEq, Repr

def Color.code : Color → String
  | .red => "31"
  | .green => "32"
  | .yellow => "33"
  | .cyan => "36"

/-- A word in bold type and a colour, if colours are on. -/
def bold (colors : Bool) (color : Color) (word : String) : String :=
  if colors then "\x1b[1;" ++ color.code ++ "m" ++ word ++ "\x1b[0m" else word

/-! ## Tables -/

/-- A table; every row has as many cells as the header. -/
structure Table where
  header : List String
  rows : List (List String)

namespace Table

def cellLines (cell : String) : List String :=
  (Text.splitAt '\n' cell.toList).map String.ofList

def cellWidth (cell : String) : Nat :=
  ((cellLines cell).map Text.width).foldl max 0

def widths (t : Table) : List Nat :=
  t.rows.foldl (fun ws row => List.zipWith max ws (row.map cellWidth)) (t.header.map cellWidth)

def padTo (width : Nat) (text : String) : String :=
  text ++ String.ofList (List.replicate (width - Text.width text) ' ')

def rowLines (widths : List Nat) (row : List String) : List String :=
  let cells := row.map cellLines
  let height := (cells.map List.length).foldl max 0
  (List.range height).map fun i =>
    "│ " ++ " ┆ ".intercalate
      (List.zipWith (fun width lines => padTo width (lines.getD i "")) widths cells) ++ " │"

/-- A line across the table. -/
def rule (widths : List Nat) (left line cross right : String) : String :=
  left ++ cross.intercalate (widths.map fun width => "".intercalate (List.replicate (width + 2) line))
    ++ right

def bodyLines (widths : List Nat) : List (List String) → List String
  | [] => []
  | [row] => rowLines widths row
  | row :: rest =>
    rowLines widths row ++ rule widths "├" "╌" "┼" "┤" :: bodyLines widths rest

def render (t : Table) : String :=
  let ws := t.widths
  "\n".intercalate
    (rule ws "┌" "─" "┬" "┐" :: rowLines ws t.header ++ rule ws "╞" "═" "╪" "╡"
      :: bodyLines ws t.rows ++ [rule ws "└" "─" "┴" "┘"])

end Table

/-- The first line of a text, cut to so many characters of which the last three are points. -/
def truncate (most : Nat) (text : String) : String :=
  let line := Text.firstLine text
  if most < line.length then String.ofList (line.toList.take (most - 3)) ++ "..." else line

end Report
end ErrorTriage
