import FrameFeed.Text.Width
/-!
# Tables

Cells stand in columns as wide as their widest line, with a blank on either side, between rules: a
double rule under the header and a dashed one between rows.
-/
namespace FrameFeed

structure Table where
  header : List String
  rows : List (List String)
deriving DecidableEq, Repr

namespace Table

/-- The lines of a cell. -/
def lines (cell : String) : List String := (cell.splitOn "\n")

def cellWidth (cell : String) : Nat := ((lines cell).map Text.width).foldl max 0

/-- The widths of the columns. -/
def widths (t : Table) : List Nat :=
  t.rows.foldl (fun ws row => List.zipWith max ws (row.map cellWidth)) (t.header.map cellWidth)

/-- A rule across all columns: its left end, its body, its crossings and its right end. -/
def rule (left body crossing right : String) (ws : List Nat) : String :=
  left ++ crossing.intercalate (ws.map fun w => String.join (List.replicate (w + 2) body)) ++ right ++ "\n"

/-- A text filled up with blanks to a width. -/
def pad (w : Nat) (s : String) : String := s ++ String.ofList (List.replicate (w - Text.width s) ' ')

/-- A row, which is as many lines high as its highest cell. -/
def row (ws : List Nat) (cells : List String) : String :=
  let cells := cells.map lines
  let height := (cells.map List.length).foldl max 1
  let line (i : Nat) : String :=
    "│" ++ "┆".intercalate (List.zipWith (fun w c => " " ++ pad w (c.getD i "") ++ " ") ws cells) ++ "│\n"
  String.join ((List.range height).map line)

def render (t : Table) : String :=
  let ws := t.widths
  rule "┌" "─" "┬" "┐" ws ++ row ws t.header ++ rule "╞" "═" "╪" "╡" ws ++
    (rule "├" "╌" "┼" "┤" ws).intercalate (t.rows.map (row ws)) ++ rule "└" "─" "┴" "┘" ws

end Table
end FrameFeed
