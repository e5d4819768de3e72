import Transclusion.Text.Width

namespace Transclusion.Command

/-! Tables of text with ruled borders. -/

structure Table where
  head : List Text
  rows : List (List Text)

namespace Table

def cellLines (cell : Text) : List Text :=
  Text.split '\n' (cell.flatMap fun c => if c = '\t' then List.replicate 4 ' ' else [c])

def cellWidth (cell : Text) : Nat :=
  (cellLines cell).foldl (fun widest line => max widest (Text.width line)) 0

def widths (table : Table) : List Nat :=
  table.rows.foldl (fun widths row => widths.zipWith max (row.map cellWidth))
    (table.head.map cellWidth)

def rule (left between right : Char) (widths : List Nat) : Text :=
  left :: Text.join [between] (widths.map fun width => List.replicate (width + 2) '─') ++ [right]

def pad (width : Nat) (line : Text) : Text :=
  line ++ List.replicate (width - Text.width line) ' '

def rowLine (widths : List Nat) (cells : List Text) : Text :=
  '│' :: Text.join ['│'] (List.zipWith (fun width cell => ' ' :: pad width cell ++ [' '])
    widths cells) ++ ['│']

def rowLines (widths : List Nat) (row : List Text) : List Text :=
  let cells := row.map cellLines
  let height := cells.foldl (fun height lines => max height lines.length) 0
  (List.range height).map fun line =>
    rowLine widths (cells.map fun lines => lines[line]?.getD [])

def print (table : Table) : Text :=
  let widths := table.widths
  Text.join ['\n'] <|
    [rule '╭' '┬' '╮' widths] ++ rowLines widths table.head ++
    [rule '├' '┼' '┤' widths] ++ table.rows.flatMap (rowLines widths) ++
    [rule '╰' '┴' '╯' widths]

end Table

end Transclusion.Command
