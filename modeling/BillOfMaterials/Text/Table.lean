/-!
# Aligned tables

Text whose cells end with tabs, written with the cells of each column padded to a common
width. A line is split at its tabs; every cell but the last one of a line belongs to a column,
the last is written as it is. A column's cells are aligned over a block: the longest run of
consecutive lines that all have a cell in that column, inside the block of the column to its
left. A cell is padded with blanks to the widest cell of its block plus `padding`, widths
counted in characters.

A line without any tab ends everything before it: the lines up to it are written, and the
lines after it are aligned on their own. A vertical tab ends a cell as a tab does, and a form
feed ends a line as a newline does and ends everything before it too.
-/

namespace BillOfMaterials.Text

/-- A line of a table: its cells, the last one outside every column. -/
abbrev Row := List String

/-- The longest runs of consecutive items that agree on `p`, in order. -/
def runs {α : Type} (p : α → Bool) : List α → List (Bool × List α)
  | [] => []
  | x :: xs =>
    match runs p xs with
    | (b, r) :: rest => if b = p x then (b, x :: r) :: rest else (p x, [x]) :: (b, r) :: rest
    | [] => [(p x, [x])]

/-- The pieces between the items that satisfy `p`; one more piece than such items. -/
def splitWhen {α : Type} (p : α → Bool) : List α → List (List α)
  | [] => [[]]
  | x :: xs =>
    if p x then [] :: splitWhen p xs
    else match splitWhen p xs with
      | [] => [[x]]
      | r :: rs => (x :: r) :: rs

/-- A row written with the widths of the columns to the left of the current one; cells past
them are written as they are. -/
def writeRow (widths : List Nat) (row : Row) : String :=
  String.join (row.zipIdx.map fun (cell, j) =>
    match widths[j]? with
    | some w => cell ++ String.ofList (List.replicate (w - cell.length) ' ')
    | none => cell)

/-- Rows formatted column by column: a block of rows with a cell in the next column gets that
column's width, and is formatted further; other rows are written with the widths so far. At
most `fuel` columns are opened, which is enough when `fuel` exceeds every row's length. -/
def formatRows (padding : Nat) : Nat → List Nat → List Row → List String
  | 0, widths, rows => rows.map (writeRow widths)
  | fuel + 1, widths, rows =>
    let column := widths.length
    (runs (fun row => decide (column + 1 < row.length)) rows).flatMap fun (inBlock, block) =>
      if inBlock then
        let width := block.foldl (fun w row => max w ((row.getD column "").length + padding)) 0
        formatRows padding fuel (widths ++ [width]) block
      else block.map (writeRow widths)

/-- Groups of rows aligned together, each with whether its last row ends with a newline. A
group ends after a row with a single cell, or at a form feed. -/
def splitGroups (rows : List (Row × Bool)) : List (List (Row × Bool)) :=
  let step (acc : List (List (Row × Bool)) × List (Row × Bool)) (r : Row × Bool) :=
    let cur := acc.2 ++ [r]
    if r.2 && r.1.length = 1 then (acc.1 ++ [cur], []) else (acc.1, cur)
  let (done, rest) := rows.foldl step ([], [])
  if rest.isEmpty then done else done ++ [rest]

/-- Splits text into rows: at newlines and form feeds into lines (a form feed also ends a
group), and each line at tabs and vertical tabs into cells. The text after the last line end
is a row without newline, without cells when it is empty. -/
def splitRows (s : String) : List (List (Row × Bool)) :=
  let isCellEnd (c : Char) := c = '\t' || c = '\x0b'
  let cells (line : List Char) : Row := (splitWhen isCellEnd line).map String.ofList
  let lines := splitWhen (fun c => c = '\n' || c = '\x0c') s.toList
  let ends := s.toList.filter fun c => c = '\n' || c = '\x0c'
  let terminated := (lines.zip ends).map fun (line, e) => ((cells line, true), e = '\x0c')
  let tail := match lines.getLast? with
    | some last =>
      let cs := cells last
      let cs := if cs.getLast? = some "" then cs.dropLast else cs
      [((cs, false), false)]
    | none => []
  let groups := (terminated ++ tail).foldl (fun (acc : List (List (Row × Bool)) × List (Row × Bool))
      ((r, feed) : (Row × Bool) × Bool) =>
    let cur := acc.2 ++ [r]
    if feed then (acc.1 ++ [cur], []) else (acc.1, cur)) ([], [])
  (if groups.2.isEmpty then groups.1 else groups.1 ++ [groups.2]).flatMap splitGroups

/-- Aligns the cells of a text with blanks, `padding` of them at least after each cell. -/
def alignTable (padding : Nat) (s : String) : String :=
  String.join ((splitRows s).map fun group =>
    let rows := group.map Prod.fst
    let fuel := (rows.map List.length).foldl max 0 + 1
    let lines := formatRows padding fuel [] rows
    String.join ((lines.zip group).map fun (line, (_, nl)) => line ++ if nl then "\n" else ""))

end BillOfMaterials.Text
