import ClassLift.Terminal.Wrap
import ClassLift.Text.Pieces

/-!
# Framed texts

Texts between lines that are drawn around them. A panel is a box as wide as the
console, with a title in its upper edge. A table has a title centred above it
and columns as wide as their widest cell. If that is more than the console
holds, the widest columns become narrower, and their cells take several lines.
-/

namespace ClassLift.Terminal

/-! ### Panels -/

def consoleWidth : Nat := 200

/-- The lines of a panel around a text. -/
def panel (title : String) (text : List Char) : List (List Char) :=
  let inner := consoleWidth - 2
  let heading := ' ' :: title.toList ++ [' ']
  let left := (inner - heading.length) / 2
  let right := inner - heading.length - left
  let edge (count : Nat) : List Char := List.replicate count '─'
  let top := '╭' :: edge left ++ heading ++ edge right ++ ['╮']
  let bottom := '╰' :: edge inner ++ ['╯']
  let row (line : List Char) : List Char :=
    '│' :: ' ' :: padRight (inner - 2) line ++ [' ', '│']
  top :: (wrap .fold .loose (inner - 2) text).map row ++ [bottom]

/-! ### Tables -/

structure Column where
  heading : String
  alignRight : Bool

/-- The characters of a horizontal edge. -/
structure Edge where
  left : Char
  line : Char
  joint : Char
  right : Char

/-- An edge above, between or below cells of the given widths. -/
def Edge.draw (edge : Edge) (widths : List Nat) : List Char :=
  edge.left :: [edge.joint].intercalate (widths.map (List.replicate · edge.line)) ++ [edge.right]

/-- The width of the widest row of a text. -/
def textWidth (text : List Char) : Nat :=
  (Text.rows text).foldl (fun width row => width.max (cellCount row)) 0

/-- The width of a column, with a space on each side of its cells, within a limit. -/
def columnWidth (limit : Nat) (cells : List (List Char)) : Nat :=
  cells.foldl (fun width cell => width.max (limit.min (limit.min (textWidth cell) + 2))) 0

/-- A quotient, rounded to the nearest whole number; a half goes to the even one. -/
def roundedShare (total parts : Nat) : Nat :=
  let quotient := total / parts
  let double := 2 * (total % parts)
  if parts < double || (double == parts && quotient % 2 == 1) then quotient + 1 else quotient

/-- Takes an excess away from the widths that are as great as the greatest, each by `most` at most. -/
def reduce (greatest most : Nat) : (excess sharing : Nat) → List Nat → List Nat
  | _, _, [] => []
  | excess, sharing, width :: rest =>
      if width = greatest then
        let share := most.min (roundedShare excess sharing)
        (width - share) :: reduce greatest most (excess - share) (sharing - 1) rest
      else width :: reduce greatest most excess sharing rest

/-- The width that columns take together. -/
def totalWidth (widths : List Nat) : Nat :=
  widths.foldl (fun total width => total + width) 0

/-- Makes the widest columns narrower, down to the next widest, until all fit. -/
def fit (limit : Nat) : (fuel : Nat) → List Nat → List Nat
  | 0, widths => widths
  | fuel + 1, widths =>
      let excess := totalWidth widths - limit
      if excess = 0 then widths
      else
        let greatest := widths.foldl Nat.max 0
        let next := (widths.filter (· != greatest)).foldl Nat.max 0
        let most := excess.min (greatest - next)
        fit limit fuel (reduce greatest most excess (widths.count greatest) widths)

/-- The widths of the columns of a table, with the spaces beside their cells. -/
def columnWidths (limit : Nat) (columns : List Column) (rows : List (List (List Char))) :
    List Nat :=
  let widths := columns.zipIdx.map fun (column, index) =>
    columnWidth limit (column.heading.toList :: rows.map fun row => row[index]?.getD [])
  fit limit (totalWidth widths + 1) widths

/-- The lines of a row of cells between vertical lines; short cells are filled up below. -/
def drawRow (line : Char) (columns : List (Column × Nat)) (cells : List (List Char)) :
    List (List Char) :=
  let drawn := (columns.zip cells).map fun ((column, width), cell) =>
    let alignment := if column.alignRight then Alignment.right else .left
    (width, wrap .ellipsis alignment (width - 2) cell)
  let height := drawn.foldl (fun height (_, lines) => height.max lines.length) 1
  (List.range height).map fun index =>
    let parts := drawn.map fun (width, lines) =>
      ' ' :: padRight (width - 2) (lines[index]?.getD []) ++ [' ']
    line :: [line].intercalate parts ++ [line]

/-- The lines of a table on a console of the given width. -/
def table (width : Nat) (title : String) (columns : List Column)
    (rows : List (List (List Char))) : List (List Char) :=
  let frame := columns.length + 1
  let widths := columnWidths (width - frame) columns rows
  let sized := columns.zip widths
  wrap .fold .centre (totalWidth widths + frame) title.toList
    ++ [Edge.draw ⟨'┏', '━', '┳', '┓'⟩ widths]
    ++ drawRow '┃' sized (columns.map (·.heading.toList))
    ++ [Edge.draw ⟨'┡', '━', '╇', '┩'⟩ widths]
    ++ rows.flatMap (drawRow '│' sized)
    ++ [Edge.draw ⟨'└', '─', '┴', '┘'⟩ widths]

end ClassLift.Terminal
