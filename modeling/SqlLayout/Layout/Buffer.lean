import SqlLayout.Text.Width

/-!
# Line buffers and pieces

A line buffer holds the lines written so far and the column of the cursor. Columns count from the
margin: a buffer that starts at column 12 holds only its own text on the first line, while every later
line carries its indentation. A piece is the finished form of a node, a short text on one line or a
buffer; it can be appended where the cursor stands at its start column.
-/

namespace SqlLayout

/-- Lines under construction. -/
structure LineBuffer where
  /-- Column at which the first line starts. -/
  start : Nat
  /-- Lines before the current one, nearest first. -/
  finished : List Text
  /-- The line that is being written. -/
  current : Text
  /-- Column of the cursor. -/
  column : Nat
  /-- Largest column reached by a write. -/
  width : Nat
  /-- Column from which further lines are indented. -/
  indentBase : Nat
  localIndent : Nat
  /-- Whether nothing has been written on the current line. -/
  fresh : Bool
  /-- Whether the next write must start a line. -/
  pendingBreak : Bool
  /-- Index of the last token written. -/
  last : Option Nat
  deriving DecidableEq, Inhabited

namespace LineBuffer

/-- A buffer without text that starts at a column. -/
def startingAt (column : Nat) : LineBuffer where
  start := column
  finished := []
  current := []
  column := column
  width := column
  indentBase := column
  localIndent := 0
  fresh := true
  pendingBreak := false
  last := none

/-- All lines, first to last. -/
def lines (b : LineBuffer) : List Text :=
  b.finished.reverse ++ [b.current]

/-- Number of lines. -/
def height (b : LineBuffer) : Nat :=
  b.finished.length + 1

@[simp] theorem lines_startingAt (column : Nat) : (startingAt column).lines = [[]] := rfl

theorem length_lines (b : LineBuffer) : b.lines.length = b.height := by
  simp [lines, height]

/-- Column at which a plain new line starts. -/
def lineIndent (b : LineBuffer) : Nat :=
  b.indentBase + b.localIndent

/-- Demands a line break before the next write. -/
def forceBreak (b : LineBuffer) : LineBuffer :=
  { b with pendingBreak := true }

/-- Remembers a token as the last one written; nothing keeps the one before. -/
def setLast (token : Option Nat) (b : LineBuffer) : LineBuffer :=
  { b with last := token.orElse fun _ => b.last }

/--
Drops blanks at the end of the current line. The cursor moves back by the bytes dropped, and not past
the margin.
-/
def trimTrailing (b : LineBuffer) : LineBuffer :=
  let kept := Text.trimEnd b.current
  let removed := Text.byteLength b.current - Text.byteLength kept
  { b with current := kept, column := b.column - removed }

/-- Starts a line at a column. -/
def newlineAt (column : Nat) (b : LineBuffer) : LineBuffer :=
  { b with
    finished := Text.trimEnd b.current :: b.finished
    current := Text.spaces column
    column := column
    fresh := true
    pendingBreak := false }

/-- A new line trims the line before it and holds nothing but its indentation. -/
theorem lines_newlineAt (column : Nat) (b : LineBuffer) :
    (b.newlineAt column).lines
      = b.finished.reverse ++ [Text.trimEnd b.current, Text.spaces column] := by
  simp [lines, newlineAt]

/-- Starts a line at the column of plain new lines. -/
def newline (b : LineBuffer) : LineBuffer :=
  b.newlineAt b.lineIndent

/-- Starts a line at a column, unless the cursor stands there on an empty line already. -/
def beginLineAt (column : Nat) (b : LineBuffer) : LineBuffer :=
  if b.fresh && !b.pendingBreak && b.column == column then b else b.newlineAt column

/-- Writes text with the given width on the current line. -/
def write (text : Text) (width : Nat) (b : LineBuffer) : LineBuffer :=
  { b with
    current := b.current ++ text
    column := b.column + width
    width := max b.width (b.column + width)
    fresh := false }

/-- A write changes the last line only. -/
theorem lines_write (text : Text) (width : Nat) (b : LineBuffer) :
    (b.write text width).lines = b.finished.reverse ++ [b.current ++ text] := rfl

/-- Writes text without line feeds, on a new line if a break is due. -/
def push (text : Text) (b : LineBuffer) : LineBuffer :=
  (if b.pendingBreak then b.newline else b).write text (Text.width text)

/-- Starts a line that holds the given text as it stands. -/
def pushLine (b : LineBuffer) (text : Text) : LineBuffer :=
  { b with
    finished := b.current :: b.finished
    current := text
    column := Text.width text
    width := max b.width (Text.width text)
    fresh := false }

/-- Writes text that may have several lines; further lines are kept as they stand. -/
def pushVerbatim (text : Text) (b : LineBuffer) : LineBuffer :=
  match (Text.pieces '\n' text).map (Text.dropEndWhile (· == '\r')) with
  | [] => b
  | first :: rest => rest.foldl pushLine (b.push first)

/-- Writes a space, unless a line starts here. -/
def pushSpace (b : LineBuffer) : LineBuffer :=
  if b.fresh || b.pendingBreak then b
  else { b.write [' '] 1 with fresh := b.fresh }

/-- Breaks the line if a break is due, and else writes a space if one is asked for. -/
def separate (space : Bool) (b : LineBuffer) : LineBuffer :=
  if b.pendingBreak then b.newline else if space then b.pushSpace else b

/-- Writes spaces up to a column. -/
def padTo (column : Nat) (b : LineBuffer) : LineBuffer :=
  if b.column < column then
    { b with
      current := b.current ++ Text.spaces (column - b.column)
      column := column
      width := max b.width column }
  else b

/-- The text of the buffer, with the first line moved to its column. -/
def text (b : LineBuffer) : Text :=
  Text.spaces b.start ++ Text.join ['\n'] b.lines

/-- The buffer of one line, moved to another column. -/
def shifted (column : Nat) (b : LineBuffer) : LineBuffer :=
  if b.start ≤ column then
    let offset := column - b.start
    { b with
      start := column
      column := b.column + offset
      width := b.width + offset
      indentBase := b.indentBase + offset }
  else
    let offset := b.start - column
    { b with
      start := column
      column := b.column - offset
      width := b.width - offset
      indentBase := b.indentBase - offset }

end LineBuffer

/-- The finished form of a node. -/
inductive Piece where
  /-- A text on one line from a column on, and the last token in it. -/
  | fragment (start : Nat) (text : Text) (last : Option Nat)
  | lines (buffer : LineBuffer)
  deriving DecidableEq, Inhabited

namespace Piece

/-- Number of lines. -/
def height : Piece → Nat
  | fragment _ _ _ => 1
  | lines b => b.height

/-- Whether the piece has one line. -/
def isSingleLine (p : Piece) : Bool :=
  p.height == 1

/-- Column at which the piece starts. -/
def start : Piece → Nat
  | fragment start _ _ => start
  | lines b => b.start

/-- Column of the cursor after the piece. -/
def endColumn : Piece → Nat
  | fragment start text _ => start + Text.width text
  | lines b => b.column

/-- Largest column that the piece reaches. -/
def width : Piece → Nat
  | fragment start text _ => start + Text.width text
  | lines b => b.width

/-- Whether what follows the piece must start a line. -/
def pendingBreak : Piece → Bool
  | fragment _ _ _ => false
  | lines b => b.pendingBreak

/-- The piece moved to another column, if it has one line. -/
def rebase? (column : Nat) : Piece → Option Piece
  | fragment _ text last => some (fragment column text last)
  | lines b => if b.height = 1 then some (lines (b.shifted column)) else none

/-- The text of the piece, with the first line moved to its column. -/
def text : Piece → Text
  | fragment start text _ => Text.spaces start ++ text
  | lines b => b.text

end Piece

namespace LineBuffer

/-- Appends the lines of another buffer that starts at the cursor. -/
def appendBuffer (b other : LineBuffer) : LineBuffer :=
  let joined :=
    match other.finished.reverse with
    | [] => { b with current := b.current ++ other.current, fresh := b.fresh && other.fresh }
    | first :: middle =>
      { b with
        finished := middle.reverse ++ (b.current ++ first) :: b.finished
        current := other.current
        fresh := other.fresh }
  { joined with
    column := other.column
    width := max b.width other.width
    pendingBreak := other.pendingBreak
    last := other.last.orElse fun _ => b.last }

/-- Appends a piece that starts at the cursor. -/
def append (piece : Piece) (b : LineBuffer) : LineBuffer :=
  match piece with
  | .fragment _ text last => (b.write text (Text.width text)).setLast last
  | .lines other => b.appendBuffer other

end LineBuffer
end SqlLayout
