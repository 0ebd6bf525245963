import SqlLayout.Layout.Buffer
import SqlLayout.Number.Decimal

/-!
# Columns out of bounds

Columns are words, and a text has a largest size, but settings may be any words. A layout stops where a
sum of columns is no word, and where a line has no room for the spaces that it is to be filled with.
-/

namespace SqlLayout

/-- Why a layout stops. -/
inductive LayoutFault where
  /-- A sum of columns is no word. -/
  | overflow
  /-- A line has no room for spaces. -/
  | capacity
  deriving DecidableEq

/-- The fault in words. -/
def LayoutFault.message : LayoutFault → String
  | overflow => "attempt to add with overflow"
  | capacity => "capacity overflow"

/-- The bound of the bytes of a text. -/
def Text.sizeBound : Nat := 1 <<< 63

/-- The fault of filling the current line of a buffer with spaces up to a column. -/
def LineBuffer.padFault? (column : Nat) (b : LineBuffer) : Option LayoutFault :=
  if Text.sizeBound ≤ Text.byteLength b.current + (column - b.column) then some .capacity else none

/--
The fault of a finished piece: its lines are indented from a column that is no word, or one of them
starts so far right that it has no room for its indentation.
-/
def Piece.fault? : Piece → Option LayoutFault
  | fragment _ _ _ => none
  | lines b =>
    if Number.wordBound ≤ b.lineIndent then some .overflow
    else if Text.sizeBound ≤ b.width then some .capacity
    else none

end SqlLayout
