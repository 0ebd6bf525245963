import SqlLayout.Text.Basic

/-!
# Whole numbers in decimal

Settings hold whole numbers below a bound: decimal digits with at most one plus sign before them. A
number that reaches the bound is no number of the setting.
-/

namespace SqlLayout.Number

/-- The bound of counts, columns and widths in settings. -/
def wordBound : Nat := 1 <<< 64

/-- The bound of small codes in settings. -/
def byteBound : Nat := 1 <<< 8

/-- Value of a digit. -/
def digitValue (c : Char) : Nat :=
  c.toNat - '0'.toNat

/-- Value of a text of digits. -/
def ofDigits (t : Text) : Nat :=
  t.foldl (fun n c => 10 * n + digitValue c) 0

/-- Reads digits, at least one, as a number. -/
def ofDigits? (t : Text) : Option Nat :=
  if t.isEmpty || !t.all Char.isDigit then none else some (ofDigits t)

/-- Reads a number below `bound`, with at most one plus sign before its digits. -/
def read? (bound : Nat) (t : Text) : Option Nat :=
  let digits := if t.head? = some '+' then t.tail else t
  (ofDigits? digits).filter (· < bound)

end SqlLayout.Number
