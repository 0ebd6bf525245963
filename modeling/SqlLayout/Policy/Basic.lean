import SqlLayout.Number.Single
import SqlLayout.Text.LetterCase
import SqlLayout.Tree.Kind

/-!
# Layout policies

Everything about a layout that can be chosen: widths and limits with their weights, letter case, where
commas, brackets and the parts of `CASE` go, and how the parts of declarations line up.
-/

namespace SqlLayout

open Number (Single)

/-- Letter case of keywords, function names and type names. -/
inductive LetterCase where
  | unchanged
  | lower
  | upper
  | capitalize
  deriving DecidableEq, Inhabited

namespace LetterCase

/-- The letter case with a code. -/
def ofCode? : Nat → Option LetterCase
  | 0 => some unchanged
  | 1 => some lower
  | 2 => some upper
  | 3 => some capitalize
  | _ => none

/-- A text in a letter case. -/
def apply : LetterCase → Text → Text
  | unchanged, t => t
  | lower, t => Text.toLower t
  | upper, t => Text.toUpper t
  | capitalize, t => Text.capitalize t

end LetterCase

/-- A value with the weight it has when limits conflict. -/
structure Weighted (α : Type) where
  value : α
  weight : Single
  deriving DecidableEq, Inhabited

/-- A limit that may be unset; an unset one restricts nothing. -/
abbrev Limit := Weighted (Option Nat)

/-- An unset limit. -/
def Limit.unset : Limit := ⟨none, .one⟩

/-- Where the further lines of a broken list start. -/
inductive ListIndent where
  /-- One indent past the surrounding construct. -/
  | indent
  | doubleIndent
  /-- Under the first element. -/
  | align
  /-- At the column of the surrounding construct. -/
  | subsequent
  deriving DecidableEq, Inhabited

/-- On which side of a line break a comma stands. -/
inductive CommaPosition where
  | before
  | after
  deriving DecidableEq, Inhabited

/-- How a group in round brackets is laid out when it does not fit on one line. -/
inductive ParenLayout where
  /-- The bracket stays on the line before, and the content follows it or starts an indented line. -/
  | glued
  /-- The content stands on indented lines of its own. -/
  | ownLines
  deriving DecidableEq, Inhabited

/-- Where the closing bracket of a broken group stands. -/
inductive ClosingParen where
  | sameLine
  | ownLine
  deriving DecidableEq, Inhabited

/-- Where `WHEN` stands. -/
inductive WhenPosition where
  | underCase
  | indented
  | afterCase
  deriving DecidableEq, Inhabited

/-- Where `THEN` stands. -/
inductive ThenPosition where
  | afterWhen
  /-- One column past the longest condition. -/
  | aligned
  | newLine
  deriving DecidableEq, Inhabited

/-- Where `ELSE` stands. -/
inductive ElsePosition where
  | underWhen
  | underThen
  deriving DecidableEq, Inhabited

/-- Where `END` stands. -/
inductive EndPosition where
  | underCase
  | underWhen
  | sameLine
  deriving DecidableEq, Inhabited

/-- The column of one part of a declaration. -/
inductive ColumnAlignment where
  /-- Right after the part before. -/
  | subsequent
  /-- At a column counted from the start of the line. -/
  | fixed (column : Nat)
  /-- At a common offset of all declarations of a list, between two bounds. -/
  | vertical (low high : Nat) (ordered : low ≤ high)
  deriving DecidableEq, Inhabited

namespace ColumnAlignment

/-- A common offset without bounds. -/
def unbounded : ColumnAlignment :=
  .vertical 0 (Number.wordBound - 1) (Nat.zero_le _)

/-- Whether declarations share an offset. -/
def isVertical : ColumnAlignment → Bool
  | vertical _ _ _ => true
  | _ => false

end ColumnAlignment

/-- Choices for lists with commas. -/
structure ListPolicy where
  indent : ListIndent := .align
  comma : CommaPosition := .after
  maxLine : Limit := .unset
  maxGroup : Limit := .unset
  maxPerGroup : Limit := .unset
  parens : ParenLayout := .glued
  deriving DecidableEq, Inhabited

/-- Choices for queries. -/
structure QueryPolicy where
  /-- Whether the keywords of a clause stand on a line of their own. -/
  keywordsOnOwnLine : Bool := false
  maxLine : Limit := .unset
  /-- Whether lines break before and not after logical operators. -/
  breakBeforeLogical : Bool := true
  deriving DecidableEq, Inhabited

/-- Choices for `CASE`. -/
structure CasePolicy where
  whenPosition : WhenPosition := .indented
  thenPosition : ThenPosition := .afterWhen
  elsePosition : ElsePosition := .underWhen
  endPosition : EndPosition := .underCase
  deriving DecidableEq, Inhabited

/-- Choices for the parts of declarations. -/
structure ArgumentPolicy where
  name : ColumnAlignment := .subsequent
  dataType : ColumnAlignment := .subsequent
  defaultIndicator : ColumnAlignment := .subsequent
  defaultValue : ColumnAlignment := .subsequent
  deriving DecidableEq, Inhabited

namespace ArgumentPolicy

/-- The alignment of a part. -/
def forRole (p : ArgumentPolicy) : PartRole → ColumnAlignment
  | .name => p.name
  | .dataType => p.dataType
  | .defaultIndicator => p.defaultIndicator
  | .defaultValue => p.defaultValue
  | .mode | .constraint => .subsequent

/-- Whether every part stands right after the one before. -/
def isSubsequent (p : ArgumentPolicy) : Bool :=
  p == {}

end ArgumentPolicy

/-- All choices for a layout. -/
structure Policy where
  lineWidth : Weighted Nat := ⟨80, .one⟩
  /-- Columns of one indent. -/
  indentSize : Nat := 4
  keywordCase : LetterCase := .upper
  functionCase : LetterCase := .unchanged
  typeCase : LetterCase := .lower
  lists : ListPolicy := {}
  closingParen : ClosingParen := .sameLine
  queries : QueryPolicy := {}
  cases : CasePolicy := {}
  arguments : ArgumentPolicy := {}
  removeComments : Bool := false
  /-- Whether the output ends without a line feed. -/
  noFinalNewline : Bool := false
  /-- Whether no empty line stands between statements on the top level. -/
  noBlankLines : Bool := false
  deriving DecidableEq, Inhabited

/-- A quantity with the limit that it is measured against. -/
structure Threshold where
  actual : Nat
  limit : Nat
  weight : Single
  deriving DecidableEq, Inhabited

namespace Threshold

/-- The threshold of a quantity at a limit. -/
def of (actual : Nat) (limit : Weighted Nat) : Threshold :=
  ⟨actual, limit.value, limit.weight⟩

/-- The thresholds of a quantity at a limit that may be unset: at most one. -/
def ofLimit (actual : Nat) (limit : Limit) : List Threshold :=
  (limit.value.map fun value => ⟨actual, value, limit.weight⟩).toList

/-- Whether the quantity is within its limit. -/
def isWithin (t : Threshold) : Bool :=
  t.actual ≤ t.limit

/-- The largest weight among thresholds. -/
def topWeight (ts : List Threshold) : Single :=
  ts.foldl (fun top t => top.max t.weight) .negInfinity

/-- Whether the thresholds with the largest weight are all kept; without thresholds, they are. -/
def allow (ts : List Threshold) : Bool :=
  (ts.filter fun t => t.weight.ge (topWeight ts)).all isWithin

end Threshold
end SqlLayout
