import SqlLayout.Tree.Kind

/-!
# Layout contexts

What a node is told by its parent when it is laid out, besides the column at which it starts. Two
layouts of a node under equal contexts at one column are the same, so pieces can be kept under them.
-/

namespace SqlLayout

/-- How far the branches of a `CASE` are being laid out. -/
inductive CasePhase where
  | linear
  /-- Only up to `THEN`, to find the widest condition. -/
  | measuring
  | normal
  deriving DecidableEq, Inhabited

/-- Offsets of the parts of declarations from the column at which each declaration starts. -/
structure AlignmentOffsets where
  name : Option Nat := none
  dataType : Option Nat := none
  defaultIndicator : Option Nat := none
  defaultValue : Option Nat := none
  deriving DecidableEq, Inhabited

namespace AlignmentOffsets

/-- The offset of a part; a part without one follows the part before it. -/
def get (o : AlignmentOffsets) : PartRole → Option Nat
  | .name => o.name
  | .dataType => o.dataType
  | .defaultIndicator => o.defaultIndicator
  | .defaultValue => o.defaultValue
  | .mode | .constraint => none

/-- Sets the offset of a part. -/
def set (o : AlignmentOffsets) (role : PartRole) (offset : Option Nat) : AlignmentOffsets :=
  match role with
  | .name => { o with name := offset }
  | .dataType => { o with dataType := offset }
  | .defaultIndicator => { o with defaultIndicator := offset }
  | .defaultValue => { o with defaultValue := offset }
  | .mode | .constraint => o

/-- Whether no part has an offset. -/
def isEmpty (o : AlignmentOffsets) : Bool :=
  o == {}

end AlignmentOffsets

/-- What only the direct children of a construct are told. -/
inductive Overlay where
  | none
  /-- A branch of a `CASE`, with the column at which `THEN` lines up. -/
  | caseBranch (phase : CasePhase) (thenColumn : Option Nat)
  | declarations (offsets : AlignmentOffsets)
  deriving DecidableEq, Inhabited

/-- What a node is told by its parent. -/
structure Context where
  /-- Column of the surrounding construct, from which further lines are indented. -/
  indent : Nat := 0
  /-- Columns that the parent still writes after the node on its last line. -/
  trailing : Nat := 0
  /-- Whether the node is the content of a group in round brackets. -/
  inParens : Bool := false
  overlay : Overlay := .none
  deriving DecidableEq, Inhabited

namespace Context

/-- A context for a child, which is told nothing but its indentation and what follows. -/
def child (indent trailing : Nat) : Context :=
  { indent := indent, trailing := trailing }

/-- A context with nothing but an indentation. -/
def indentedAt (indent : Nat) : Context :=
  { indent := indent }

/-- What a branch of a `CASE` is told, if the node is one. -/
def caseBranch? (c : Context) : Option (CasePhase × Option Nat) :=
  match c.overlay with
  | .caseBranch phase thenColumn => some (phase, thenColumn)
  | _ => Option.none

/-- The offsets of the parts, if the node is a declaration. -/
def offsets? (c : Context) : Option AlignmentOffsets :=
  match c.overlay with
  | .declarations offsets => some offsets
  | _ => Option.none

end Context
end SqlLayout
