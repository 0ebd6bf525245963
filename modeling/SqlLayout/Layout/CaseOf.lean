import SqlLayout.Layout.Inline

/-!
# Layout of `CASE`

`CASE` with its operand, one branch a line, and `END`. Where the parts go is for the policy to say. To
line up the keywords `THEN`, the branches are laid out first up to that keyword, and the column past the
widest one is told to all of them.
-/

namespace SqlLayout.Sheet

variable {m : Type → Type} [Monad m] (sh : Sheet) (render : RenderIn m)

/-- Whether a kind is a branch of `CASE`. -/
def isBranch : NodeKind → Bool
  | .whenBranch | .elseBranch => true
  | _ => false

/-- Whether a child is the keyword `END`. -/
def isEnd (id : Nat) : Bool :=
  sh.tree.isLeafOf id (.keyword .END)

/-- Lays out statements on lines of their own. -/
def appendStatements (list : Nat) (ctx : Context) (column : Nat) (buf : LineBuffer) :
    m LineBuffer :=
  appendHere render list ctx (buf.newlineAt column)

/-! ### Branches -/

/-- Moves to where the keyword `THEN` goes. -/
def moveToThen (branch : Option (CasePhase × Option Nat)) (column : Nat) (buf : LineBuffer) :
    LineBuffer :=
  match branch, sh.policy.cases.thenPosition with
  | some (.normal, _), .newLine => buf.newlineAt (column + sh.indent)
  | some (.normal, some target), .aligned =>
    if buf.column < target && !buf.pendingBreak then buf.padTo target else buf.separate true
  | _, _ => buf.separate true

/-- The parts of a branch before its `THEN`. -/
def appendCondition (children : List Nat) (column : Nat) (buf : LineBuffer) : m LineBuffer :=
  let trailing := if sh.policy.cases.thenPosition = .afterWhen then 5 else 0
  sh.appendChildren render .whenBranch children (Context.child (column + sh.indent) trailing) buf

/-- The parts of a branch after its `THEN`. -/
def appendResult (parent : NodeKind) (children : List Nat) (ctx : Context) (column : Nat)
    (buf : LineBuffer) : m LineBuffer :=
  let inner := column + sh.indent
  children.foldlM
    (fun buf child =>
      if sh.tree.kind child = .statementList then appendStatements render child ctx inner buf
      else sh.appendChild render parent child (Context.child inner ctx.trailing) buf)
    buf

/-- A branch `WHEN … THEN …` that is not written on one line. -/
def brokenWhen (id : Nat) (ctx : Context) (column : Nat) : m LineBuffer := do
  let branch := ctx.caseBranch?
  let isThen := fun child => sh.tree.isLeafOf child (.keyword .THEN)
  let children := sh.visibleChildren id
  let condition := children.takeWhile (!isThen ·)
  let buf ← sh.appendCondition render condition column
    { LineBuffer.startingAt column with indentBase := column + sh.indent }
  match children.drop condition.length with
  | [] => return buf
  | keyword :: result =>
    if branch.any (·.1 = .measuring) then return buf
    else
      let buf ← appendHere render keyword ctx (sh.moveToThen branch column buf)
      sh.appendResult render .whenBranch result ctx column buf

/-- Whether a branch may be written on one line. -/
def whenMayInline (branch : Option (CasePhase × Option Nat)) : Bool :=
  match branch with
  | none | some (.linear, _) => true
  | some (.measuring, _) => false
  | some (.normal, _) => sh.policy.cases.thenPosition = .afterWhen

/-- A branch `WHEN … THEN …`. -/
def whenBranch (id : Nat) (ctx : Context) (column : Nat) : m Piece := do
  if sh.whenMayInline ctx.caseBranch? then
    sh.onOneLineOr render (sh.brokenWhen render id ctx column) id ctx column
  else return .lines (← sh.brokenWhen render id ctx column)

/-- A branch `ELSE …`. -/
def elseBranch (id : Nat) (ctx : Context) (column : Nat) : m Piece :=
  let start := { LineBuffer.startingAt column with indentBase := column + sh.indent }
  let broken := sh.appendResult render .elseBranch (sh.visibleChildren id) ctx column start
  sh.onOneLineOr render broken id ctx column

/-! ### The whole of `CASE` -/

/-- Column at which the branches `WHEN` start, given what has been written before them. -/
def whenColumn (column : Nat) (buf : LineBuffer) : Nat :=
  match sh.policy.cases.whenPosition with
  | .underCase => column
  | .indented => column + sh.indent
  | .afterCase => if buf.pendingBreak then column + sh.indent else buf.column + 1

/-- The larger of a column and one that may be missing. -/
def widest (known : Option Nat) (column : Nat) : Option Nat :=
  some (known.elim column (max column))

/-- Column past the widest of the conditions that stand on one line, if there is one. -/
def thenColumn? (branches : List Nat) (column : Nat) : m (Option Nat) := do
  let probe := { Context.indentedAt column with overlay := .caseBranch .measuring none }
  let conditions := branches.filter fun b => sh.tree.kind b == .whenBranch
  let end? ← conditions.foldlM
    (fun known branch => do
      let head ← render branch probe column
      return if head.isSingleLine then widest known head.endColumn else known)
    none
  return end?.map (· + 1)

/-- Moves to where `END` goes. -/
def moveToEnd (isStatement : Bool) (column whenColumn : Nat) (buf : LineBuffer) : LineBuffer :=
  if isStatement then buf.newlineAt column
  else
    match sh.policy.cases.endPosition with
    | .underCase => buf.newlineAt column
    | .underWhen => buf.newlineAt whenColumn
    | .sameLine => buf.separate true

/-- What the parts of a `CASE` after its operand need to know. -/
structure CaseFrame where
  ctx : Context
  column : Nat
  whenColumn : Nat
  thenColumn : Option Nat
  /-- Whether the `CASE` is a statement. -/
  isStatement : Bool
  /-- The keyword `END`, if there is one. -/
  endLeaf : Option Nat

/-- Column at which a branch starts. -/
def branchColumn (frame : CaseFrame) (kind : NodeKind) : Nat :=
  if kind = .elseBranch ∧ sh.policy.cases.elsePosition = .underThen then
    frame.thenColumn.getD (frame.whenColumn + sh.indent)
  else frame.whenColumn

/-- Columns that follow a branch on its line: those of an `END` that stands there. -/
def branchTrailing (frame : CaseFrame) (isLast : Bool) : Nat :=
  match frame.endLeaf with
  | some leaf =>
    if !frame.isStatement && sh.policy.cases.endPosition == .sameLine && isLast then
      1 + sh.measured leaf + frame.ctx.trailing
    else 0
  | none => 0

/-- Lays out one branch; the first one may stay on the line of `CASE`. -/
def appendBranch (frame : CaseFrame) (branch : Nat) (isFirst isLast : Bool) (buf : LineBuffer) :
    m LineBuffer :=
  let kind := sh.tree.kind branch
  let column := sh.branchColumn frame kind
  let stays :=
    isFirst && kind == .whenBranch && sh.policy.cases.whenPosition == .afterCase
      && !buf.pendingBreak
  let buf := if stays then buf.padTo frame.whenColumn else buf.newlineAt column
  let ctx :=
    { Context.child column (sh.branchTrailing frame isLast) with
      overlay := .caseBranch .normal frame.thenColumn }
  appendHere render branch ctx buf

/--
The branches of a `CASE`, its `END` and what follows. `isFirst` says that no branch has been laid out
yet, and `ended` that `END` has.
-/
def appendParts (frame : CaseFrame) : (isFirst ended : Bool) → List Nat → LineBuffer →
    m LineBuffer
  | _, _, [], buf => return buf
  | isFirst, ended, child :: rest, buf => do
    if !ended && sh.isEnd child then
      let buf := sh.moveToEnd frame.isStatement frame.column frame.whenColumn buf
      appendParts frame isFirst true rest (← appendHere render child frame.ctx buf)
    else if isBranch (sh.tree.kind child) then
      let isLast := !rest.any fun c => isBranch (sh.tree.kind c)
      appendParts frame false ended rest
        (← sh.appendBranch render frame child isFirst isLast buf)
    else
      let ctx := Context.child frame.column (if ended then frame.ctx.trailing else 0)
      appendParts frame isFirst ended rest (← sh.appendChild render .caseOf child ctx buf)

/-- `CASE` with one branch a line. -/
def brokenCase (id : Nat) (ctx : Context) (column : Nat) : m LineBuffer := do
  let children := sh.visibleChildren id
  let head := children.takeWhile fun c => !(isBranch (sh.tree.kind c) || sh.isEnd c)
  let parts := children.drop head.length
  let buf ← sh.appendChildren render .caseOf head (Context.child column 0)
    { LineBuffer.startingAt column with indentBase := column + sh.indent }
  let whenColumn := sh.whenColumn column buf
  let thenColumn ←
    if sh.policy.cases.thenPosition = .aligned then sh.thenColumn? render parts whenColumn
    else pure none
  let frame : CaseFrame :=
    { ctx := ctx
      column := column
      whenColumn := whenColumn
      thenColumn := thenColumn
      isStatement := sh.tree.kind id == .caseStatement
      endLeaf := parts.find? sh.isEnd }
  sh.appendParts render frame true false parts buf

/-- A `CASE` expression or statement; a statement never stands on one line. -/
def caseOf (id : Nat) (ctx : Context) (column : Nat) : m Piece := do
  if sh.tree.kind id = .caseStatement then
    return .lines (← sh.brokenCase render id ctx column)
  else sh.onOneLineOr render (sh.brokenCase render id ctx column) id ctx column

end SqlLayout.Sheet
