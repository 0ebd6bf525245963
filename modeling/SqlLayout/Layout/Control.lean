import SqlLayout.Layout.Inline

/-!
# Layout of blocks, conditionals and loops

Their keywords stand at the column of the construct and their statements one indent deeper. A label
stands on a line of its own, and the handlers of a block one a line.
-/

namespace SqlLayout.Sheet

variable {m : Type → Type} [Monad m] (sh : Sheet) (render : RenderIn m)

/-- Columns that follow a child of a construct on its line: those of a keyword, or what is close. -/
def controlTrailing (kind : NodeKind) (child : Nat) (rest : List Nat) : Nat :=
  match rest with
  | next :: _ =>
    if sh.isKeywordLeaf next then 1 + sh.measured next else sh.gluedTrailing kind 0 child rest
  | [] => 0

/-- Whether a child of a construct starts a line at the column of the construct. -/
def startsControlLine (kind : NodeKind) : Bool :=
  kind == .declareSection || kind == .exceptionSection || kind == .conditionalBranch

/-- Lays out the children of a construct; `afterLabel` says that a label stands before them. -/
def appendControl (kind : NodeKind) (column : Nat) :
    (afterLabel : Bool) → List Nat → LineBuffer → m LineBuffer
  | _, [], buf => return buf
  | afterLabel, child :: rest, buf => do
    let inner := column + sh.indent
    let childKind := sh.tree.kind child
    let here := Context.indentedAt column
    if childKind = .comment then
      appendControl kind column afterLabel rest (sh.appendComment child buf)
    else
      let buf := if afterLabel then buf.beginLineAt column else buf
      if childKind = .statementList then
        let buf ← appendHere render child (Context.indentedAt inner) (buf.newlineAt inner)
        appendControl kind column false rest buf
      else if startsControlLine childKind then
        let buf ← appendHere render child here (buf.beginLineAt column)
        appendControl kind column false rest buf
      else if sh.tree.isLeafOf child (.keyword .BEGIN) || sh.tree.isLeafOf child (.keyword .END) then
        let buf ← sh.appendChild render kind child here (buf.beginLineAt column)
        appendControl kind column false rest buf
      else
        let ctx := Context.child column (sh.controlTrailing kind child rest)
        let buf ← sh.appendChild render kind child ctx buf
        let isLabelEnd :=
          sh.isLeaf child && sh.tree.tokens.isLabelClose (sh.tree.firstToken child)
        appendControl kind column isLabelEnd rest buf

/-- A block, a conditional, a branch of one, or a loop. -/
def control (id column : Nat) : m Piece := do
  let start := { LineBuffer.startingAt column with indentBase := column + sh.indent }
  return .lines
    (← sh.appendControl render (sh.tree.kind id) column false (sh.visibleChildren id) start)

/-- The handlers of a block, one a line. -/
def exceptionSection (id column : Nat) : m Piece := do
  let inner := column + sh.indent
  let buf ← (sh.visibleChildren id).foldlM
    (fun buf child =>
      if sh.tree.kind child = .whenBranch then
        appendHere render child (Context.indentedAt inner) (buf.newlineAt inner)
      else
        sh.appendChild render .exceptionSection child (Context.indentedAt column) buf)
    { LineBuffer.startingAt column with indentBase := inner }
  return .lines buf

end SqlLayout.Sheet
