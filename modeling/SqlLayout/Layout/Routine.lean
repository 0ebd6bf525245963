import SqlLayout.Layout.Inline

/-!
# Layout of routines and tables

The attributes of a routine follow its arguments on one line if they fit there with the opening of the
body, and stand one a line else; the statements of the body start at the column of the routine.
-/

namespace SqlLayout.Sheet

variable {m : Type → Type} [Monad m] (sh : Sheet) (render : RenderIn m)

/-- Lays out children, each told the width of what stands close after it. -/
def appendGlued (parent : NodeKind) (ctx : Context) (indent : Nat) (children : List Nat)
    (buf : LineBuffer) : m LineBuffer :=
  (withRest children).foldlM
    (fun buf (child, rest) =>
      let trailing := sh.gluedTrailing parent ctx.trailing child rest
      sh.appendChild render parent child (Context.child indent trailing) buf)
    buf

/-- Whether a node fits after the cursor, a space, and columns to follow it. -/
def fitsAfter (child trailing : Nat) (buf : LineBuffer) : Bool :=
  (sh.measure child).any fun width => decide (buf.column + 1 + width + trailing ≤ sh.lineWidth)

/-! ### Routines -/

/-- Whether a kind is an attribute of a routine. -/
def isAttribute (kind : NodeKind) : Bool :=
  kind == .clause || kind == .functionBody || kind.isError

/-- Width of the leaves that open a body, if nothing else stands before its statements. -/
def bodyOpeningWidth? : (isFirst : Bool) → List Nat → Option Nat
  | _, [] => some 0
  | isFirst, child :: rest =>
    if sh.tree.kind child = .statementList then some 0
    else if !sh.isLeaf child then none
    else
      let space := if isFirst then 0 else 1
      (bodyOpeningWidth? false rest).map (Text.width (sh.tree.leafText child) + space + ·)

/-- Width of the attributes before the body and of its opening, each after a space. -/
def attributesWidth? (attributes : List Nat) (body : Option Nat) : Option Nat :=
  let opening :=
    match body with
    | none => some 0
    | some body => (sh.bodyOpeningWidth? true (sh.visibleChildren body)).map (1 + ·)
  attributes.foldr
    (fun attr total =>
      match sh.measure attr, total with
      | some width, some total => some (1 + width + total)
      | _, _ => none)
    opening

/-- Lays out what follows the arguments of a routine; `afterBody` says that the body has been. -/
def appendAttributes (ctx : Context) (column : Nat) (isInline : Bool) :
    (afterBody : Bool) → List Nat → LineBuffer → m LineBuffer
  | _, [], buf => return buf
  | afterBody, child :: rest, buf => do
    let kind := sh.tree.kind child
    let inner := column + sh.indent
    let trailing := sh.gluedTrailing .functionDefinition ctx.trailing child rest
    let isBroken := isAttribute kind && !isInline && !afterBody
    let breaks := isBroken || (isAttribute kind && afterBody && !sh.fitsAfter child trailing buf)
    let buf := if breaks then buf.newlineAt inner else buf
    let indent := if isBroken && kind != .functionBody then inner else column
    let buf ← sh.appendChild render .functionDefinition child (Context.child indent trailing) buf
    appendAttributes ctx column isInline (afterBody || kind == .functionBody) rest buf

/-- The definition of a routine on several lines. -/
def brokenRoutine (id : Nat) (ctx : Context) (column : Nat) : m LineBuffer := do
  let children := sh.visibleChildren id
  let header := children.takeWhile fun c => !isAttribute (sh.tree.kind c)
  let tail := children.drop header.length
  let isBody := fun c => sh.tree.kind c == .functionBody
  let attributes := (tail.takeWhile (!isBody ·)).filter fun c => sh.tree.kind c == .clause
  let buf ← sh.appendChildren render .functionDefinition header (Context.child column 0)
    { LineBuffer.startingAt column with indentBase := column + sh.indent }
  let isInline := (sh.attributesWidth? attributes (tail.find? isBody)).any fun width =>
    !buf.pendingBreak && decide (buf.column + width ≤ sh.lineWidth)
  sh.appendAttributes render ctx column isInline false tail buf

/-- The definition of a function or procedure. -/
def routineDefinition (id : Nat) (ctx : Context) (column : Nat) : m Piece :=
  sh.onOneLineOr render (sh.brokenRoutine render id ctx column) id ctx column

/-- The body of a routine: its statements on lines of their own between the delimiters. -/
def brokenBody (id : Nat) (ctx : Context) (column : Nat) : m LineBuffer :=
  (withRest (sh.visibleChildren id)).foldlM
    (fun buf (child, rest) =>
      if sh.tree.kind child = .statementList then
        appendHere render child (Context.indentedAt ctx.indent) (buf.newlineAt ctx.indent)
      else if sh.tree.isLeafOf child .bodyClose then
        appendHere render child ctx (buf.newlineAt ctx.indent)
      else
        let trailing := sh.gluedTrailing .functionBody ctx.trailing child rest
        sh.appendChild render .functionBody child (Context.child ctx.indent trailing) buf)
    { LineBuffer.startingAt column with indentBase := ctx.indent }

/-- The body of a routine. -/
def routineBody (id : Nat) (ctx : Context) (column : Nat) : m Piece :=
  sh.onOneLineOr render (sh.brokenBody render id ctx column) id ctx column

/-- `DO` with a body. -/
def doBlock (id : Nat) (ctx : Context) (column : Nat) : m Piece := do
  let start := { LineBuffer.startingAt column with indentBase := column + sh.indent }
  return .lines (← sh.appendGlued render .doBlock ctx column (sh.visibleChildren id) start)

/-! ### Tables -/

/-- Lays out a table; `afterColumns` says that its columns have been. -/
def appendTableParts (ctx : Context) (column : Nat) :
    (afterColumns : Bool) → List Nat → LineBuffer → m LineBuffer
  | _, [], buf => return buf
  | afterColumns, child :: rest, buf => do
    let kind := sh.tree.kind child
    let trailing := sh.gluedTrailing .tableDefinition ctx.trailing child rest
    let breaks :=
      afterColumns && (kind == .clause || kind.isError)
        && (!sh.fitsAfter child trailing buf || buf.pendingBreak)
    let buf := if breaks then buf.newlineAt (column + sh.indent) else buf
    let buf ← sh.appendChild render .tableDefinition child (Context.child column trailing) buf
    appendTableParts ctx column (afterColumns || kind == .declarationList) rest buf

/-- The definition of a table. -/
def tableDefinition (id : Nat) (ctx : Context) (column : Nat) : m Piece :=
  let start := { LineBuffer.startingAt column with indentBase := column + sh.indent }
  let broken := sh.appendTableParts render ctx column false (sh.visibleChildren id) start
  sh.onOneLineOr render broken id ctx column

end SqlLayout.Sheet
