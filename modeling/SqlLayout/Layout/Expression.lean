import SqlLayout.Layout.Inline

/-!
# Layout of leaves, expressions and groups

Leaves are written in the letter case of their role, error nodes as they stand after a comment that says
what is wrong. An expression that does not fit on one line is filled onto several, which break before
logical operators. A group in round brackets has its content after the bracket or on lines of its own;
of two layouts the one with fewer lines is taken, and then the narrower one.
-/

namespace SqlLayout.Sheet

variable {m : Type → Type} [Monad m] (sh : Sheet) (render : RenderIn m)

/-! ### Leaves -/

/-- A leaf from a column on. -/
def leaf (id : Nat) (role : LeafRole) (column : Nat) : Piece :=
  let i := sh.tree.firstToken id
  let text := sh.leafText id role
  if text.contains '\n' then
    .lines (((LineBuffer.startingAt column).pushVerbatim text).setLast (some i))
  else .fragment column text (some i)

/-- A comment from a column on. -/
def comment (id column : Nat) : Piece :=
  .lines (sh.appendComment id (LineBuffer.startingAt column))

/-- How the comment before an error node starts. -/
def errorMark : String := "/* syntax error:"

/-- Parts the ends of block comments, so that a text can stand inside one. -/
def partCommentEnds : Text → Text
  | '*' :: '/' :: rest => '*' :: ' ' :: '/' :: partCommentEnds rest
  | c :: rest => c :: partCommentEnds rest
  | [] => []

/-- Whether a comment that says what is wrong stands before an error node already. -/
def isAnnotated (id : Nat) : Bool :=
  let ts := sh.tree.tokens
  (ts.findBackward (!·.isWhitespace) (sh.tree.firstToken id)).any fun i =>
    ts.kind i == .blockComment && errorMark.toList.isPrefixOf (ts.text i)

/-- The source of an error node, after a comment that says what is wrong. -/
def errorPiece (id column : Nat) : Piece :=
  let message := (sh.tree.error? id).elim "invalid input".toList SyntaxError.message
  let buf := LineBuffer.startingAt column
  let buf :=
    if sh.isAnnotated id then buf
    else
      buf.push (errorMark.toList ++ [' '] ++ partCommentEnds message ++ " */ ".toList)
  .lines ((buf.pushVerbatim (sh.tree.sourceText id)).setLast (some (sh.tree.lastToken id)))

/-! ### Expressions -/

/-- Whether a node is a logical operator. -/
def isLogical (id : Nat) : Bool :=
  sh.tree.isLeafOf id (.keyword .AND) || sh.tree.isLeafOf id (.keyword .OR)

/-- Whether children form `BETWEEN … AND …`, whose `AND` is no logical operator. -/
def isBetween (children : List Nat) : Bool :=
  children.head?.any fun first => sh.tree.isLeafOf first (.keyword .BETWEEN)

/--
Breaks the line before a child of an expression if the child is a logical operator or does not fit.
-/
def breakBeforeOperand (parent : NodeKind) (children : List Nat) (continuation child trailing : Nat)
    (buf : LineBuffer) : LineBuffer :=
  if sh.policy.queries.breakBeforeLogical && sh.isLogical child && !sh.isBetween children then
    buf.newline
  else if sh.spaceAfterLast parent child buf && continuation < buf.column
      && sh.tree.kind child != .parenthesized
      && (sh.measure child).any fun width =>
        decide (sh.lineWidth < buf.column + 1 + width + trailing) then
    buf.newline
  else buf

/-- Operands and operators filled onto lines. -/
def brokenExpression (id : Nat) (ctx : Context) (column : Nat) : m LineBuffer :=
  let kind := sh.tree.kind id
  let continuation := ctx.indent + sh.indent
  let children := sh.visibleChildren id
  (withRest children).zipIdx.foldlM
    (fun buf ((child, rest), i) =>
      if sh.isComment child then return sh.appendComment child buf
      else
        let trailing := sh.gluedTrailing kind ctx.trailing child rest
        let buf :=
          if 0 < i && !buf.fresh && !buf.pendingBreak then
            sh.breakBeforeOperand kind children continuation child trailing buf
          else buf
        sh.appendChild render kind child (Context.child ctx.indent trailing) buf)
    { LineBuffer.startingAt column with indentBase := continuation }

/-- An expression, a list element or a part of a declaration. -/
def expression (id : Nat) (ctx : Context) (column : Nat) : m Piece :=
  sh.onOneLineOr render (sh.brokenExpression render id ctx column) id ctx column

/-- The name of a function with its arguments. -/
def brokenCall (id : Nat) (ctx : Context) (column : Nat) : m LineBuffer :=
  (withRest (sh.visibleChildren id)).foldlM
    (fun buf (child, rest) =>
      let trailing := if rest.isEmpty then ctx.trailing else 0
      sh.appendChild render .functionCall child (Context.child ctx.indent trailing) buf)
    { LineBuffer.startingAt column with indentBase := ctx.indent + sh.indent }

/-- A call. -/
def functionCall (id : Nat) (ctx : Context) (column : Nat) : m Piece :=
  sh.onOneLineOr render (sh.brokenCall render id ctx column) id ctx column

/-! ### Groups -/

/-- Where the content and the closing bracket of a broken group go. -/
structure Placement where
  /-- Column of a new line for the content; without one, it follows the bracket. -/
  content : Option Nat
  /-- Column of a line for the closing bracket; without one, it follows the content. -/
  close : Option Nat

/-- Depth of brackets from which on only one layout of a group is tried. -/
def maxSpeculativeDepth : Nat := 4

/-- The closing bracket of a group, if it ends with one. -/
def closingParen? (children : List Nat) : Option Nat :=
  children.getLast?.filter fun c => sh.tree.isLeafOf c .rParen

/-- The content of a group, which starts on its line before the first child. -/
def groupContent (placement : Placement) (ctx : Context) :
    (isFirst : Bool) → List Nat → LineBuffer → m LineBuffer
  | _, [], buf => return buf
  | isFirst, child :: rest, buf => do
    let buf :=
      match isFirst, placement.content with
      | true, some start => buf.beginLineAt start
      | _, _ => buf
    groupContent placement ctx false rest (← sh.appendChild render .parenthesized child ctx buf)

/-- The closing bracket of a group after its content. -/
def groupClose (placement : Placement) (close : Nat) (ctx : Context) (column : Nat)
    (buf : LineBuffer) : m LineBuffer :=
  let buf :=
    match placement.close with
    | some column => buf.newlineAt column
    | none => if buf.pendingBreak then buf.newlineAt column else buf
  appendHere render close ctx buf

/-- A group with its content and closing bracket placed. -/
def placedGroup (placement : Placement) (id : Nat) (ctx : Context) (column : Nat) :
    m LineBuffer := do
  let children := sh.visibleChildren id
  let closing := sh.closingParen? children
  let contentColumn := placement.content.getD (column + 1)
  let trailing := if placement.close.isNone && closing.isSome then 1 + ctx.trailing else 0
  let contentCtx := { Context.child contentColumn trailing with inParens := true }
  let opening := (children.take 1).filter fun c => sh.tree.isLeafOf c .lParen
  let inner := children.drop opening.length
  let content := inner.filter fun c => some c != closing
  let buf ← sh.appendChildren render .parenthesized opening ctx
    { LineBuffer.startingAt column with indentBase := contentColumn }
  let buf ← sh.groupContent render placement contentCtx true content buf
  match closing with
  | some close => groupClose render placement close ctx column buf
  | none => return buf

/-- Whether a layout is better than another: it has fewer lines, or as many and is narrower. -/
def isBetter (b c : LineBuffer) : Bool :=
  b.height < c.height || (b.height == c.height && b.width < c.width)

/-- A group that does not fit on one line. -/
def brokenGroup (id : Nat) (ctx : Context) (column : Nat) : m LineBuffer := do
  let ownLineClose := sh.policy.closingParen = .ownLine
  match sh.policy.lists.parens with
  | .ownLines =>
    sh.placedGroup render ⟨some (ctx.indent + sh.indent), some ctx.indent⟩ id ctx column
  | .glued =>
    let under ← sh.placedGroup render
      ⟨none, if ownLineClose then some column else none⟩ id ctx column
    let depth := (sh.tree.tokens.get (sh.tree.firstToken id)).parenLevel
    if maxSpeculativeDepth ≤ depth then return under
    else
      let indented ← sh.placedGroup render
        ⟨some (ctx.indent + 2 * sh.indent),
          if ownLineClose then some (ctx.indent + sh.indent) else none⟩ id ctx column
      return if isBetter indented under then indented else under

/-- A group in round brackets. -/
def group (id : Nat) (ctx : Context) (column : Nat) : m Piece :=
  sh.onOneLineOr render (sh.brokenGroup render id ctx column) id ctx column

end SqlLayout.Sheet
