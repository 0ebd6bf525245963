import SqlLayout.Layout.Inline

/-!
# Layout of statements

Statements on the top level are separated by an empty line unless the policy says otherwise; those of a
routine body stand one a line. A statement that does not fit on one line has one clause a line, and a
clause its keywords before its body or on a line of their own.
-/

namespace SqlLayout.Sheet

variable {m : Type → Type} [Monad m] (sh : Sheet) (render : RenderIn m)

/-! ### Several statements -/

/-- What was last written on the top level. -/
inductive TopEntry where
  | nothing
  | statement
  | comment
  deriving DecidableEq

/-- The gap between two statements on the top level. -/
def statementGap (buf : LineBuffer) : LineBuffer :=
  let buf := buf.newlineAt 0
  if sh.policy.noBlankLines then buf else buf.newlineAt 0

/-- Moves to where a comment on the top level goes. -/
def gapBeforeComment (previous : TopEntry) (ownLine : Bool) (buf : LineBuffer) : LineBuffer :=
  match previous, ownLine with
  | .statement, true => sh.statementGap buf
  | .comment, true => buf.newlineAt 0
  | _, _ => buf

/-- Moves to where a statement on the top level goes. -/
def gapBeforeStatement (previous : TopEntry) (buf : LineBuffer) : LineBuffer :=
  match previous with
  | .nothing => buf
  | .statement => sh.statementGap buf
  | .comment => if buf.pendingBreak then buf.newlineAt 0 else buf.pushSpace

/-- The entries of the top level after the one before them. -/
def appendTopEntries : TopEntry → List Nat → LineBuffer → m LineBuffer
  | _, [], buf => return buf
  | previous, child :: rest, buf => do
    if sh.isComment child then
      let ownLine := sh.tree.tokens.startsLine (sh.tree.firstToken child)
      let buf := sh.appendComment child (sh.gapBeforeComment previous ownLine buf)
      let entry := if ownLine || previous = .nothing then .comment else previous
      appendTopEntries entry rest buf
    else
      let buf ← appendHere render child {} (sh.gapBeforeStatement previous buf)
      appendTopEntries .statement rest buf

/-- The whole source. -/
def root (id : Nat) : m Piece := do
  return .lines (← sh.appendTopEntries render .nothing (sh.visibleChildren id) (.startingAt 0))

/-- The statements of a routine body, one a line. -/
def statementList (id column : Nat) : m Piece := do
  let buf ← (sh.visibleChildren id).zipIdx.foldlM
    (fun buf (child, i) =>
      if sh.isComment child then return sh.appendComment child buf
      else
        let buf := if 0 < i || buf.pendingBreak then buf.newlineAt column else buf
        appendHere render child (Context.indentedAt column) buf)
    (LineBuffer.startingAt column)
  return .lines buf

/-! ### Statements and clauses -/

/-- Whether a child of a statement starts a line of its own. -/
def startsClauseLine (kind : NodeKind) : Bool :=
  kind == .clause || kind.isError || kind.isStatement

/-- Lays out the children of a statement, one clause a line. -/
def appendClauses (ctx : Context) (column : Nat) :
    (seenClause : Bool) → List Nat → LineBuffer → m LineBuffer
  | _, [], buf => return buf
  | seenClause, child :: rest, buf => do
    let starts := startsClauseLine (sh.tree.kind child)
    let trailing := sh.gluedTrailing .statement ctx.trailing child rest
    let buf := if starts && seenClause then buf.newlineAt column else buf
    let buf ← sh.appendChild render .statement child (Context.child column trailing) buf
    appendClauses ctx column (seenClause || starts) rest buf

/-- A statement. -/
def statement (id : Nat) (ctx : Context) (column : Nat) : m Piece :=
  let broken :=
    sh.appendClauses render ctx column false (sh.visibleChildren id) (.startingAt column)
  sh.onOneLineOr render broken id ctx column

/-- Lays out the body of a clause, which starts a line at the given column if there is one. -/
def appendClauseBody (ctx : Context) (column : Nat) (ownLine : Option Nat) :
    (started : Bool) → List Nat → LineBuffer → m LineBuffer
  | _, [], buf => return buf
  | started, child :: rest, buf => do
    let trailing := sh.gluedTrailing .clause ctx.trailing child rest
    if sh.isComment child then
      let buf ← sh.appendChild render .clause child (Context.child column trailing) buf
      appendClauseBody ctx column ownLine started rest buf
    else
      let buf :=
        match started, ownLine with
        | false, some start => buf.beginLineAt start
        | _, _ => buf
      let indent := ownLine.getD column
      let buf ← sh.appendChild render .clause child (Context.child indent trailing) buf
      appendClauseBody ctx column ownLine true rest buf

/-- Lays out the keywords of a clause; `body` follows them. -/
def appendClauseKeywords (ctx : Context) (column : Nat) (body : List Nat) :
    List Nat → LineBuffer → m LineBuffer
  | [], buf => return buf
  | keyword :: rest, buf => do
    let trailing := sh.gluedTrailing .clause ctx.trailing keyword (rest ++ body)
    let buf ← sh.appendChild render .clause keyword (Context.child column trailing) buf
    appendClauseKeywords ctx column body rest buf

/-- A clause with its keywords before its body or on a line of their own. -/
def brokenClause (id : Nat) (ctx : Context) (column : Nat) : m LineBuffer := do
  let children := sh.visibleChildren id
  let keywords := children.takeWhile sh.isKeywordLeaf
  let body := children.drop keywords.length
  let bodyColumn := column + sh.indent
  let isSplit :=
    sh.policy.queries.keywordsOnOwnLine && !keywords.isEmpty && body.any fun c => !sh.isComment c
  let buf ← sh.appendClauseKeywords render ctx column body keywords
    { LineBuffer.startingAt column with indentBase := bodyColumn }
  sh.appendClauseBody render ctx column (if isSplit then some bodyColumn else none) false body buf

/-- A clause. -/
def clause (id : Nat) (ctx : Context) (column : Nat) : m Piece :=
  sh.onOneLineOr render (sh.brokenClause render id ctx column) id ctx column

end SqlLayout.Sheet
