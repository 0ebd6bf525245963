import SqlLayout.Layout.CaseOf
import SqlLayout.Layout.Control
import SqlLayout.Layout.Declaration
import SqlLayout.Layout.Expression
import SqlLayout.Layout.List
import SqlLayout.Layout.Routine
import SqlLayout.Layout.Statement
import SqlLayout.Tree.Build

/-!
# Layout of whole trees

The layout of a node of any kind, with pieces taken from the cache where it has them, and the formatted
text of a tree and of a source. The program is `formatBounded`; `format` gives the text that would be if
columns had no bounds.
-/

namespace SqlLayout
namespace Sheet

section
variable {m : Type → Type} [Monad m] [Faulting m] (sh : Sheet)

/-- The layout of a node whose children are laid out by `render`. -/
def layoutNode (render : RenderIn m) : RenderIn m := fun id ctx column =>
  match sh.tree.kind id with
  | .root => sh.root render id
  | .statementList => sh.statementList render id column
  | .statement => sh.statement render id ctx column
  | .clause => sh.clause render id ctx column
  | .commaList => sh.commaList render id ctx column
  | .listElement | .expression | .declarationPart _ => sh.expression render id ctx column
  | .parenthesized => sh.group render id ctx column
  | .functionCall => sh.functionCall render id ctx column
  | .caseOf | .caseStatement => sh.caseOf render id ctx column
  | .whenBranch => sh.whenBranch render id ctx column
  | .elseBranch => sh.elseBranch render id ctx column
  | .functionDefinition => sh.routineDefinition render id ctx column
  | .tableDefinition => sh.tableDefinition render id ctx column
  | .doBlock => sh.doBlock render id ctx column
  | .functionBody => sh.routineBody render id ctx column
  | .declarationList => sh.declarationList render id ctx column
  | .declaration => sh.declaration render id ctx column
  | .declareSection => sh.declareSection render id column
  | .exceptionSection => sh.exceptionSection render id column
  | .block | .ifStatement | .conditionalBranch | .loopStatement => sh.control render id column
  | .leaf role => return sh.leaf id role column
  | .comment => return sh.comment id column
  | .error _ => return sh.errorPiece id column

/--
The layout of a node, taken from the cache if it answers and kept there if it does not. A piece is
finished here, so this is where its columns are checked.
-/
def cached [MonadStateOf (Cache Policy) m] (layout : RenderIn m) : RenderIn m :=
  fun id ctx column => do
    match ← modifyGet (Cache.get · id ctx column sh.policy sh.lineWidth) with
    | some piece => return piece
    | none =>
      let piece ← layout id ctx column
      Faulting.stopFor piece.fault?
      modify (Cache.insert · id ctx column sh.policy piece)
      return piece

/-- The layout of a node and its descendants down to the given depth. -/
def renderToIn (m : Type → Type) [Monad m] [Faulting m] [MonadStateOf (Cache Policy) m] :
    Nat → RenderIn m
  | 0 => fun _ _ column => return .fragment column [] none
  | depth + 1 => sh.cached (sh.layoutNode (renderToIn m depth))

/-- The layout of a node and its descendants down to the given depth, without bounds of columns. -/
abbrev renderTo : Nat → Render :=
  sh.renderToIn Layout

/-- The layout of a node, without bounds of columns. -/
def render : Render :=
  sh.renderTo (sh.tree.size + 1)

/-- The layout of a node, or the fault of its columns. -/
def renderBounded : RenderIn BoundedLayout :=
  sh.renderToIn BoundedLayout (sh.tree.size + 1)

end

variable (sh : Sheet)

/-- The buffer of a piece that starts at the margin. -/
def bufferOf : Piece → LineBuffer
  | .lines buf => buf
  | piece => (LineBuffer.startingAt 0).append piece

/-- The text of a whole tree: no blanks at its end but a line feed, and nothing for nothing. -/
def finish (piece : Piece) : Text :=
  let text := Text.trimEnd (bufferOf piece).trimTrailing.text
  if text.isEmpty then []
  else if sh.policy.noFinalNewline then text
  else text ++ ['\n']

/-- The formatted text of the tree, without bounds of columns. -/
def format : Layout Text := do
  return sh.finish (← sh.render sh.tree.root {} 0)

/-- The formatted text of the tree, or the fault of its columns. -/
def formatBounded : BoundedLayout Text := do
  return sh.finish (← sh.renderBounded sh.tree.root {} 0)

end Sheet

/-- The cache for a layout of a tree: one with more places than the tree has nodes is emptied. -/
def Cache.forTree {φ : Type} (tree : Tree) (cache : Cache φ) : Cache φ :=
  if tree.size < cache.slots.size then { cache with slots := #[] } else cache

/-- Why a source is not formatted. -/
inductive FormatFault where
  | parse (fault : Tree.ParseFault)
  | layout (fault : LayoutFault)
  deriving DecidableEq

/-- The fault in words. -/
def FormatFault.message : FormatFault → String
  | parse fault => fault.message
  | layout fault => fault.message

/-- The formatted text of a tree if columns had no bounds. -/
def formatTree (policy : Policy) (tree : Tree) : Text :=
  ((Sheet.mk tree policy).format {}).1

/-- The formatted text of a tree, unless its columns get out of bounds. -/
def formatTreeBounded (policy : Policy) (tree : Tree) : Except LayoutFault Text :=
  (Sheet.mk tree policy).formatBounded.run' {}

/-- The formatted text of a source if columns had no bounds, unless it has no tree. -/
def format (policy : Policy) (source : Text) : Except Tree.ParseFault Text :=
  (Tree.parse source).map (formatTree policy)

/-- The formatted text of a source, unless it has no tree or its columns get out of bounds. -/
def formatBounded (policy : Policy) (source : Text) : Except FormatFault Text := do
  let tree ← (Tree.parse source).mapError .parse
  (formatTreeBounded policy tree).mapError .layout

end SqlLayout
