import SqlLayout.Layout.Spacing
import SqlLayout.Policy.Basic
import SqlLayout.Text.Width
import SqlLayout.Tree.Basic

/-!
# Widths on one line

A sheet is a tree with the policy by which it is laid out. `Sheet.measure` is the width of a node on one
line, or nothing if it cannot stand on one line even at the margin: it holds a line break, its kind never
stands on one line, or it exceeds the limits of the policy.
-/

namespace SqlLayout

/-- A tree with the policy by which it is laid out. -/
structure Sheet where
  tree : Tree
  policy : Policy

namespace Sheet

variable (sh : Sheet)

/-- Columns of one indent. -/
def indent : Nat :=
  sh.policy.indentSize

/-- Columns of a line. -/
def lineWidth : Nat :=
  sh.policy.lineWidth.value

/-- Whether a node is a comment. -/
def isComment (id : Nat) : Bool :=
  sh.tree.kind id == .comment

/-- Whether a node is a leaf of any role. -/
def isLeaf (id : Nat) : Bool :=
  match sh.tree.kind id with
  | .leaf _ => true
  | _ => false

/-- Whether a node is a keyword in its role as keyword. -/
def isKeywordLeaf (id : Nat) : Bool :=
  sh.tree.kind id == .leaf .keyword

/-- Children that take part in the layout. -/
def visibleChildren (id : Nat) : List Nat :=
  (sh.tree.children id).filter fun child => !(sh.policy.removeComments && sh.isComment child)

/-- The letter case of a leaf, if the policy sets one for it. -/
def letterCase? (role : LeafRole) (kind : TokenKind) (text : Text) : Option LetterCase :=
  if kind == .quotedIdent || kind.isLiteral then none
  else
    match role with
    | .keyword => some sh.policy.keywordCase
    | .function =>
      if kind.isKeyword || isBuiltinFunction text then some sh.policy.functionCase else none
    | .dataType => if isBuiltinType text then some sh.policy.typeCase else none
    | _ => none

/-- Text of a leaf in the letter case that the policy sets for it. -/
def leafText (id : Nat) (role : LeafRole) : Text :=
  let text := sh.tree.leafText id
  match sh.letterCase? role (sh.tree.tokenKind id) text with
  | some letterCase => letterCase.apply text
  | none => text

/-- Whether a space separates a child of a node from the token before it. -/
def spaceBefore (parent : NodeKind) (previous child : Nat) : Bool :=
  match parent, sh.tree.kind child with
  | .functionCall, .parenthesized => false
  | .functionDefinition, .declarationList => false
  | _, _ => sh.tree.tokens.spaceBetween previous (sh.tree.firstToken child)

/-- Whether a list of declarations always has one declaration a line. -/
def forcesOnePerLine (id : Nat) : Bool :=
  2 ≤ (sh.tree.children id).countP (fun c => sh.tree.kind c == .declaration)
    && !sh.policy.arguments.isSubsequent

/-- Limits that the kind of a node puts on its form on one line. -/
def kindThresholds (id width : Nat) : List Threshold :=
  match sh.tree.kind id with
  | .commaList =>
    let elements := (sh.tree.children id).countP fun c => sh.tree.kind c == .listElement
    Threshold.ofLimit width sh.policy.lists.maxLine
      ++ Threshold.ofLimit width sh.policy.lists.maxGroup
      ++ Threshold.ofLimit elements sh.policy.lists.maxPerGroup
  | .statement => Threshold.ofLimit width sh.policy.queries.maxLine
  | _ => []

/-- Whether a node may stand on one line at a column, with columns to follow it. -/
def singleLineAllowed (id width column trailing : Nat) : Bool :=
  Threshold.allow
    (sh.kindThresholds id width ++ [Threshold.of (column + width + trailing) sh.policy.lineWidth])

/-- Whether a kind never stands on one line. -/
def neverInline : NodeKind → Bool
  | .error _ | .root | .statementList | .block | .ifStatement | .conditionalBranch
  | .loopStatement | .caseStatement | .declareSection | .exceptionSection | .doBlock => true
  | _ => false

/-- Width of a leaf, unless it holds a line break or opens a routine body. -/
def leafWidth? (id : Nat) (role : LeafRole) : Option Nat :=
  let text := sh.leafText id role
  if sh.tree.tokenKind id == .bodyOpen || text.contains '\n' then none
  else some (Text.width text)

/-- Width of a comment, unless it starts, ends or holds a line break. -/
def commentWidth? (id : Nat) : Option Nat :=
  let ts := sh.tree.tokens
  let i := sh.tree.firstToken id
  if ts.kind i == .lineComment || ts.startsLine i || (ts.text i).contains '\n' then none
  else some (Text.width (ts.text i))

/--
Width of children one after the other with the spaces between them, if all have one. `previous` is the
last token before them.
-/
def runWidth? (measure : Nat → Option Nat) (parent : NodeKind) :
    Option Nat → List Nat → Option Nat
  | _, [] => some 0
  | previous, child :: rest =>
    match measure child with
    | none => none
    | some width =>
      let space := if previous.any fun p => sh.spaceBefore parent p child then 1 else 0
      (runWidth? measure parent (some (sh.tree.lastToken child)) rest).map (space + width + ·)

/-- Width of a node on one line apart from limits, given the widths of its children. -/
def rawWidth? (measure : Nat → Option Nat) (id : Nat) : Option Nat :=
  match sh.tree.kind id with
  | .leaf role => sh.leafWidth? id role
  | .comment => sh.commentWidth? id
  | kind =>
    if neverInline kind || (kind == .declarationList && sh.forcesOnePerLine id) then none
    else sh.runWidth? measure kind none (sh.visibleChildren id)

/-- Width of a node on one line, looking at descendants down to the given depth. -/
def measureTo : Nat → Nat → Option Nat
  | 0, _ => none
  | depth + 1, id =>
    (sh.rawWidth? (measureTo depth) id).filter fun width => sh.singleLineAllowed id width 0 0

/-- Width of a node on one line, or nothing if it cannot stand on one even at the margin. -/
def measure (id : Nat) : Option Nat :=
  sh.measureTo (sh.tree.size + 1) id

/-- Width of a node on one line, and zero if it cannot stand on one. -/
def measured (id : Nat) : Nat :=
  (sh.measure id).getD 0

/-- Width of the children that follow `before`, with spaces, and of what follows them. -/
def suffixWidth (parent : NodeKind) (outer : Nat) : Nat → List Nat → Nat
  | _, [] => outer
  | before, child :: rest =>
    let space := if sh.spaceBefore parent (sh.tree.lastToken before) child then 1 else 0
    suffixWidth parent outer child rest + sh.measured child + space

/--
Width of the leaves that stand close to the child `before`, such as a comma, and of what follows the
node if they end it.
-/
def gluedTrailing (parent : NodeKind) (outer : Nat) : Nat → List Nat → Nat
  | _, [] => outer
  | before, child :: rest =>
    if sh.isLeaf child && !sh.spaceBefore parent (sh.tree.lastToken before) child then
      sh.measured child + gluedTrailing parent outer child rest
    else 0

end Sheet
end SqlLayout
