import SqlLayout.Text.Quoted
import SqlLayout.Token.Stream
import SqlLayout.Tree.Error
import SqlLayout.Tree.Kind

/-!
# Syntax trees

A tree is an arena: nodes are numbered, each names its children by number, and each covers a half-open
range of tokens. `Tree.make` accepts an arena only if its root exists and the ranges of the children of
every node lie one after the other inside the range of the node.
-/

namespace SqlLayout

/-- A node covers the tokens from `first` up to but not including `past`. -/
structure Node where
  kind : NodeKind
  first : Nat
  past : Nat
  children : List Nat
  deriving DecidableEq, Inhabited

/-- An arena of nodes over a token stream. -/
structure Tree where
  tokens : TokenStream
  nodes : Array Node
  root : Nat
  errors : Array SyntaxError
  deriving Inhabited

/-- Why an arena is no tree. -/
inductive TreeFault where
  /-- The root is no node of the arena. -/
  | rootOutOfBounds (root : Nat)
  /-- A child is no node of the arena, which has `size` nodes. -/
  | childOutOfBounds (child size : Nat)
  /-- The range of a child does not lie between `low` and `high`. -/
  | childOutside (child : Nat) (parent : NodeKind) (first past low high : Nat)
  deriving DecidableEq

namespace TreeFault

/-- What is wrong with the arena, in words. -/
def message : TreeFault → String
  | rootOutOfBounds root => s!"root NodeId({root}) out of bounds"
  | childOutOfBounds child size =>
    s!"index out of bounds: the len is {size} but the index is {child}"
  | childOutside child parent first past low high =>
    "child NodeId(" ++ toString child ++ ") of " ++ parent.name ++ " has range "
      ++ s!"{first}..{past} outside {low}..{high}"

end TreeFault

namespace Tree

/-- Checks that children of a node follow each other from `low` on and end at `high`. -/
def checkChildren (nodes : Array Node) (parent : NodeKind) (high : Nat) :
    Nat → List Nat → Except TreeFault Unit
  | _, [] => .ok ()
  | low, child :: rest =>
    match nodes[child]? with
    | none => .error (.childOutOfBounds child nodes.size)
    | some node =>
      if low ≤ node.first ∧ node.past ≤ high then checkChildren nodes parent high node.past rest
      else .error (.childOutside child parent node.first node.past low high)

/-- Checks the children of every node in a list. -/
def checkNodes (nodes : Array Node) : List Node → Except TreeFault Unit
  | [] => .ok ()
  | node :: rest =>
    match checkChildren nodes node.kind node.past node.first node.children with
    | .error fault => .error fault
    | .ok _ => checkNodes nodes rest

/-- The tree over an arena, or the first reason why it is none. -/
def make (tokens : TokenStream) (nodes : Array Node) (root : Nat) (errors : Array SyntaxError) :
    Except TreeFault Tree :=
  if root < nodes.size then
    match checkNodes nodes nodes.toList with
    | .error fault => .error fault
    | .ok _ => .ok ⟨tokens, nodes, root, errors⟩
  else .error (.rootOutOfBounds root)

/-- Number of nodes. -/
def size (t : Tree) : Nat :=
  t.nodes.size

/-- The node with a number. -/
def node (t : Tree) (id : Nat) : Node :=
  t.nodes.getD id default

/-- Kind of a node. -/
def kind (t : Tree) (id : Nat) : NodeKind :=
  (t.node id).kind

/-- Children of a node, in order. -/
def children (t : Tree) (id : Nat) : List Nat :=
  (t.node id).children

/-- The error that an error node stands for. -/
def error? (t : Tree) (id : Nat) : Option SyntaxError :=
  match t.kind id with
  | .error index => t.errors[index]?
  | _ => none

/-- First token of a node that is no whitespace, or where the node starts if it has none. -/
def firstToken (t : Tree) (id : Nat) : Nat :=
  let node := t.node id
  (t.tokens.findForward (!·.isWhitespace) (node.past - node.first) node.first).getD node.first

/-- Last token of a node that is no whitespace, or where the node starts if it has none. -/
def lastToken (t : Tree) (id : Nat) : Nat :=
  let node := t.node id
  match t.tokens.findBackward (!·.isWhitespace) node.past with
  | some i => max i node.first
  | none => node.first

/-- The first token after a node. -/
def nextToken (t : Tree) (id : Nat) : Nat :=
  (t.node id).past

/-- Text of the first token of a node. -/
def leafText (t : Tree) (id : Nat) : Text :=
  t.tokens.text (t.firstToken id)

/-- Source of a node, without whitespace around it. -/
def sourceText (t : Tree) (id : Nat) : Text :=
  let first := t.firstToken id
  t.tokens.slice first (max (t.lastToken id + 1) first)

/-- Kind of the first token of a node. -/
def tokenKind (t : Tree) (id : Nat) : TokenKind :=
  t.tokens.kind (t.firstToken id)

/-- Whether a node is a leaf that holds the given kind of token. -/
def isLeafOf (t : Tree) (id : Nat) (kind : TokenKind) : Bool :=
  match t.kind id with
  | .leaf _ => t.tokenKind id == kind
  | _ => false

/--
Depth of blocks after a node. A `CASE` statement ends on the level outside its own first token.
-/
def blockLevelAfter (t : Tree) (id : Nat) : Nat :=
  match t.kind id with
  | .caseStatement => t.tokens.levelOutside (t.firstToken id)
  | _ => (t.tokens.get (t.lastToken id)).blockLevel

/-- A node and its descendants in preorder, down to the given depth. -/
def preorderTo (t : Tree) : Nat → Nat → List Nat
  | 0, _ => []
  | depth + 1, id => id :: (t.children id).flatMap (t.preorderTo depth)

/-- A node and all its descendants, each before its own and in order. -/
def preorder (t : Tree) (id : Nat) : List Nat :=
  t.preorderTo (t.size + 1) id

/-- Lines that list a node at the given indentation, down to the given depth. -/
def outlineTo (t : Tree) : Nat → Nat → Nat → List Text
  | 0, _, _ => []
  | depth + 1, indent, id =>
    let lead := Text.spaces (2 * indent)
    match t.kind id with
    | .leaf role => [lead ++ role.name.toList ++ [' '] ++ Text.quoted (t.leafText id)]
    | .comment => [lead ++ "Comment ".toList ++ Text.quoted (t.leafText id)]
    | .error _ =>
      let message := (t.error? id).elim [] SyntaxError.message
      [lead ++ "Error ".toList ++ Text.quoted message ++ [' '] ++ Text.quoted (t.sourceText id)]
    | kind =>
      (lead ++ kind.name.toList)
        :: (t.children id).flatMap (t.outlineTo depth (indent + 1))

/-- Indented listing of the tree, one node a line. -/
def outline (t : Tree) : List Text :=
  t.outlineTo (t.size + 1) 0 t.root

end Tree
end SqlLayout
