import SqlLayout.Grammar.Block
import SqlLayout.Token.Level
import SqlLayout.Tree.Basic

/-!
# From events to trees

The arena of a source is folded from the events of the grammar. A node takes the next number when it
opens, so parents come before children and siblings in order. Comments become children of the node
that is open where they stand. `Tree.parse` is the whole way from a source to its tree.
-/

namespace SqlLayout
namespace Tree

/-- An arena while events are folded into it. -/
structure Builder where
  /-- Index of the next token. -/
  pos : Nat := 0
  nodes : Array Node := #[]
  /-- Numbers of the open nodes, innermost first. -/
  opened : List Nat := []
  errors : Array SyntaxError := #[]
  /-- The node that closed last of all. -/
  root : Option Nat := none
  deriving Inhabited

namespace Builder

variable (ts : TokenStream)

/-- Adds a node as the last child of the innermost open node. -/
def add (node : Node) (b : Builder) : Builder :=
  let id := b.nodes.size
  let nodes :=
    match b.opened with
    | parent :: _ => b.nodes.modify parent fun p => { p with children := p.children ++ [id] }
    | [] => b.nodes
  { b with nodes := nodes.push node }

/-- Adds a node for the next token. -/
def addLeaf (kind : NodeKind) (b : Builder) : Builder :=
  b.add ⟨kind, b.pos, b.pos + 1, []⟩

/-- Moves past trivia and adds a node for each comment among them. -/
def skipTrivia (b : Builder) : Builder :=
  let kind := ts.kind b.pos
  if b.pos < ts.lastIndex ∧ kind.isTrivia then
    let c := if kind.isComment then b.addLeaf .comment else b
    skipTrivia { c with pos := b.pos + 1 }
  else b
termination_by ts.lastIndex - b.pos

/-- Opens a node at the next significant token; the outermost one starts the source. -/
def openNode (kind : NodeKind) (b : Builder) : Builder :=
  let b := if b.opened.isEmpty then b else b.skipTrivia ts
  let start := if b.opened.isEmpty then 0 else b.pos
  let c := b.add ⟨kind, start, start, []⟩
  { c with opened := b.nodes.size :: b.opened }

/-- Closes the innermost open node; the outermost one ends with the source. -/
def closeNode (b : Builder) : Builder :=
  let b := if b.opened.length = 1 then { b.skipTrivia ts with pos := ts.size } else b
  match b.opened with
  | [] => b
  | id :: outer =>
    { b with
      nodes := b.nodes.modify id fun node => { node with past := b.pos }
      opened := outer
      root := if outer.isEmpty then some id else b.root }

/-- Makes the next significant token a leaf. -/
def addToken (role : LeafRole) (b : Builder) : Builder :=
  let b := b.skipTrivia ts
  { b.addLeaf (.leaf role) with pos := b.pos + 1 }

/-- Records an error at the next significant token; an open error node takes its number. -/
def addError (cause : Complaint) (b : Builder) : Builder :=
  let token := ts.get (ts.nextSignificant b.pos)
  let found := if token.kind = .eof then none else some token.text
  let index := b.errors.size
  let nodes :=
    match b.opened with
    | top :: _ =>
      b.nodes.modify top fun node =>
        if node.kind.isError then { node with kind := .error index } else node
    | [] => b.nodes
  { b with nodes := nodes, errors := b.errors.push ⟨cause, found, token.start, token.stop⟩ }

/-- Folds one event into the arena. -/
def step (b : Builder) : Event → Builder
  | .open kind => b.openNode ts kind
  | .close => b.closeNode ts
  | .token role => b.addToken ts role
  | .error cause => b.addError ts cause

end Builder

/-- Why a source has no tree. -/
inductive ParseFault where
  /-- A rule asked for a token at the end of input. -/
  | overrun
  | malformed (fault : TreeFault)
  deriving DecidableEq

/-- The fault in words. -/
def ParseFault.message : ParseFault → String
  | overrun => "bump at end of input"
  | malformed fault => fault.message

/-- The tree that a list of events describes, in the order in which they happened. -/
def ofEvents (ts : TokenStream) (events : List Event) : Except TreeFault Tree :=
  let b := events.foldl (Builder.step ts) {}
  match b.root with
  | some root => make ts b.nodes root b.errors
  | none => make ts (b.nodes.push ⟨.root, 0, ts.size, []⟩) b.nodes.size b.errors

/-- The tree of a token stream. -/
def ofTokens (ts : TokenStream) : Except ParseFault Tree :=
  let final := Grammar.run ts
  if final.overrun then .error .overrun
  else (ofEvents ts final.events.reverse).mapError .malformed

/-- The tree of a source. -/
def parse (source : Text) : Except ParseFault Tree :=
  ofTokens (TokenStream.ofText source)

end Tree
end SqlLayout
