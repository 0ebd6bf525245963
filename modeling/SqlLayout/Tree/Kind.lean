/-!
# Node kinds

What the nodes of a syntax tree stand for. A leaf holds one significant token and says how it is
written; a comment holds one comment; an error node holds tokens that the grammar could not place and
the number of the error that says why.
-/

namespace SqlLayout

/-- How a single token is written. -/
inductive LeafRole where
  | keyword
  /-- Name of a built-in function. -/
  | function
  | dataType
  /-- Any other name, kept as it is even when it is spelled like a keyword. -/
  | identifier
  | literal
  | operator
  | punctuation
  deriving DecidableEq, Inhabited

/-- Name of a leaf role in tree listings. -/
def LeafRole.name : LeafRole → String
  | keyword => "Keyword"
  | function => "Function"
  | dataType => "DataType"
  | identifier => "Identifier"
  | literal => "Literal"
  | operator => "Operator"
  | punctuation => "Punctuation"

/-- The place of a part inside a declaration. -/
inductive PartRole where
  | mode
  | name
  | dataType
  | defaultIndicator
  | defaultValue
  | constraint
  deriving DecidableEq, Inhabited

namespace PartRole

/-- All roles, in the order in which they stand in a declaration. -/
def all : List PartRole := [mode, name, dataType, defaultIndicator, defaultValue, constraint]

/-- Name of a part role in tree listings. -/
def label : PartRole → String
  | mode => "Mode"
  | name => "Name"
  | dataType => "DataType"
  | defaultIndicator => "DefaultIndicator"
  | defaultValue => "DefaultValue"
  | constraint => "Constraint"

end PartRole

/-- The kind of a node. -/
inductive NodeKind where
  | root
  | statementList
  | statement
  | clause
  | commaList
  | listElement
  | expression
  | parenthesized
  | functionCall
  | caseOf
  | caseStatement
  | whenBranch
  | elseBranch
  | functionDefinition
  | tableDefinition
  | doBlock
  | functionBody
  | declarationList
  | declaration
  | declarationPart (role : PartRole)
  | declareSection
  | block
  | exceptionSection
  | ifStatement
  | conditionalBranch
  | loopStatement
  | leaf (role : LeafRole)
  | comment
  | error (index : Nat)
  deriving DecidableEq, Inhabited

namespace NodeKind

/-- Leaves and comments hold one token and no children. -/
def isLeaf : NodeKind → Bool
  | leaf _ | comment => true
  | _ => false

/-- Kinds that stand as entries of their own on the top level. -/
def isStatement : NodeKind → Bool
  | statement | functionDefinition | tableDefinition | doBlock | block | ifStatement
  | loopStatement | caseStatement => true
  | _ => false

/-- Whether the node holds tokens that the grammar could not place. -/
def isError : NodeKind → Bool
  | error _ => true
  | _ => false

/-- Name of a kind in tree listings. -/
def name : NodeKind → String
  | root => "Root"
  | statementList => "StatementList"
  | statement => "Statement"
  | clause => "Clause"
  | commaList => "CommaList"
  | listElement => "ListElement"
  | expression => "Expression"
  | parenthesized => "Parenthesized"
  | functionCall => "FunctionCall"
  | caseOf => "Case"
  | caseStatement => "CaseStatement"
  | whenBranch => "When"
  | elseBranch => "Else"
  | functionDefinition => "FunctionDefinition"
  | tableDefinition => "TableDefinition"
  | doBlock => "DoBlock"
  | functionBody => "FunctionBody"
  | declarationList => "DeclarationList"
  | declaration => "Declaration"
  | declarationPart role => "DeclarationPart(" ++ role.label ++ ")"
  | declareSection => "DeclareSection"
  | block => "Block"
  | exceptionSection => "ExceptionSection"
  | ifStatement => "IfStatement"
  | conditionalBranch => "ConditionalBranch"
  | loopStatement => "LoopStatement"
  | leaf role => "Leaf(" ++ role.name ++ ")"
  | comment => "Comment"
  | error index => "Error(" ++ toString index ++ ")"

end NodeKind
end SqlLayout
