import SqlLayout.Token.Stream

/-!
# Spaces between tokens

Whether two neighbouring tokens are separated by a space. Brackets, commas, dots and casts stand close
to their neighbours, signs close to their operand, the bracket after a type close to the type, and the
parts of `x%TYPE` and of `<<label>>` close to each other.
-/

namespace SqlLayout.TokenStream

variable (ts : TokenStream)

/-- Kinds that stand close to the token before them. -/
def hugsPrevious : TokenKind → Bool
  | .rParen | .rBracket | .comma | .semicolon | .dot | .doubleColon | .colon | .lBracket => true
  | _ => false

/-- Kinds that stand close to the token after them. -/
def hugsNext : TokenKind → Bool
  | .lParen | .lBracket | .dot | .doubleColon | .colon => true
  | _ => false

/-- Whether an operand follows a token of this kind, so that a sign after it belongs to the operand. -/
def expectsOperand : TokenKind → Bool
  | .operator | .colonEq | .lParen | .lBracket | .comma | .semicolon | .bodyOpen => true
  | .keyword word =>
    match word with
    | .END | .NULL | .TRUE | .FALSE | .CURRENT_DATE | .CURRENT_TIMESTAMP | .CURRENT_USER => false
    | _ => true
  | _ => false

/-- Whether the operator at an index is a sign or a bitwise complement of the operand after it. -/
def isUnary (i : Nat) : Bool :=
  ["-", "+", "~"].any (fun sign => ts.text i == sign.toList)
    && (ts.prevSignificant i).all fun j => expectsOperand (ts.kind j)

/-- Whether the percent sign at an index refers to the type of a column or row. -/
def isTypeReference (i : Nat) : Bool :=
  let next := ts.nextSignificant (i + 1)
  ts.kind next == .ident
    && ["type", "rowtype"].any fun word => Text.asciiLower (ts.text next) == word.toList

/-- Whether the token at an index opens a label. -/
def isLabelOpen (i : Nat) : Bool :=
  let name := ts.nextSignificant (i + 1)
  let close := ts.nextSignificant (name + 1)
  ts.text i == "<<".toList && (ts.kind name).isName && ts.kind close == .operator
    && ts.text close == ">>".toList

/-- Whether the token at an index closes a label. -/
def isLabelClose (i : Nat) : Bool :=
  ts.text i == ">>".toList
    && ((ts.prevSignificant i).bind ts.prevSignificant).any ts.isLabelOpen

/-- Whether the operator at an index stands close to the token after it. -/
def operatorHugsNext (i : Nat) : Bool :=
  ts.kind i == .operator
    && (ts.isUnary i || (ts.text i == ['%'] && ts.isTypeReference i) || ts.isLabelOpen i)

/-- Whether the operator at an index stands close to the token before it. -/
def operatorHugsPrevious (i : Nat) : Bool :=
  ts.kind i == .operator
    && ((ts.text i == ['%'] && ts.isTypeReference i) || ts.isLabelClose i)

/-- Whether a bracket after the token at `i` gives the modifiers of a type. -/
def isModifiedType (i j : Nat) : Bool :=
  ts.kind j == .lParen && ts.kind i == .ident && isBuiltinType (ts.text i)

/-- Whether a space separates the token at `i` from the token at `j` that follows it. -/
def spaceBetween (i j : Nat) : Bool :=
  !(hugsPrevious (ts.kind j) || hugsNext (ts.kind i) || ts.operatorHugsNext i
    || ts.operatorHugsPrevious j || ts.isModifiedType i j)

end SqlLayout.TokenStream
