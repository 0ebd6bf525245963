import SqlLayout.Text.Basic

/-!
# Syntax errors

What the grammar can complain about, and the record of a complaint: its cause, the token it was made
at, and the bytes which that token covers.
-/

namespace SqlLayout

/-- The cause of a syntax error. -/
inductive Complaint where
  | nestingTooDeep
  | unexpectedToken
  | unexpectedDeclarationToken
  | unexpectedEnd
  | unexpectedEndInCase
  | unexpectedBodyEnd
  | unexpectedCharacter
  | unmatchedParen
  | unterminatedComment
  | unterminatedQuotedIdent
  | unterminatedDollarString
  | unterminatedString
  | expectedOpenParen
  | expectedCloseParen
  | expectedCloseBracket
  | expectedThen
  | expectedBegin
  | expectedLoop
  | expectedEnd
  | expectedEndIf
  | expectedEndLoop
  | expectedName
  | expectedArguments
  | expectedDoBody
  | expectedBodyEnd
  deriving DecidableEq, Inhabited

/-- The cause in words. -/
def Complaint.message : Complaint → String
  | nestingTooDeep => "nesting too deep"
  | unexpectedToken => "unexpected token"
  | unexpectedDeclarationToken => "unexpected token in DECLARE section"
  | unexpectedEnd => "unexpected END"
  | unexpectedEndInCase => "unexpected END inside CASE"
  | unexpectedBodyEnd => "unexpected end of routine body"
  | unexpectedCharacter => "unexpected character"
  | unmatchedParen => "unmatched \x60)\x60"
  | unterminatedComment => "unterminated block comment"
  | unterminatedQuotedIdent => "unterminated quoted identifier"
  | unterminatedDollarString => "unterminated dollar-quoted string"
  | unterminatedString => "unterminated string literal"
  | expectedOpenParen => "expected \x60(\x60"
  | expectedCloseParen => "expected \x60)\x60"
  | expectedCloseBracket => "expected \x60]\x60"
  | expectedThen => "expected THEN"
  | expectedBegin => "expected BEGIN"
  | expectedLoop => "expected LOOP"
  | expectedEnd => "expected END"
  | expectedEndIf => "expected END IF"
  | expectedEndLoop => "expected END LOOP"
  | expectedName => "expected name"
  | expectedArguments => "expected argument list"
  | expectedDoBody => "expected DO body"
  | expectedBodyEnd => "expected end of routine body"

/-- A complaint at a place of the source. -/
structure SyntaxError where
  cause : Complaint
  /-- Text of the token found, or nothing at the end of input. -/
  found : Option Text
  /-- Byte offsets of the token found. -/
  start : Nat
  stop : Nat
  deriving DecidableEq, Inhabited

namespace SyntaxError

/-- Longest text of a token that a message shows. -/
def snippetLimit : Nat := 32

/-- A token on one line, cut off if it is long. -/
def snippet (t : Text) : Text :=
  let line := t.flatMap fun c =>
    if c = '\n' then ['\\', 'n'] else if c = '\t' then ['\\', 't'] else [c]
  if line.length > snippetLimit then line.take snippetLimit ++ "...".toList else line

/-- The error in words, with the token found. -/
def message (e : SyntaxError) : Text :=
  match e.found with
  | none => e.cause.message.toList ++ "; found end of input".toList
  | some t => e.cause.message.toList ++ "; found \x60".toList ++ snippet t ++ "\x60".toList

/-- The error in words, with its place in the source. -/
def display (e : SyntaxError) : Text :=
  s!"error at {e.start}..{e.stop}: ".toList ++ e.message

end SyntaxError
end SqlLayout
