import SqlLayout.Token.Keyword

/-!
# Token kinds

What a token is: trivia between words, literals and names, operators and punctuation, the two
delimiters of a routine body, keywords, text that is no token, and the end of the input. The classes
of kinds that the grammar and the layout ask about are Boolean functions on kinds.
-/

namespace SqlLayout

/-- The kind of a token. -/
inductive TokenKind where
  | whitespace
  | linefeed
  | lineComment
  | blockComment
  | integer
  | float
  | string
  | dollarString
  | param
  | ident
  | quotedIdent
  | operator
  | colonEq
  | doubleColon
  | comma
  | semicolon
  | dot
  | colon
  | lParen
  | rParen
  | lBracket
  | rBracket
  | bodyOpen
  | bodyClose
  | keyword (word : Keyword)
  | error
  | eof
  deriving DecidableEq, Inhabited

/-- A keyword is a kind of token. -/
instance : Coe Keyword TokenKind where
  coe := TokenKind.keyword

namespace TokenKind

/-- Number of kinds before the first keyword. -/
def firstKeywordCode : Nat := 24

/-- Position of a kind in the enumeration of all kinds. -/
def code : TokenKind → Nat
  | whitespace => 0
  | linefeed => 1
  | lineComment => 2
  | blockComment => 3
  | integer => 4
  | float => 5
  | string => 6
  | dollarString => 7
  | param => 8
  | ident => 9
  | quotedIdent => 10
  | operator => 11
  | colonEq => 12
  | doubleColon => 13
  | comma => 14
  | semicolon => 15
  | dot => 16
  | colon => 17
  | lParen => 18
  | rParen => 19
  | lBracket => 20
  | rBracket => 21
  | bodyOpen => 22
  | bodyClose => 23
  | keyword word => firstKeywordCode + word.ctorIdx
  | error => firstKeywordCode + Keyword.all.length
  | eof => firstKeywordCode + Keyword.all.length + 1

/-- Blanks and line feeds. -/
def isWhitespace : TokenKind → Bool
  | whitespace | linefeed => true
  | _ => false

/-- Line and block comments. -/
def isComment : TokenKind → Bool
  | lineComment | blockComment => true
  | _ => false

/-- Whatever the grammar skips: whitespace and comments. -/
def isTrivia (k : TokenKind) : Bool :=
  k.isWhitespace || k.isComment

/-- Keywords. -/
def isKeyword : TokenKind → Bool
  | keyword _ => true
  | _ => false

/-- Constants and parameters. -/
def isLiteral : TokenKind → Bool
  | integer | float | string | dollarString | param => true
  | _ => false

/-- Kinds that can name an object: identifiers, quoted or not, and every keyword. -/
def isName : TokenKind → Bool
  | ident | quotedIdent | keyword _ => true
  | _ => false

/-- Opening round and square brackets. -/
def isOpening : TokenKind → Bool
  | lParen | lBracket => true
  | _ => false

/-- Closing round and square brackets. -/
def isClosing : TokenKind → Bool
  | rParen | rBracket => true
  | _ => false

/-- The kind of a word: a keyword, or else an identifier. -/
def ofWord (word : Text) : TokenKind :=
  match Keyword.ofWord? word with
  | some k => keyword k
  | none => ident

end TokenKind
end SqlLayout
