import SqlLayout.Text.Letter
import SqlLayout.Token.Stream

/-!
# Lexemes

How long the token at the front of a text is, and of which kind. A scanner looks at the first
character and the rest and answers how many characters of the rest belong to the token, so every
token has at least one character and the tokens of a text put together give the text back.

A dollar-quoted text after `AS` or `DO` opens a routine body, which is scanned as code up to its
closing delimiter, unless the routine is in a language other than SQL and PL/pgSQL.
-/

namespace SqlLayout

/-- A token before its position and levels are known. -/
structure Lexeme where
  kind : TokenKind
  text : Text
  deriving DecidableEq, Inhabited

namespace Lexeme

/-- Blanks that form one whitespace token. -/
def isSpacing (c : Char) : Bool :=
  c == ' ' || c == '\t' || c == '\r'

/-- Characters that can start an identifier. -/
def isIdentStart (c : Char) : Bool :=
  Text.isAlphabetic c || c == '_'

/-- Characters that can continue an identifier. -/
def isIdentContinue (c : Char) : Bool :=
  Text.isAlphanumeric c || c == '_' || c == '$'

/-- Characters that operators are made of. -/
def isOperatorChar (c : Char) : Bool :=
  "+-*/<>=~!@#%^&|\x60?".toList.contains c

/-- Characters that let a longer operator end in a sign. -/
def freesTrailingSign (c : Char) : Bool :=
  "~!@#%^&|\x60?".toList.contains c

/-- Letters that can stand directly before a string constant. -/
def isStringMarker (c : Char) : Bool :=
  "eEbBxXnN".toList.contains c

/-- Length of the longest front part whose characters satisfy `p`. -/
def spanLength (p : Char → Bool) (t : Text) : Nat :=
  (t.takeWhile p).length

/--
Characters up to and including the end of a block comment that is open `depth + 1` times; nothing if
it does not end. Comments nest.
-/
def blockCommentLength? : Nat → Text → Option Nat
  | depth, '/' :: '*' :: rest => (blockCommentLength? (depth + 1) rest).map (· + 2)
  | 0, '*' :: '/' :: _ => some 2
  | depth + 1, '*' :: '/' :: rest => (blockCommentLength? depth rest).map (· + 2)
  | depth, _ :: rest => (blockCommentLength? depth rest).map (· + 1)
  | _, [] => none

/--
Characters up to and including the closing quote; nothing if there is none. A doubled quote stands
for itself, and so does, between single quotes, any character after a backslash.
-/
def quotedLength? (quote : Char) : Text → Option Nat
  | [] => none
  | c :: rest =>
    if c = quote then
      match rest with
      | d :: more => if d = quote then (quotedLength? quote more).map (· + 2) else some 1
      | [] => some 1
    else if c = '\\' ∧ quote = '\'' then
      match rest with
      | _ :: more => (quotedLength? quote more).map (· + 2)
      | [] => none
    else (quotedLength? quote rest).map (· + 1)

/-- A quoted token whose opening quote has been read after `skipped` characters of the rest. -/
def quotedToken (kind : TokenKind) (quote : Char) (skipped : Nat) (rest : Text) : TokenKind × Nat :=
  match quotedLength? quote (rest.drop skipped) with
  | some n => (kind, skipped + n)
  | none => (.error, rest.length)

/-- Characters of an exponent at the front of a text, zero if there is none. -/
def exponentLength : Text → Nat
  | e :: rest =>
    if e = 'e' ∨ e = 'E' then
      match rest with
      | c :: more =>
        if c.isDigit then 1 + spanLength Char.isDigit (c :: more)
        else if (c = '+' ∨ c = '-') ∧ (more.head?.any Char.isDigit) then
          2 + spanLength Char.isDigit more
        else 0
      | [] => 0
    else 0
  | [] => 0

/-- Characters of a fraction at the front of a text, zero if there is none; `..` is no fraction. -/
def fractionLength : Text → Nat
  | '.' :: rest => if rest.head? = some '.' then 0 else 1 + spanLength Char.isDigit rest
  | _ => 0

/-- Digits of a whole number, which underscores may group. -/
def isNumberChar (c : Char) : Bool :=
  c.isDigit || c == '_'

/-- A number that starts with the character `first`, a digit or a point before a digit. -/
def numberToken (first : Char) (rest : Text) : TokenKind × Nat :=
  let whole := spanLength isNumberChar rest
  let fraction := if first = '.' then 0 else fractionLength (rest.drop whole)
  let exponent := exponentLength (rest.drop (whole + fraction))
  let isFloat := first = '.' ∨ 0 < fraction ∨ 0 < exponent
  (if isFloat then .float else .integer, whole + fraction + exponent)

/-- The characters of an operator after its first one; an operator ends where a comment starts. -/
def operatorTail : Text → Text
  | [] => []
  | c :: rest =>
    if !isOperatorChar c then []
    else if c = '-' ∧ rest.head? = some '-' then []
    else if c = '/' ∧ rest.head? = some '*' then []
    else c :: operatorTail rest

/--
Characters of the rest that belong to the operator starting with `first`. A longer operator does not
end in a sign, unless it contains a character that frees it to.
-/
def operatorLength (first : Char) (rest : Text) : Nat :=
  let tail := operatorTail rest
  if (first :: tail).any freesTrailingSign then tail.length
  else (Text.dropEndWhile (fun c => c == '+' || c == '-') tail).length

/-- Kind of a single punctuation character. -/
def punctuation : Char → TokenKind
  | ';' => .semicolon
  | ',' => .comma
  | '.' => .dot
  | ':' => .colon
  | '(' => .lParen
  | ')' => .rParen
  | '[' => .lBracket
  | ']' => .rBracket
  | _ => .error

/-- An operator or a punctuation mark. -/
def symbolToken (first : Char) (rest : Text) : TokenKind × Nat :=
  if first = ':' ∧ rest.head? = some ':' then (.doubleColon, 1)
  else if first = ':' ∧ rest.head? = some '=' then (.colonEq, 1)
  else if isOperatorChar first then (.operator, operatorLength first rest)
  else (punctuation first, 0)

/--
The delimiter `$tag$` at the front of a dollar sign followed by `rest`. A tag is a possibly empty
word that does not start with a digit.
-/
def dollarTag? (rest : Text) : Option Text :=
  let tag := rest.takeWhile Text.isAsciiWord
  if tag.head?.any Char.isDigit then none
  else if (rest.drop tag.length).head? = some '$' then some ('$' :: tag ++ ['$'])
  else none

/--
The language named by a `LANGUAGE` clause at the front of what follows a routine body. The name may
stand in single quotes.
-/
def trailingLanguage? (after : Text) : Option Text :=
  let front := Text.trimStart after
  if Text.eqIgnoringCase (front.take 8) "language".toList then
    let name := Text.trimStart (front.drop 8)
    let name := if name.head? = some '\'' then name.tail else name
    let word := name.takeWhile Text.isAsciiWord
    if word.isEmpty then none else some word
  else none

/-- What earlier tokens of a source mean for the next one. -/
structure Surroundings where
  /-- Delimiters of the routine bodies that are open, innermost first. -/
  openTags : List Text := []
  /-- Language named earlier in the current statement. -/
  language : Option Text := none
  /-- Kind of the last token that is no trivia. -/
  previous : TokenKind := .eof
  deriving DecidableEq, Inhabited

namespace Surroundings

/-- Whether a routine is in a language whose code is scanned; unnamed languages are. -/
def isCodeLanguage (s : Surroundings) (after : Text) : Bool :=
  match s.language.orElse fun _ => trailingLanguage? after with
  | none => true
  | some name =>
    Text.eqIgnoringCase name "plpgsql".toList || Text.eqIgnoringCase name "sql".toList

/-- The surroundings of the token that follows `lexeme`. -/
def advance (s : Surroundings) (lexeme : Lexeme) : Surroundings :=
  let tags :=
    match lexeme.kind with
    | .bodyOpen => lexeme.text :: s.openTags
    | .bodyClose => s.openTags.tail
    | _ => s.openTags
  if lexeme.kind.isTrivia then { s with openTags := tags }
  else
    let named :=
      if s.previous = .keyword .LANGUAGE then
        some (Text.dropEndWhile (· == '\'') (lexeme.text.dropWhile (· == '\'')))
      else s.language
    { openTags := tags
      language := if lexeme.kind = .semicolon then none else named
      previous := lexeme.kind }

end Surroundings

/-- A token that starts with a dollar sign: a body delimiter, a dollar-quoted string or a parameter. -/
def dollarToken (s : Surroundings) (rest : Text) : TokenKind × Nat :=
  match s.openTags.head?.bind fun tag => (tag.isPrefixOf? ('$' :: rest)).map fun _ => tag with
  | some tag => (.bodyClose, tag.length - 1)
  | none =>
    match dollarTag? rest with
    | none =>
      if rest.head?.any Text.isAsciiWord then (.param, spanLength Text.isAsciiWord rest)
      else (.error, 0)
    | some tag =>
      match Text.cutAround tag (rest.drop (tag.length - 1)) with
      | none => (.error, rest.length)
      | some (quoted, after) =>
        let opensBody :=
          (s.previous == .keyword .AS || s.previous == .keyword .DO) && s.isCodeLanguage after
        if opensBody then (.bodyOpen, tag.length - 1)
        else (.dollarString, tag.length - 1 + quoted.length + tag.length)

/--
Kind of the token at the front of `first :: rest`, and how many characters of `rest` belong to it.
-/
def front (s : Surroundings) (first : Char) (rest : Text) : TokenKind × Nat :=
  if isSpacing first then (.whitespace, spanLength isSpacing rest)
  else if first = '\n' then (.linefeed, 0)
  else if first = '-' ∧ rest.head? = some '-' then (.lineComment, spanLength (· != '\n') rest)
  else if first = '/' ∧ rest.head? = some '*' then
    match blockCommentLength? 0 (rest.drop 1) with
    | some n => (.blockComment, 1 + n)
    | none => (.error, rest.length)
  else if first = '\'' then quotedToken .string '\'' 0 rest
  else if first = '"' then quotedToken .quotedIdent '"' 0 rest
  else if isStringMarker first ∧ rest.head? = some '\'' then quotedToken .string '\'' 1 rest
  else if first = '$' then dollarToken s rest
  else if first.isDigit ∨ (first = '.' ∧ rest.head?.any Char.isDigit) then numberToken first rest
  else if isIdentStart first then
    let tail := rest.takeWhile isIdentContinue
    (TokenKind.ofWord (first :: tail), tail.length)
  else symbolToken first rest

/-- Lexemes of a text in the given surroundings. -/
def scan (s : Surroundings) : Text → List Lexeme
  | [] => []
  | first :: rest =>
    let (kind, n) := front s first rest
    let lexeme : Lexeme := ⟨kind, first :: rest.take n⟩
    lexeme :: scan (s.advance lexeme) (rest.drop n)
termination_by t => t.length
decreasing_by
  simp only [List.length_drop, List.length_cons]
  omega

/-- The lexemes of a text put together give the text back. -/
theorem flatMap_text_scan (s : Surroundings) (t : Text) : (scan s t).flatMap Lexeme.text = t := by
  fun_induction scan s t with
  | case1 => rfl
  | case2 s first rest kind n _ lexeme ih =>
    simp only [List.flatMap_cons, ih]
    simp [lexeme]

/-- Every lexeme has a character. -/
theorem text_ne_nil_of_mem_scan {s : Surroundings} {t : Text} {x : Lexeme} (h : x ∈ scan s t) :
    x.text ≠ [] := by
  fun_induction scan s t with
  | case1 => simp at h
  | case2 s first rest kind n _ lexeme ih =>
    rcases List.mem_cons.1 h with rfl | h
    · simp [lexeme]
    · exact ih h

end Lexeme
end SqlLayout
