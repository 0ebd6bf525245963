import SqlLayout.Token.KindSet
import SqlLayout.Token.Stream
import SqlLayout.Tree.Error
import SqlLayout.Tree.Kind

/-!
# Grammar states

The grammar reads a token stream from left to right and records what it recognises as events: a node
opens, a node closes, the next significant token is a leaf, something is wrong here. A state holds the
position, the events so far with the newest first, the depth of nested groups, and whether a rule asked
for a token after the last one.

Rules are functions on states. `node` brackets what a rule records between an opening and a closing
event, `nested` counts a group and keeps groups that are nested too deeply as one error node, and
`repeatWhile` runs a rule as long as it moves forward.
-/

namespace SqlLayout

/-- A step of the recognised structure. -/
inductive Event where
  | open (kind : NodeKind)
  | close
  /-- The next significant token is a leaf. -/
  | token (role : LeafRole)
  | error (cause : Complaint)
  deriving DecidableEq, Inhabited

namespace Grammar

/-- How far the grammar has come in a token stream. -/
structure State where
  /-- Index of the next token to read; it may be trivia. -/
  pos : Nat := 0
  /-- Events so far, newest first. -/
  events : List Event := []
  /-- Number of groups around the current position. -/
  depth : Nat := 0
  /-- Whether a rule asked for a token at the end of input. -/
  overrun : Bool := false
  deriving DecidableEq, Inhabited

/-- Number of groups that may stand inside each other. -/
def maxNesting : Nat := 64

/-! ### Looking ahead -/

section
variable (ts : TokenStream) (s : State)

/-- Index of the `n`-th significant token from the current one on; the end of input ends the count. -/
def nthIndex : Nat → Nat
  | 0 => ts.nextSignificant s.pos
  | n + 1 =>
    let i := nthIndex n
    if ts.isEof i then i else ts.nextSignificant (i + 1)

/-- Kind of the `n`-th significant token from the current one on. -/
def nth (n : Nat) : TokenKind :=
  ts.kind (nthIndex ts s n)

/-- Text of the `n`-th significant token from the current one on. -/
def nthText (n : Nat) : Text :=
  ts.text (nthIndex ts s n)

/-- Kind of the current token. -/
def current : TokenKind :=
  nth ts s 0

/-- Text of the current token. -/
def currentText : Text :=
  nthText ts s 0

/-- Kind of the significant token before the current one. -/
def previous : Option TokenKind :=
  (ts.prevSignificant (nthIndex ts s 0)).map ts.kind

/-- Whether the current token is of a kind. -/
def at? (kind : TokenKind) : Bool :=
  current ts s == kind

/-- Whether the kind of the current token is in a set. -/
def atAny (kinds : KindSet) : Bool :=
  kinds.contains (current ts s)

/-- Whether the current token is the operator with the given spelling. -/
def atOperator (spelling : String) : Bool :=
  at? ts s .operator && currentText ts s == spelling.toList

/-- Whether the input has ended. -/
def atEnd : Bool :=
  at? ts s .eof

/-- Whether the text of the `n`-th token is a word, in any case. -/
def nthIsWord (n : Nat) (word : String) : Bool :=
  Text.eqIgnoringCase (nthText ts s n) word.toList

/-- Whether blanks or a comment stand right before the `n`-th token. -/
def nthIsSpaced (n : Nat) : Bool :=
  let i := nthIndex ts s n
  ts.hasSpaceBefore i || (ts.kind (i - 1)).isComment

/-- Block level after the current token. -/
def blockLevel : Nat :=
  (ts.get (nthIndex ts s 0)).blockLevel

/-- Block level outside the construct that the current token opens. -/
def levelOutside : Nat :=
  ts.levelOutside (nthIndex ts s 0)

/-- Number of tokens that have not been read. -/
def remaining : Nat :=
  ts.size - s.pos

end

/-! ### Steps -/

section
variable (ts : TokenStream)

/-- Records a complaint at the current token. -/
def complain (cause : Complaint) (s : State) : State :=
  { s with events := .error cause :: s.events }

/-- Reads the current token as a leaf. -/
def take (role : LeafRole) (s : State) : State :=
  if atEnd ts s then { s with overrun := true }
  else { s with events := .token role :: s.events, pos := nthIndex ts s 0 + 1 }

/-- Keywords that stay keywords right after `AS`. -/
def keywordsAfterAs : KindSet := .ofList [
  .keyword .SELECT, .keyword .VALUES, .keyword .WITH, .keyword .NOT, .keyword .TABLE,
  .keyword .IMMUTABLE, .keyword .STABLE, .keyword .VOLATILE, .keyword .STRICT, .keyword .LANGUAGE,
  .keyword .RETURNS]

/-- The role of a keyword that a rule reads without saying which role it has. -/
def keywordRole (s : State) : LeafRole :=
  let before := previous ts s
  if before = some .dot ∨ nth ts s 1 = .dot then .identifier
  else if before = some .doubleColon then .dataType
  else if before = some (.keyword .AS) ∧ !keywordsAfterAs.contains (current ts s) then
    if isBuiltinType (currentText ts s) then .dataType else .identifier
  else .keyword

/-- The role of an identifier that a rule reads without saying which role it has. -/
def identRole (s : State) : LeafRole :=
  let before := previous ts s
  if (before = some .doubleColon ∨ before = some (.keyword .AS))
      ∧ isBuiltinType (currentText ts s) then .dataType
  else .identifier

/-- The role that the kind of the current token and its neighbours suggest. -/
def inferredRole (s : State) : LeafRole :=
  match current ts s with
  | .ident => identRole ts s
  | .quotedIdent => .identifier
  | .operator | .colonEq | .doubleColon => .operator
  | .integer | .float | .string | .dollarString | .param | .error => .literal
  | .keyword _ => keywordRole ts s
  | _ => .punctuation

/-- Reads the current token in the role that it suggests. -/
def bump (s : State) : State :=
  take ts (inferredRole ts s) s

/-- Reads the current token in the role that it suggests if it is of the given kind. -/
def eat (kind : TokenKind) (s : State) : State :=
  if at? ts s kind then bump ts s else s

/-- Reads the current token in the given role if it is of the given kind, and else complains. -/
def require (kind : TokenKind) (role : LeafRole) (cause : Complaint) (s : State) : State :=
  if at? ts s kind then take ts role s else complain cause s

end

/-- Wraps what a rule records into a node. -/
def node (kind : NodeKind) (rule : State → State) (s : State) : State :=
  let t := rule { s with events := .open kind :: s.events }
  { t with events := .close :: t.events }

section
variable (ts : TokenStream)

/-- Makes the current token an error node. -/
def rejectToken (cause : Complaint) (s : State) : State :=
  node (.error 0) (fun s => take ts .literal (complain cause s)) s

/--
Repeats a rule while a condition holds. A rule that does not move forward ends the repetition.
-/
def repeatWhile (condition : State → Bool) (rule : State → State) (s : State) : State :=
  if condition s then
    let t := rule s
    if remaining ts t < remaining ts s then repeatWhile condition rule t else t
  else s
termination_by remaining ts s

/-- Whether a token closes the group that `opener` opened on the block level `outside`. -/
def closesGroup (opener : Token) (outside : Nat) (token : Token) : Bool :=
  match opener.kind with
  | .keyword .CASE => token.kind == .keyword .END && token.blockLevel == outside
  | .lParen | .lBracket => token.kind.isClosing && token.parenLevel == opener.parenLevel
  | _ => false

/-- Whether a token ends the error node of a block or loop, which keeps the rest of the body. -/
def endsKeptBody (opener : Token) (token : Token) : Bool :=
  match opener.kind with
  | .keyword .CASE | .lParen | .lBracket => false
  | _ => token.kind == .bodyClose

/-- Reads tokens up to and including the one that closes a group. -/
def takeGroup (opener : Token) (outside : Nat) (s : State) : State :=
  let token := ts.get (nthIndex ts s 0)
  if atEnd ts s || endsKeptBody opener token then s
  else
    let t := take ts .literal s
    if closesGroup opener outside token then t
    else if remaining ts t < remaining ts s then takeGroup opener outside t
    else t
termination_by remaining ts s

/-- Reads a whole group as one error node. -/
def rejectGroup (s : State) : State :=
  let opener := ts.get (nthIndex ts s 0)
  let outside := levelOutside ts s
  node (.error 0)
    (fun s => takeGroup ts opener outside (take ts .punctuation (complain .nestingTooDeep s))) s

/-- Runs a rule inside one more group, unless there are too many around it. -/
def nested (rule : State → State) (s : State) : State :=
  if s.depth < maxNesting then
    let t := rule { s with depth := s.depth + 1 }
    { t with depth := t.depth - 1 }
  else rejectGroup ts s

end
end Grammar
end SqlLayout
