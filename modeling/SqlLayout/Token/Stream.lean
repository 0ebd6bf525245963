import SqlLayout.Token.Kind

/-!
# Tokens and token streams

A token has a kind, its text, the byte offset at which it starts, and two nesting levels. A stream
holds every token of a source, trivia included, and ends with an empty end-of-input token, so that
looking past the end needs no bounds: `get` stays on the last token.
-/

namespace SqlLayout

/-- A token of a source. -/
structure Token where
  kind : TokenKind
  text : Text
  /-- Byte offset of the first character. -/
  start : Nat
  /-- Bracket depth; brackets carry the depth outside them. -/
  parenLevel : Nat := 0
  /-- Depth of `BEGIN … END` and `CASE … END` after this token. -/
  blockLevel : Nat := 0
  deriving DecidableEq, Inhabited

/-- Byte offset just past the token. -/
def Token.stop (t : Token) : Nat :=
  t.start + Text.byteLength t.text

/-- Every token of a source, the end of input included. -/
structure TokenStream where
  tokens : Array Token
  nonempty : 0 < tokens.size

instance : Inhabited TokenStream where
  default := ⟨#[default], Nat.one_pos⟩

namespace TokenStream

/-- Number of tokens, the end of input included. -/
def size (s : TokenStream) : Nat :=
  s.tokens.size

/-- Whether the stream holds nothing but the end of input. -/
def isEmpty (s : TokenStream) : Bool :=
  s.size ≤ 1

/-- Index of the end of input. -/
def lastIndex (s : TokenStream) : Nat :=
  s.size - 1

theorem lastIndex_lt_size (s : TokenStream) : s.lastIndex < s.tokens.size := by
  have := s.nonempty
  simp only [lastIndex, size]
  omega

/-- The token at an index; past the end, the last token. -/
def get (s : TokenStream) (i : Nat) : Token :=
  have : min i s.lastIndex < s.tokens.size := by
    have := s.lastIndex_lt_size
    omega
  s.tokens[min i s.lastIndex]

/-- Kind of the token at an index. -/
def kind (s : TokenStream) (i : Nat) : TokenKind :=
  (s.get i).kind

/-- Text of the token at an index. -/
def text (s : TokenStream) (i : Nat) : Text :=
  (s.get i).text

/-- The source is the texts of all tokens, one after the other. -/
def source (s : TokenStream) : Text :=
  s.tokens.toList.flatMap Token.text

/-- Text of the tokens from index `first` up to but not including `past`, trivia included. -/
def slice (s : TokenStream) (first past : Nat) : Text :=
  if first ≥ past then []
  else
    let low := min first s.lastIndex
    let high := min (past - 1) s.lastIndex
    ((s.tokens.toList.drop low).take (high + 1 - low)).flatMap Token.text

/-- Block level outside the construct that a token opens; `CASE` raises the level on itself. -/
def levelOutside (s : TokenStream) (i : Nat) : Nat :=
  let token := s.get i
  if token.kind = .keyword .CASE then token.blockLevel - 1 else token.blockLevel

/-- Whether an index is at the end of input. -/
def isEof (s : TokenStream) (i : Nat) : Bool :=
  s.kind i == .eof

/-- Whether a semicolon stands at an index. -/
def isStatementEnd (s : TokenStream) (i : Nat) : Bool :=
  s.kind i == .semicolon

/-- Index of the first token at or after `i` that is no trivia; the last token ends the search. -/
def nextSignificant (s : TokenStream) (i : Nat) : Nat :=
  if i < s.lastIndex ∧ (s.kind i).isTrivia then nextSignificant s (i + 1) else i
termination_by s.lastIndex - i

/-- The last index below `bound` whose kind satisfies `p`. -/
def findBackward (s : TokenStream) (p : TokenKind → Bool) : Nat → Option Nat
  | 0 => none
  | i + 1 => if p (s.kind i) then some i else findBackward s p i

/-- The first of `count` indices from `i` on whose kind satisfies `p`. -/
def findForward (s : TokenStream) (p : TokenKind → Bool) : (count i : Nat) → Option Nat
  | 0, _ => none
  | count + 1, i => if p (s.kind i) then some i else findForward s p count (i + 1)

/-- Index of the last token before `i` that is no trivia. -/
def prevSignificant (s : TokenStream) (i : Nat) : Option Nat :=
  s.findBackward (fun k => !k.isTrivia) (min i s.size)

/-- Whether only blanks stand between a token and a line feed or the start of input before it. -/
def startsLine (s : TokenStream) (i : Nat) : Bool :=
  match s.findBackward (· != .whitespace) (min i s.size) with
  | some j => s.kind j == .linefeed
  | none => true

/-- Whether only blanks stand between a token and a line feed or the end of input after it. -/
def endsLine (s : TokenStream) (i : Nat) : Bool :=
  match s.findForward (· != .whitespace) (s.size - (i + 1)) (i + 1) with
  | some j => s.kind j == .linefeed || s.kind j == .eof
  | none => true

/-- Whether whitespace stands right before a token. -/
def hasSpaceBefore (s : TokenStream) (i : Nat) : Bool :=
  0 < i && (s.kind (i - 1)).isWhitespace

/-- Whether a line feed is among the tokens from index `first` up to but not including `past`. -/
def hasLinefeedBetween (s : TokenStream) (first past : Nat) : Bool :=
  (List.range' first (min past s.size - first)).any fun i => s.kind i == .linefeed

end TokenStream
end SqlLayout
