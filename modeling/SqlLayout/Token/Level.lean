import SqlLayout.Token.Lexeme

/-!
# Nesting levels

Every token carries the depth of brackets around it and the depth of `BEGIN … END` and `CASE … END`
after it. Opening and closing brackets carry the depth outside them. `BEGIN` opens a block unless it
starts a transaction, `CASE` opens one unless it follows `END`, and `END` closes one unless it ends an
`IF` or a `LOOP`. Trivia repeat the levels of the token before them.
-/

namespace SqlLayout

/-- Depth of brackets and depth of blocks. -/
structure Level where
  paren : Nat := 0
  block : Nat := 0
  deriving DecidableEq, Inhabited

namespace Level

/-- Whether `BEGIN` before this token starts a transaction and not a block. -/
def followsTransactionBegin : Option TokenKind → Bool
  | some .semicolon
  | some (.keyword .TRANSACTION)
  | some (.keyword .WORK)
  | some (.keyword .ISOLATION) => true
  | _ => false

/-- Whether `END` before this token ends an `IF` or a `LOOP` and not a block. -/
def followsInnerEnd : Option TokenKind → Bool
  | some (.keyword .IF) | some (.keyword .LOOP) => true
  | _ => false

/-- Block depth after a token between the given neighbours. -/
def blockAfter (block : Nat) (previous : Option TokenKind) (kind : TokenKind)
    (next : Option TokenKind) : Nat :=
  match kind with
  | .keyword .BEGIN => if followsTransactionBegin next then block else block + 1
  | .keyword .CASE => if previous = some (.keyword .END) then block else block + 1
  | .keyword .END => if followsInnerEnd next then block else block - 1
  | _ => block

/-- Bracket depth after a token. -/
def parenAfter (paren : Nat) (kind : TokenKind) : Nat :=
  if kind.isOpening then paren + 1 else if kind.isClosing then paren - 1 else paren

/-- Bracket depth that a token carries. -/
def parenOf (paren : Nat) (kind : TokenKind) : Nat :=
  if kind.isClosing then paren - 1 else paren

end Level

namespace TokenStream

/-- The kind of the first lexeme that is no trivia. -/
def firstSignificant (lexemes : List Lexeme) : Option TokenKind :=
  (lexemes.find? fun x => !x.kind.isTrivia).map Lexeme.kind

/--
Gives each lexeme its position and levels. `depth` are the depths after the significant tokens so
far, `previous` the last of them, and `shown` the levels that it carries.
-/
def place (start : Nat) (depth shown : Level) (previous : Option TokenKind) :
    List Lexeme → List Token
  | [] =>
    [{ kind := .eof, text := [], start := start, parenLevel := 0, blockLevel := shown.block }]
  | x :: rest =>
    let next := start + Text.byteLength x.text
    if x.kind.isTrivia then
      ⟨x.kind, x.text, start, shown.paren, shown.block⟩ :: place next depth shown previous rest
    else
      let block := Level.blockAfter depth.block previous x.kind (firstSignificant rest)
      let level : Level := ⟨Level.parenOf depth.paren x.kind, block⟩
      ⟨x.kind, x.text, start, level.paren, level.block⟩
        :: place next ⟨Level.parenAfter depth.paren x.kind, block⟩ level (some x.kind) rest

theorem place_ne_nil (start : Nat) (depth shown : Level) (previous : Option TokenKind)
    (lexemes : List Lexeme) : place start depth shown previous lexemes ≠ [] := by
  cases lexemes with
  | nil => simp [place]
  | cons x rest =>
    simp only [place]
    split <;> simp

theorem flatMap_text_place (start : Nat) (depth shown : Level) (previous : Option TokenKind)
    (lexemes : List Lexeme) :
    (place start depth shown previous lexemes).flatMap Token.text
      = lexemes.flatMap Lexeme.text := by
  induction lexemes generalizing start depth shown previous with
  | nil => rfl
  | cons x rest ih =>
    simp only [place]
    split <;> simp [ih]

/-- The token stream of a source. -/
def ofText (source : Text) : TokenStream where
  tokens := (place 0 {} {} none (Lexeme.scan {} source)).toArray
  nonempty := by
    simpa using List.length_pos_iff.2 (place_ne_nil 0 {} {} none (Lexeme.scan {} source))

/-- The tokens of a source put together give the source back. -/
@[simp] theorem source_ofText (t : Text) : (ofText t).source = t := by
  simp [source, ofText, flatMap_text_place, Lexeme.flatMap_text_scan]

end TokenStream
end SqlLayout
