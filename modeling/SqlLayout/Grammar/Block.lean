import SqlLayout.Grammar.Routine

/-!
# Statements of routine bodies

Blocks with declarations and handlers, conditionals and loops, and the choice of the rule for a
statement by the tokens at its start. The module ends with the grammar as a whole.
-/

namespace SqlLayout.Grammar

variable (ts : TokenStream) (g : Rules)

/-- Whether a label `<<name>>` is here. -/
def atLabel (s : State) : Bool :=
  atOperator ts s "<<" && (nth ts s 1).isName && nth ts s 2 == .operator
    && nthText ts s 2 == ">>".toList

/-- Reads a label, if there is one. -/
def label (s : State) : State :=
  if atLabel ts s then
    take ts .punctuation (take ts .identifier (take ts .punctuation s))
  else s

/-- Whether a kind does not follow the `BEGIN` of a block. -/
def followsTransaction : TokenKind → Bool
  | .semicolon | .keyword .TRANSACTION | .keyword .WORK | .keyword .ISOLATION => true
  | _ => false

/-- Whether the current token starts a statement that stands in routine bodies only. -/
def atBodyStatement (s : State) : Bool :=
  match current ts s with
  | .keyword .DECLARE | .keyword .IF | .keyword .LOOP | .keyword .WHILE | .keyword .FOR
  | .keyword .FOREACH | .keyword .CASE => true
  | .keyword .BEGIN => !followsTransaction (nth ts s 1)
  | _ => atLabel ts s

/-- The end of a construct after `END`: a label and a semicolon. -/
def endOfConstruct (s : State) : State :=
  let s :=
    match current ts s with
    | .ident | .quotedIdent => take ts .identifier s
    | _ => s
  eat ts .semicolon s

/-- `END` with the keyword of the construct that it ends. -/
def endWith (word : Keyword) (cause : Complaint) (s : State) : State :=
  if at? ts s (.keyword .END) then
    endOfConstruct ts (require ts (.keyword word) .keyword cause (take ts .keyword s))
  else complain cause s

/-! ### Blocks -/

/-- The variables of a block. -/
def declareSection (s : State) : State :=
  let stop := KindSet.ofList [.keyword .BEGIN, .bodyClose, .eof]
  let entry := fun s =>
    let t := declaration ts g .variable {} s
    if nthIndex ts t 0 ≠ nthIndex ts s 0 then t
    else if at? ts t .semicolon then take ts .punctuation t
    else rejectToken ts .unexpectedDeclarationToken t
  node .declareSection
    (fun s => repeatWhile ts (fun s => !atAny ts s stop) entry (take ts .keyword s)) s

/-- The handlers of a block. -/
def exceptionSection (s : State) : State :=
  let handler := whenBranch ts g (.statements none) [.keyword .WHEN, .keyword .END]
  node .exceptionSection
    (fun s => repeatWhile ts (at? ts · (.keyword .WHEN)) handler (take ts .keyword s)) s

/-- What stands between `BEGIN` and the end of a block. -/
def blockBody (s : State) : State :=
  let s := statementList ts g (.ofList [.keyword .EXCEPTION, .keyword .END]) none s
  let s := if at? ts s (.keyword .EXCEPTION) then exceptionSection ts g s else s
  if at? ts s (.keyword .END) then endOfConstruct ts (take ts .keyword s)
  else complain .expectedEnd s

/-- A block with its label and declarations. -/
def block (s : State) : State :=
  nested ts
    (node .block fun s =>
      let s := label ts s
      let s := if at? ts s (.keyword .DECLARE) then declareSection ts g s else s
      if at? ts s (.keyword .BEGIN) then blockBody ts g (take ts .keyword s)
      else complain .expectedBegin s)
    s

/-! ### Conditionals and loops -/

/-- One branch of a conditional, with its condition unless it is the last. -/
def conditionalBranch (s : State) : State :=
  node .conditionalBranch
    (fun s =>
      let isLast := at? ts s (.keyword .ELSE)
      let s := take ts .keyword s
      let s :=
        if isLast then s
        else
          require ts (.keyword .THEN) .keyword .expectedThen
            (expression ts g .expression (.before [.keyword .THEN]) s)
      statementList ts g (.ofList [.keyword .ELSIF, .keyword .ELSE, .keyword .END]) none s)
    s

/-- A conditional. -/
def ifStatement (s : State) : State :=
  nested ts
    (node .ifStatement fun s =>
      let s := repeatWhile ts
        (fun s => at? ts s (.keyword .ELSIF) || at? ts s (.keyword .ELSE))
        (conditionalBranch ts g) (conditionalBranch ts g s)
      endWith ts .IF .expectedEndIf s)
    s

/-- Number of tokens that are looked at for the targets of a loop over a query. -/
def maxLoopTargets : Nat := 16

/-- Index of the first token from the `n`-th on, among `limit`, that belongs to no target. -/
def skipLoopTargets (s : State) : (limit n : Nat) → Nat
  | 0, n => n
  | limit + 1, n =>
    let kind := nth ts s n
    if kind != .keyword .IN && (kind.isName || kind == .comma || kind == .dot) then
      skipLoopTargets s limit (n + 1)
    else n

/-- Whether targets, `IN` and a query follow `FOR`. -/
def atQueryLoop (s : State) : Bool :=
  let n := skipLoopTargets ts s maxLoopTargets 0
  let next := nth ts s (n + 1)
  0 < n && nth ts s n == .keyword .IN
    && [.SELECT, .WITH, .VALUES, .EXECUTE].any fun word => next == .keyword word

/-- What a loop runs over, before `LOOP`. -/
def loopHead (s : State) : State :=
  if at? ts s (.keyword .LOOP) then s
  else
    let isFor := at? ts s (.keyword .FOR)
    let s := take ts .keyword s
    if isFor && atQueryLoop ts s then
      let s := expression ts g .expression (.before [.keyword .IN]) s
      embeddedQuery ts g (.keyword .LOOP) (take ts .keyword s)
    else expression ts g .expression (.before [.keyword .LOOP]) s

/-- A loop with its label. -/
def loopStatement (s : State) : State :=
  nested ts
    (node .loopStatement fun s =>
      let s := loopHead ts g (label ts s)
      if at? ts s (.keyword .LOOP) then
        endWith ts .LOOP .expectedEndLoop
          (statementList ts g (.ofList [.keyword .END]) none (take ts .keyword s))
      else complain .expectedLoop s)
    s

/-! ### Statements -/

/-- A statement that stands in routine bodies only. -/
def bodyStatement (s : State) : State :=
  let labelled := atLabel ts s
  match nth ts s (if labelled then 3 else 0) with
  | .keyword .DECLARE | .keyword .BEGIN => block ts g s
  | .keyword .LOOP | .keyword .WHILE | .keyword .FOR | .keyword .FOREACH => loopStatement ts g s
  | .keyword .IF => if labelled then clauseStatement ts g s else ifStatement ts g s
  | .keyword .CASE => if labelled then clauseStatement ts g s else caseStatement ts g s
  | _ => clauseStatement ts g s

/-- Whether a kind after `DO` makes it a statement of its own. -/
def followsDo : TokenKind → Bool
  | .bodyOpen | .string | .dollarString | .keyword .LANGUAGE => true
  | _ => false

/-- Whether a kind after `END` makes it the end of a transaction. -/
def followsEnd : TokenKind → Bool
  | .semicolon | .keyword .TRANSACTION | .keyword .WORK | .eof => true
  | _ => false

/-- A statement that starts with none of the tokens that have a rule of their own. -/
def otherStatement (inBody : Bool) (s : State) : State :=
  if inBody && atBodyStatement ts s then bodyStatement ts g s else clauseStatement ts g s

/-- One statement. -/
def statement (inBody : Bool) (s : State) : State :=
  match current ts s with
  | .keyword .CREATE =>
    if atRoutineDefinition ts s then routineDefinition ts g s
    else if atTableDefinition ts s then tableDefinition ts g s
    else otherStatement ts g inBody s
  | .keyword .DO =>
    if followsDo (nth ts s 1) then doBlock ts g s else otherStatement ts g inBody s
  | .keyword .END =>
    if followsEnd (nth ts s 1) then otherStatement ts g inBody s
    else rejectToken ts .unexpectedEnd s
  | .rParen => rejectToken ts .unmatchedParen s
  | .bodyClose => rejectToken ts .unexpectedBodyEnd s
  | .error => rejectMalformed ts s
  | _ => otherStatement ts g inBody s

/-! ### The grammar as a whole -/

/--
The recursive rules, unfolded `depth` times. Below that, an operand is one token. Every unfolding but
the first reads a token first, so no more are needed than there are tokens.
-/
def rules : Nat → Rules
  | 0 => ⟨fun _ => bump ts, bump ts, fun _ s => s⟩
  | depth + 1 =>
    let inner := rules depth
    ⟨atom ts inner, parenthesized ts inner, statement ts inner⟩

/-- A whole source: statements up to the end of input. -/
def root (s : State) : State :=
  node .root
    (repeatWhile ts (fun s => !atEnd ts s) (guardedStatement ts (rules ts (ts.size + 2)) false)) s

/-- The state after a whole source has been read. -/
def run : State :=
  root ts {}

end SqlLayout.Grammar
