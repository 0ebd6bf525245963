import SqlLayout.Grammar.Expression

/-!
# `CASE`, branches and lists of statements

`CASE` is an expression or, in a routine body, a statement that ends with `END CASE`. Its branches hold
expressions in the first case and lists of statements in the second; the handlers of a block have the
second form too.
-/

namespace SqlLayout.Grammar

variable (ts : TokenStream) (g : Rules)

/-- A statement; if it reads nothing, the current token is an error node. -/
def guardedStatement (inBody : Bool) (s : State) : State :=
  let t := g.statement inBody s
  if nthIndex ts t 0 = nthIndex ts s 0 ∧ !atEnd ts t then rejectToken ts .unexpectedToken t else t

/-- Reads an `END` that closes nothing around it, up to the end of its statement. -/
def unbalancedEnd (s : State) : State :=
  node (.error 0)
    (fun s =>
      let s := complain .unexpectedEndInCase s
      let s := repeatWhile ts (fun s => !atAny ts s alwaysStop) (take ts .literal) s
      if at? ts s .semicolon then take ts .punctuation s else s)
    s

/--
Whether a list of statements ends at the current token. With a block level outside the list, an `END`
ends it only on that level.
-/
def listEnds (stop : KindSet) (outside : Option Nat) (s : State) : Bool :=
  atAny ts s stop
    && !(at? ts s (.keyword .END) && outside.any fun level => decide (level < blockLevel ts s))

/-- Statements of a routine body as a node; nothing if there are none. -/
def statementList (stop : KindSet) (outside : Option Nat) (s : State) : State :=
  let stop := stop.union (.ofList [.bodyClose, .eof])
  let entry := fun s =>
    if at? ts s (.keyword .END) && stop.contains (.keyword .END) then unbalancedEnd ts s
    else guardedStatement ts g true s
  if listEnds ts stop outside s then s
  else node .statementList (repeatWhile ts (fun s => !listEnds ts stop outside s) entry) s

/-- What a branch leads to: an expression, or statements. -/
inductive BranchForm where
  | expression
  /-- Statements; an `END` ends them only on the level outside, if there is one. -/
  | statements (outside : Option Nat)

/-- The result of a branch. -/
def branchResult (form : BranchForm) (stop : List TokenKind) (s : State) : State :=
  match form with
  | .expression => expression ts g .expression (.before stop) s
  | .statements outside => statementList ts g (.ofList stop) outside s

/-- `WHEN condition THEN result`. -/
def whenBranch (form : BranchForm) (stop : List TokenKind) (s : State) : State :=
  node .whenBranch
    (fun s =>
      let s := take ts .keyword s
      let s := expression ts g .expression (.before (stop ++ [.keyword .THEN])) s
      if at? ts s (.keyword .THEN) then branchResult ts g form stop (take ts .keyword s)
      else complain .expectedThen s)
    s

/-- Kinds that end a part of `CASE`. -/
def caseParts : List TokenKind := [.keyword .WHEN, .keyword .ELSE, .keyword .END]

/-- The branches of `CASE`, with its operand before them and its `ELSE` after them. -/
def caseBranches (form : BranchForm) (s : State) : State :=
  let s :=
    if at? ts s (.keyword .WHEN) then s
    else expression ts g .expression (.before caseParts) s
  let s := repeatWhile ts (at? ts · (.keyword .WHEN)) (whenBranch ts g form caseParts) s
  if at? ts s (.keyword .ELSE) then
    node .elseBranch
      (fun s => branchResult ts g form [.keyword .END] (take ts .keyword s)) s
  else s

/-- A `CASE` expression. -/
def caseExpression (s : State) : State :=
  nested ts
    (node .caseOf fun s =>
      let s := caseBranches ts g .expression (take ts .keyword s)
      require ts (.keyword .END) .keyword .expectedEnd s)
    s

/-- A `CASE` statement. -/
def caseStatement (s : State) : State :=
  nested ts
    (node .caseStatement fun s =>
      let outside := levelOutside ts s
      let s := caseBranches ts g (.statements (some outside)) (take ts .keyword s)
      if at? ts s (.keyword .END) then
        let s := take ts .keyword s
        let s := if at? ts s (.keyword .CASE) then take ts .keyword s else s
        eat ts .semicolon s
      else complain .expectedEnd s)
    s

/-- An operand, an operator or a group. -/
def atom (stop : Stop) (s : State) : State :=
  match current ts s with
  | .lParen => parenthesized ts g s
  | .lBracket => bracketed ts g s
  | .keyword .CASE => caseExpression ts g s
  | .keyword .BETWEEN => between ts g stop s
  | .error => rejectMalformed ts s
  | _ =>
    match callNames? ts s with
    | some names => functionCall ts g names s
    | none => bump ts s

end SqlLayout.Grammar
