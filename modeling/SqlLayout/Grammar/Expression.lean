import SqlLayout.Grammar.Stop

/-!
# Expressions, lists and statements made of clauses

An expression is a run of atoms: names, constants, operators, calls, groups in brackets, `CASE` and
`BETWEEN`. A statement is a run of clauses, each with its keywords and a list or an expression.
-/

namespace SqlLayout.Grammar

variable (ts : TokenStream) (g : Rules)

/-- Makes a token that is none an error node, with the reason why it is none. -/
def rejectMalformed (s : State) : State :=
  let text := currentText ts s
  let cause : Complaint :=
    if ['/', '*'].isPrefixOf text then .unterminatedComment
    else if text.head? = some '"' then .unterminatedQuotedIdent
    else if text.head? = some '$' ∧ 1 < text.length then .unterminatedDollarString
    else if text.contains '\'' then .unterminatedString
    else .unexpectedCharacter
  rejectToken ts cause s

/-! ### Runs of atoms and lists -/

/-- Atoms up to where a run ends. -/
def atomsUntil (stop : Stop) (s : State) : State :=
  repeatWhile ts (fun s => !stop.hit ts s) (g.atom stop) s

/-- A run of atoms as a node; nothing if the run is empty. -/
def expression (kind : NodeKind) (stop : Stop) (s : State) : State :=
  if stop.hit ts s then s else node kind (atomsUntil ts g stop) s

/-- A run with at least one atom as a node. -/
def nonemptyExpression (kind : NodeKind) (stop : Stop) (s : State) : State :=
  node kind (fun s => atomsUntil ts g stop (g.atom stop s)) s

/-- Elements separated by commas as a node; nothing if the list is empty. -/
def commaList (stop : Stop) (s : State) : State :=
  let elementStop := stop.also [.comma]
  let element := expression ts g .listElement elementStop
  if elementStop.hit ts s && !at? ts s .comma then s
  else
    node .commaList
      (fun s => repeatWhile ts (at? ts · .comma) (fun s => element (bump ts s)) (element s)) s

/-! ### Clauses -/

/-- Severities after `RAISE` that are no keywords. -/
def raiseLevels : List String := ["debug", "log", "info", "notice", "warning"]

/-- Whether a severity follows `RAISE`. -/
def atRaiseLevel (s : State) : Bool :=
  at? ts s (.keyword .EXCEPTION) || (at? ts s .ident && raiseLevels.any (nthIsWord ts s 0))

/-- Reads one of two keywords, if one of them is there. -/
def eatEither (first second : Keyword) (s : State) : State :=
  if at? ts s (.keyword first) then bump ts s else eat ts (.keyword second) s

/-- `DISTINCT`, with the expressions after `ON`, or `ALL`. -/
def selectQuantifier (s : State) : State :=
  if at? ts s (.keyword .DISTINCT) then
    let s := bump ts s
    if at? ts s (.keyword .ON) && nth ts s 1 == .lParen then g.group (bump ts s) else s
  else eat ts (.keyword .ALL) s

/-- The further keywords of a clause that `first` opens. -/
def clauseKeywordsAfter (first : Keyword) (s : State) : State :=
  match first with
  | .SELECT => selectQuantifier ts g s
  | .GROUP | .ORDER => eat ts (.keyword .BY) s
  | .UNION | .INTERSECT | .EXCEPT => eatEither ts .ALL .DISTINCT s
  | .INSERT => eat ts (.keyword .INTO) s
  | .DELETE => eat ts (.keyword .FROM) s
  | .WITH => eat ts (.keyword .RECURSIVE) s
  | .ON => eat ts (.keyword .CONFLICT) s
  | .DO => bump ts s
  | .RAISE => if atRaiseLevel ts s then take ts .keyword s else s
  | .RETURN => eatEither ts .QUERY .NEXT s
  | .LEFT | .RIGHT | .FULL | .INNER | .CROSS | .NATURAL =>
    let isQualifier := fun s => !at? ts s (.keyword .JOIN) && (current ts s).isKeyword
    eat ts (.keyword .JOIN) (repeatWhile ts isQualifier (bump ts) s)
  | _ => s

/-- Whether the body of a clause is a list. -/
def hasListBody : Keyword → Bool
  | .SELECT | .GROUP | .ORDER | .SET | .RETURNING | .VALUES | .FROM | .WITH | .INTO | .WINDOW
  | .PERFORM => true
  | _ => false

/-- One clause: its keywords with a list or an expression, or a run of atoms without keywords. -/
def clause (stop : Stop) (s : State) : State :=
  node .clause
    (fun s =>
      match atClauseStart ts s, current ts s with
      | true, .keyword first =>
        let s := clauseKeywordsAfter ts g first (bump ts s)
        if hasListBody first then commaList ts g stop s else expression ts g .expression stop s
      | _, _ => nonemptyExpression ts g .expression stop s)
    s

/-- Clauses up to a token of the given kinds. -/
def clausesUntil (kinds : KindSet) (stop : Stop) (s : State) : State :=
  repeatWhile ts (fun s => !atAny ts s kinds) (clause ts g stop) s

/-- A statement made of clauses and ended by a semicolon. -/
def clauseStatement (s : State) : State :=
  node .statement (fun s => eat ts .semicolon (clausesUntil ts g alwaysStop .atClause s)) s

/-- A query inside another statement, which a token of the given kind ends. -/
def embeddedQuery (stop : TokenKind) (s : State) : State :=
  node .statement
    (clausesUntil ts g (alwaysStop.union (.ofList [stop])) (Stop.atClause.also [stop])) s

/-! ### Groups -/

/-- Keywords at the start of a subquery. -/
def subqueryStart : KindSet := .ofList [
  .keyword .SELECT, .keyword .WITH, .keyword .VALUES, .keyword .INSERT, .keyword .UPDATE,
  .keyword .DELETE]

/-- A subquery, a list or nothing in round brackets. -/
def parenthesized (s : State) : State :=
  nested ts
    (node .parenthesized fun s =>
      let s := take ts .punctuation s
      let s :=
        if atAny ts s subqueryStart then clauseStatement ts g s
        else if at? ts s .rParen then s
        else commaList ts g {} s
      if at? ts s .rParen then bump ts s else complain .expectedCloseParen s)
    s

/-- Subscripts and array elements in square brackets, kept in the surrounding node. -/
def bracketed (s : State) : State :=
  let stop := Stop.before [.rBracket, .comma]
  nested ts
    (fun s =>
      let s := atomsUntil ts g stop (take ts .punctuation s)
      let s := repeatWhile ts (at? ts · .comma)
        (fun s => atomsUntil ts g stop (take ts .punctuation s)) s
      require ts .rBracket .punctuation .expectedCloseBracket s)
    s

/-- `BETWEEN low AND high` as one node, so that its `AND` is no logical operator. -/
def between (stop : Stop) (s : State) : State :=
  node .expression
    (fun s =>
      let s := atomsUntil ts g (stop.also [.keyword .AND]) (bump ts s)
      if at? ts s (.keyword .AND) then
        atomsUntil ts g (stop.also [.keyword .AND, .keyword .OR]) (bump ts s)
      else s)
    s

/-! ### Calls -/

/-- Keywords that name a function when they stand right before a round bracket. -/
def callableKeywords : KindSet := .ofList [
  .keyword .CAST, .keyword .LEFT, .keyword .RIGHT, .keyword .REPLACE, .keyword .ARRAY]

/-- Number of further names, at most `limit`, that follow the `n`-th token, each after a dot. -/
def furtherNames (s : State) : (limit n : Nat) → Nat
  | 0, _ => 0
  | limit + 1, n =>
    if nth ts s (n + 1) == .dot && (nth ts s (n + 2)).isName then
      1 + furtherNames s limit (n + 2)
    else 0

/--
Number of names before the round bracket if a call starts here. A name right before the bracket is
called; built-in functions and types are called even with blanks between.
-/
def callNames? (s : State) : Option Nat :=
  if !(current ts s).isName then none
  else
    let further := furtherNames ts s ts.size 0
    let last := 2 * further
    if nth ts s (last + 1) != .lParen then none
    else
      let glued := !nthIsSpaced ts s (last + 1)
      let kind := nth ts s last
      let text := nthText ts s last
      let isCall :=
        if kind.isKeyword then glued && (callableKeywords.contains kind || 0 < further)
        else glued || isBuiltinFunction text || isBuiltinType text
      if isCall then some (further + 1) else none

/-- The role of the only name of a call. -/
def calleeRole (s : State) : LeafRole :=
  let text := currentText ts s
  if isBuiltinFunction text then .function
  else if isBuiltinType text then .dataType
  else if (current ts s).isKeyword then .function
  else .identifier

/-- Reads `n` further names of a call, each after a dot. -/
def takeFurtherNames : Nat → State → State
  | 0, s => s
  | n + 1, s => takeFurtherNames n (take ts .identifier (take ts .punctuation s))

/-- A call with the given number of names before its bracket. -/
def functionCall (names : Nat) (s : State) : State :=
  node .functionCall
    (fun s =>
      let role := if names = 1 then calleeRole ts s else .identifier
      parenthesized ts g (takeFurtherNames ts (names - 1) (take ts role s)))
    s

end SqlLayout.Grammar
