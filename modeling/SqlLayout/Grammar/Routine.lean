import SqlLayout.Grammar.Declaration

/-!
# Definitions of routines and tables

`CREATE FUNCTION` and `CREATE PROCEDURE` with their arguments, attributes and body, `CREATE TABLE` with
its columns, and `DO` with a body of its own.
-/

namespace SqlLayout.Grammar

variable (ts : TokenStream) (g : Rules)

/-- Keywords at the start of an attribute of a routine. -/
def attributeStart : List TokenKind := [
  .keyword .AS, .keyword .RETURNS, .keyword .LANGUAGE, .keyword .IMMUTABLE, .keyword .STABLE,
  .keyword .VOLATILE, .keyword .STRICT, .keyword .SET, .keyword .WINDOW]

/-- Whether a kind is `FUNCTION` or `PROCEDURE`. -/
def isRoutineWord : TokenKind → Bool
  | .keyword .FUNCTION | .keyword .PROCEDURE => true
  | _ => false

/-- Whether `CREATE` here defines a routine. -/
def atRoutineDefinition (s : State) : Bool :=
  let n := if nth ts s 1 == .keyword .OR && nth ts s 2 == .keyword .REPLACE then 3 else 1
  isRoutineWord (nth ts s n)

/-- Whether the `n`-th token says how a table is stored. -/
def isTableModifier (s : State) (n : Nat) : Bool :=
  match nth ts s n with
  | .keyword .TEMP | .keyword .TEMPORARY | .keyword .UNLOGGED => true
  | .ident => nthIsWord ts s n "global" || nthIsWord ts s n "local"
  | _ => false

/-- Index of the first token from the `n`-th on, among `limit`, that is no such word. -/
def skipTableModifiers (s : State) : (limit n : Nat) → Nat
  | 0, n => n
  | limit + 1, n => if isTableModifier ts s n then skipTableModifiers s limit (n + 1) else n

/-- Whether `CREATE` here defines a table by its columns. -/
def atTableDefinition (s : State) : Bool :=
  let n := skipTableModifiers ts s ts.size 1
  if nth ts s n != .keyword .TABLE then false
  else
    let unlessExists :=
      nth ts s (n + 1) == .keyword .IF && nth ts s (n + 2) == .keyword .NOT
        && nth ts s (n + 3) == .keyword .EXISTS
    let n := if unlessExists then n + 4 else n + 1
    (nth ts s n).isName && nth ts s (n + 2 * furtherNames ts s ts.size n + 1) == .lParen

/-- A name with the names that qualify it. -/
def qualifiedName (s : State) : State :=
  if !(current ts s).isName then complain .expectedName s
  else
    repeatWhile ts (fun s => at? ts s .dot && (nth ts s 1).isName)
      (fun s => take ts .identifier (take ts .punctuation s)) (take ts .identifier s)

/-- An attribute of a routine: its keyword and what follows up to the next one. -/
def routineAttribute (s : State) : State :=
  node .clause
    (fun s => expression ts g .expression (.before attributeStart) (take ts .keyword s)) s

/-- `RETURNS` with a type or with the columns of a table. -/
def returnsClause (s : State) : State :=
  let stop := Stop.before attributeStart
  node .clause
    (fun s =>
      let s := take ts .keyword s
      if at? ts s (.keyword .TABLE) && nth ts s 1 == .lParen then
        declarationList ts g .column (take ts .keyword s)
      else if stop.hit ts s || atOperator ts s "=" then s
      else node .expression (typeAtoms ts g stop .empty) s)
    s

/-- The body of a routine: statements between delimiters, or constants after `AS`. -/
def routineBody (s : State) : State :=
  let stop := Stop.before attributeStart
  node .functionBody
    (fun s =>
      let s := if at? ts s (.keyword .AS) then take ts .keyword s else s
      if at? ts s .bodyOpen then
        let s := statementList ts g .empty none (take ts .punctuation s)
        require ts .bodyClose .punctuation .expectedBodyEnd s
      else
        repeatWhile ts (fun s => !stop.hit ts s)
          (fun s => if at? ts s .error then rejectMalformed ts s else bump ts s) s)
    s

/-- Reads keywords up to and including the first one that satisfies `p`. -/
def takeKeywordsThrough (p : TokenKind → Bool) (s : State) : State :=
  let s := repeatWhile ts (fun s => !atEnd ts s && !p (current ts s)) (take ts .keyword) s
  if atEnd ts s then s else take ts .keyword s

/-- The definition of a function or procedure. -/
def routineDefinition (s : State) : State :=
  let part := fun s =>
    match current ts s with
    | .keyword .AS => routineBody ts g s
    | .keyword .RETURNS => returnsClause ts g s
    | _ => routineAttribute ts g s
  node .functionDefinition
    (fun s =>
      let s := qualifiedName ts (takeKeywordsThrough ts isRoutineWord s)
      let s :=
        if at? ts s .lParen then declarationList ts g .argument s
        else complain .expectedArguments s
      eat ts .semicolon (repeatWhile ts (fun s => !atAny ts s alwaysStop) part s))
    s

/-- The definition of a table by its columns. -/
def tableDefinition (s : State) : State :=
  node .tableDefinition
    (fun s =>
      let s := takeKeywordsThrough ts (· == .keyword .TABLE) s
      let s :=
        if at? ts s (.keyword .IF) then
          take ts .keyword (take ts .keyword (take ts .keyword s))
        else s
      let s := declarationList ts g .column (qualifiedName ts s)
      eat ts .semicolon (clausesUntil ts g alwaysStop .atClause s))
    s

/-- `DO` with a body. -/
def doBlock (s : State) : State :=
  let language := fun s => if at? ts s (.keyword .LANGUAGE) then routineAttribute ts g s else s
  node .doBlock
    (fun s =>
      let s := language (take ts .keyword s)
      let s :=
        match current ts s with
        | .bodyOpen => routineBody ts g s
        | .string | .dollarString => node .functionBody (take ts .literal) s
        | _ => complain .expectedDoBody s
      eat ts .semicolon (language s))
    s

end SqlLayout.Grammar
