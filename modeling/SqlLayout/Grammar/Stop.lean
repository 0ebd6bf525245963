import SqlLayout.Grammar.State

/-!
# Where expressions and clauses end

The keywords that open a clause of a statement, and the places where a run of operands and operators
ends: at a closing token in any case, at tokens that the surrounding rule names, and, inside a clause,
where the next clause starts.
-/

namespace SqlLayout.Grammar

/-- Tokens that end every expression, list and statement. -/
def alwaysStop : KindSet := .ofList [.semicolon, .rParen, .bodyClose, .eof]

section
variable (ts : TokenStream) (s : State)

/-- Whether the current token opens a clause of a statement. -/
def atClauseStart : Bool :=
  let before := previous ts s
  let next := nth ts s 1
  match current ts s with
  | .keyword word =>
    match word with
    | .SELECT | .WHERE | .HAVING | .WINDOW | .LIMIT | .OFFSET | .FETCH | .UNION | .INTERSECT
    | .EXCEPT | .VALUES | .RETURNING | .INTO | .SET | .USING | .RETURN | .RAISE | .PERFORM
    | .JOIN => true
    | .FROM => before != some (.keyword .DISTINCT)
    | .INSERT | .UPDATE | .DELETE =>
      !(before == some (.keyword .FOR) || before == some (.keyword .ON)
        || before == some (.keyword .DO))
    | .WITH => !nthIsWord ts s 1 "time"
    | .GROUP | .ORDER => next == .keyword .BY
    | .LEFT | .RIGHT => next == .keyword .JOIN || next == .keyword .OUTER
    | .FULL | .INNER | .CROSS | .NATURAL =>
      [.JOIN, .OUTER, .LEFT, .RIGHT, .FULL, .INNER].any fun k => next == .keyword k
    | .ON => before != some (.keyword .DISTINCT)
    | .DO => nthIsWord ts s 1 "nothing" || next == .keyword .UPDATE
    | _ => false
  | _ => false

end

/-- Where a run of operands and operators ends. -/
structure Stop where
  kinds : KindSet := .empty
  /-- Whether the start of a clause ends it too. -/
  clauses : Bool := false

namespace Stop

/-- Ends at the start of a clause. -/
def atClause : Stop := { clauses := true }

/-- Ends at the given kinds. -/
def before (kinds : List TokenKind) : Stop := { kinds := .ofList kinds }

/-- Ends at the given kinds too. -/
def also (stop : Stop) (kinds : List TokenKind) : Stop :=
  { stop with kinds := stop.kinds.union (.ofList kinds) }

/-- Whether the run ends at the current token. -/
def hit (ts : TokenStream) (stop : Stop) (s : State) : Bool :=
  atAny ts s (stop.kinds.union alwaysStop) || (stop.clauses && atClauseStart ts s)

end Stop

/--
The rules through which the grammar recurs: an operand, a parenthesized group and a statement, which
stands in a routine body or on the top level.
-/
structure Rules where
  atom : Stop → State → State
  group : State → State
  statement : (inBody : Bool) → State → State

end SqlLayout.Grammar
