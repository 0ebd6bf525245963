import SqlLayout.Grammar.Case

/-!
# Declarations

Arguments of a routine, columns of a table and variables of a block are declared alike: a mode, a name,
a type, a default value with its sign, and constraints, each a part of its own.
-/

namespace SqlLayout.Grammar

variable (ts : TokenStream) (g : Rules)

/-- What a declaration declares. -/
inductive Declared where
  | argument
  | column
  | variable
  deriving DecidableEq

/-- Keywords at the start of a constraint that belongs to no column. -/
def tableConstraintStart : KindSet := .ofList [
  .keyword .CONSTRAINT, .keyword .PRIMARY, .keyword .UNIQUE, .keyword .CHECK, .keyword .FOREIGN,
  .keyword .LIKE]

/-- Keywords at the start of a constraint after a default value; `NULL` is a value. -/
def defaultValueEnd : List TokenKind := [
  .keyword .NOT, .keyword .PRIMARY, .keyword .REFERENCES, .keyword .UNIQUE, .keyword .CHECK,
  .keyword .CONSTRAINT, .keyword .COLLATE]

/-- Keywords at the start of a constraint after a type. -/
def columnConstraintStart : KindSet := .ofList (.keyword .NULL :: defaultValueEnd)

/-- Kinds that end a type. -/
def typeEnd : KindSet := columnConstraintStart.union (.ofList [.keyword .DEFAULT, .colonEq])

/-- Modes of arguments. -/
def argumentModes : KindSet := .ofList [
  .keyword .IN, .keyword .OUT, .keyword .INOUT, .keyword .VARIADIC]

/-- First words of types that have several. -/
def typeFirstWords : List String := ["double", "character", "bit", "time", "timestamp"]

/-- Whether a declaration starts with a name and not with its type. -/
def startsWithName (declared : Declared) (s : State) : Bool :=
  if declared ≠ .argument then (current ts s).isName
  else if !(current ts s).isName || !(nth ts s 1).isName then false
  else
    let first := Text.asciiLower (currentText ts s)
    if !isBuiltinType first then true
    else !typeFirstWords.contains (String.ofList first) && isBuiltinType (nthText ts s 1)

/-- One word, modifier or pair of brackets of a type. -/
def typeAtom (s : State) : State :=
  match current ts s with
  | .lParen => parenthesized ts g s
  | .lBracket => bracketed ts g s
  | .ident | .quotedIdent | .keyword .WITH | .keyword .INTERVAL => take ts .dataType s
  | .keyword _ => if isBuiltinType (currentText ts s) then take ts .dataType s else bump ts s
  | .error => rejectMalformed ts s
  | _ => bump ts s

/-- The words of a type up to where it ends. -/
def typeAtoms (stop : Stop) (ends : KindSet) (s : State) : State :=
  repeatWhile ts
    (fun s => !stop.hit ts s && !atAny ts s ends && !atOperator ts s "=") (typeAtom ts g) s

/-- Whether the sign before a default value is here. -/
def atDefault (s : State) : Bool :=
  at? ts s (.keyword .DEFAULT) || at? ts s .colonEq || atOperator ts s "="

/-- A default value with the sign before it. -/
def defaultParts (declared : Declared) (stop : Stop) (s : State) : State :=
  let role : LeafRole := if at? ts s (.keyword .DEFAULT) then .keyword else .operator
  let s := node (.declarationPart .defaultIndicator) (take ts role) s
  let valueStop := if declared = .column then stop.also defaultValueEnd else stop
  expression ts g (.declarationPart .defaultValue) valueStop s

/-- A default value or a constraint. -/
def defaultOrConstraint (declared : Declared) (stop : Stop) (s : State) : State :=
  if atDefault ts s then defaultParts ts g declared stop s
  else
    nonemptyExpression ts g (.declarationPart .constraint)
      (stop.also [.keyword .DEFAULT, .colonEq]) s

/--
The parts of a declaration after its name. Default values and constraints may stand before the type;
whatever follows the type and is no default value is a constraint.
-/
def partsAfterName (declared : Declared) (stop : Stop) (s : State) : State :=
  let further := defaultOrConstraint ts g declared stop
  let s := repeatWhile ts
    (fun s => !stop.hit ts s && (atDefault ts s || atAny ts s columnConstraintStart)) further s
  if stop.hit ts s then s
  else
    let s := node (.declarationPart .dataType) (typeAtoms ts g stop typeEnd) s
    repeatWhile ts (fun s => !stop.hit ts s) further s

/-- One argument, column or variable; nothing if its place is empty. -/
def declaration (declared : Declared) (stop : Stop) (s : State) : State :=
  if stop.hit ts s then s
  else
    node .declaration
      (fun s =>
        let s :=
          if declared ≠ .variable ∧ atAny ts s tableConstraintStart then
            node (.declarationPart .constraint) (atomsUntil ts g stop) s
          else
            let s :=
              if declared = .argument ∧ atAny ts s argumentModes ∧ (nth ts s 1).isName then
                node (.declarationPart .mode) (take ts .keyword) s
              else s
            let s :=
              if startsWithName ts declared s then
                node (.declarationPart .name) (take ts .identifier) s
              else s
            partsAfterName ts g declared stop s
        if declared = .variable then eat ts .semicolon s else s)
      s

/-- Declarations in round brackets, separated by commas. -/
def declarationList (declared : Declared) (s : State) : State :=
  let entry := declaration ts g declared (.before [.comma])
  if !at? ts s .lParen then complain .expectedOpenParen s
  else
    nested ts
      (node .declarationList fun s =>
        let s := take ts .punctuation s
        let s :=
          if at? ts s .rParen then s
          else
            repeatWhile ts (at? ts · .comma) (fun s => entry (take ts .punctuation s)) (entry s)
        require ts .rParen .punctuation .expectedCloseParen s)
      s

end SqlLayout.Grammar
