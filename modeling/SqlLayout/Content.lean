import SqlLayout.Layout.Engine

/-!
# Checks of formatted texts

Formatting may change whitespace, the places of comments and letter case, and nothing else. `normalize`
writes the significant tokens of a source in a form that does not depend on these, so that equal forms
mean equal content. A text is stable if formatting it again changes nothing.
-/

namespace SqlLayout

/-- Why a formatted text is rejected. -/
inductive FormatError where
  /-- The source has syntax errors. -/
  | invalidInput (errors : List SyntaxError)
  /-- The formatted text has syntax errors. -/
  | brokenOutput (errors : List SyntaxError)
  | contentMismatch (expected actual : Text)
  | unstable (first second : Text)
  deriving DecidableEq

namespace FormatError

/-- Syntax errors in words, one after the other. -/
def listing (errors : List SyntaxError) : Text :=
  Text.join "; ".toList (errors.map SyntaxError.display)

/-- The reason in words. -/
def message : FormatError → Text
  | invalidInput errors => "invalid input SQL: ".toList ++ listing errors
  | brokenOutput errors => "formatter produced invalid SQL: ".toList ++ listing errors
  | contentMismatch expected actual =>
    "content mismatch: expected '".toList ++ expected ++ "', got '".toList ++ actual ++ ['\'']
  | unstable _ _ => "formatting is not idempotent".toList

end FormatError

/-- A token in a form that does not depend on letter case where formatting may change it. -/
def Token.normalized (t : Token) : Text :=
  if t.kind.isKeyword || t.kind == .ident then Text.toUpper t.text else t.text

/-- The tokens of a stream that carry content. -/
def TokenStream.significant (ts : TokenStream) : List Token :=
  ts.tokens.toList.filter fun t => !t.kind.isTrivia && t.kind != .eof

/-- The content of a token stream: its significant tokens in normal form, a space between them. -/
def TokenStream.normalize (ts : TokenStream) : Text :=
  Text.join [' '] (ts.significant.map Token.normalized)

/-- Compares the content of two texts. -/
def compareContent (expected actual : Text) : Except FormatError Unit :=
  if expected = actual then .ok () else .error (.contentMismatch expected actual)

/-- Checks that a formatted text has the content of its source, and that neither has errors. -/
def checkContent (source formatted : Text) : Except Tree.ParseFault (Except FormatError Unit) := do
  let before ← Tree.parse source
  if !before.errors.isEmpty then return .error (.invalidInput before.errors.toList)
  else
    let after ← Tree.parse formatted
    if !after.errors.isEmpty then return .error (.brokenOutput after.errors.toList)
    else return compareContent before.tokens.normalize after.tokens.normalize

/-- Compares what formatting once and twice gives. -/
def compareOutputs (first second : Text) : Except FormatError Text :=
  if first = second then .ok first else .error (.unstable first second)

/-- Formats a source twice, and gives the text if the second time changes nothing. -/
def checkStable (policy : Policy) (source : Text) :
    Except FormatFault (Except FormatError Text) := do
  let first ← formatBounded policy source
  let second ← formatBounded policy first
  return compareOutputs first second

/-- A formatted text with the reasons to reject it. -/
structure Checked where
  output : Text
  errors : List FormatError

/-- Whether there is no reason to reject the text. -/
def Checked.isValid (c : Checked) : Bool :=
  c.errors.isEmpty

/-- The error of a check as a list. -/
def errorList {α : Type} : Except FormatError α → List FormatError
  | .ok _ => []
  | .error e => [e]

/-- Formats a source and checks its content and its stability. -/
def formatChecked (policy : Policy) (source : Text) : Except FormatFault Checked := do
  let output ← formatBounded policy source
  let content ← (checkContent source output).mapError .parse
  let again ← formatBounded policy output
  return ⟨output, errorList content ++ errorList (compareOutputs output again)⟩

end SqlLayout
