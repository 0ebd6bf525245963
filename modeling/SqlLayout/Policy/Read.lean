import SqlLayout.Policy.Basic

/-!
# Reading policies

A policy is written as lines `key = value`; empty lines and lines that start with `#` say nothing. Each
line changes one setting, and what it does depends on that line only: `update?` reads a line as a change
of the policy, and `Policy.read` applies the changes in order to the default policy. The first line that
cannot be read is the error.
-/

namespace SqlLayout

open Number (Single)

/-- Why a policy cannot be read; lines are counted from one. -/
inductive PolicyError where
  | notASetting (line : Nat)
  | unknownKey (line : Nat) (key : Text)
  | invalidValue (line : Nat) (key value : Text)
  deriving DecidableEq

/-- The error in words. -/
def PolicyError.message : PolicyError → Text
  | notASetting line => s!"line {line}: expected \x60key = value\x60".toList
  | unknownKey line key =>
    s!"line {line}: unknown key \x60".toList ++ key ++ "\x60".toList
  | invalidValue line key value =>
    s!"line {line}: invalid value \x60".toList ++ value ++ "\x60 for \x60".toList ++ key
      ++ "\x60".toList

namespace Policy

/-- What a line does to a policy. -/
abbrev Update := Policy → Policy

/-! ### Values -/

/-- Reads a count. -/
def count? (value : Text) : Option Nat :=
  Number.read? Number.wordBound value

/-- Reads a limit; zero unsets it. -/
def limit? (value : Text) : Option (Option Nat) :=
  (count? value).map fun n => if n = 0 then none else some n

/-- Reads a finite weight. -/
def weight? (value : Text) : Option Single :=
  (Single.read? value).filter Single.isFinite

/-- Reads yes or no. -/
def switch? : String → Option Bool
  | "1" | "true" | "yes" | "on" => some true
  | "0" | "false" | "no" | "off" => some false
  | _ => none

/-- Reads a letter case by name or code. -/
def letterCase? : String → Option LetterCase
  | "unchanged" | "preserve" => some .unchanged
  | "lower" | "lowercase" => some .lower
  | "upper" | "uppercase" => some .upper
  | "capitalize" => some .capitalize
  | name => (Number.read? Number.byteBound name.toList).bind LetterCase.ofCode?

/-- Reads where further lines of a list start. -/
def listIndent? : String → Option ListIndent
  | "indent" => some .indent
  | "double_indent" | "double-indent" => some .doubleIndent
  | "align" => some .align
  | "subsequent" => some .subsequent
  | _ => none

/-- Reads where commas stand. -/
def commaPosition? : String → Option CommaPosition
  | "before" | "start" => some .before
  | "after" | "end" => some .after
  | _ => none

/-- Reads how broken groups are laid out. -/
def parenLayout? : String → Option ParenLayout
  | "glued" => some .glued
  | "own-lines" | "own_lines" => some .ownLines
  | _ => none

/-- Reads where closing brackets stand. -/
def closingParen? : String → Option ClosingParen
  | "same-line" | "same_line" => some .sameLine
  | "own-line" | "own_line" => some .ownLine
  | _ => none

/-- Reads where `WHEN` stands. -/
def whenPosition? : String → Option WhenPosition
  | "under-case" | "under_case" => some .underCase
  | "indented" => some .indented
  | "after-case" | "after_case" => some .afterCase
  | _ => none

/-- Reads where `THEN` stands. -/
def thenPosition? : String → Option ThenPosition
  | "after-when" | "after_when" => some .afterWhen
  | "aligned" => some .aligned
  | "new-line" | "new_line" => some .newLine
  | _ => none

/-- Reads where `ELSE` stands. -/
def elsePosition? : String → Option ElsePosition
  | "under-when" | "under_when" => some .underWhen
  | "under-then" | "under_then" => some .underThen
  | _ => none

/-- Reads where `END` stands. -/
def endPosition? : String → Option EndPosition
  | "under-case" | "under_case" => some .underCase
  | "under-when" | "under_when" => some .underWhen
  | "same-line" | "same_line" => some .sameLine
  | _ => none

/--
Reads an alignment: a name, with a column after `fixed` and with no or two bounds after `vertical`,
separated by colons. What follows the name of the subsequent alignment says nothing.
-/
def alignment? (name : Text) : Option ColumnAlignment :=
  match (Text.pieces ':' name).map String.ofList with
  | "subsequent" :: _ | "none" :: _ => some .subsequent
  | ["fixed", column] => (count? column.toList).map .fixed
  | ["vertical"] => some .unbounded
  | ["vertical", low, high] =>
    match count? low.toList, count? high.toList with
    | some low, some high => if ordered : low ≤ high then some (.vertical low high ordered) else none
    | _, _ => none
  | _ => none

/-! ### Settings -/

/-- Changes a part of the policy. -/
def onLists (f : ListPolicy → ListPolicy) : Update := fun p => { p with lists := f p.lists }

/-- Changes a part of the policy. -/
def onQueries (f : QueryPolicy → QueryPolicy) : Update := fun p => { p with queries := f p.queries }

/-- Changes a part of the policy. -/
def onCases (f : CasePolicy → CasePolicy) : Update := fun p => { p with cases := f p.cases }

/-- Changes a part of the policy. -/
def onArguments (f : ArgumentPolicy → ArgumentPolicy) : Update :=
  fun p => { p with arguments := f p.arguments }

/-- Sets the comma position if the switch is on, and nothing if it is off. -/
def commaWhen (position : CommaPosition) (isOn : Bool) : Update :=
  if isOn then onLists fun l => { l with comma := position } else id

/--
The settings: for each key, in its normal form, how the value becomes a change of the policy. The value
comes as it was written, and in lower case.
-/
def settings (value : Text) (name : String) : List (List String × Option Update) := [
  (["line_width", "wrap_limit", "max_width"],
    ((count? value).filter (0 < ·)).map fun n p => { p with lineWidth.value := n }),
  (["line_width_weight"], (weight? value).map fun w p => { p with lineWidth.weight := w }),
  (["indent", "spaces", "indent_size"], (count? value).map fun n p => { p with indentSize := n }),
  (["keyword_case"], (letterCase? name).map fun c p => { p with keywordCase := c }),
  (["function_case"], (letterCase? name).map fun c p => { p with functionCase := c }),
  (["type_case"], (letterCase? name).map fun c p => { p with typeCase := c }),
  (["comma_list_indent"],
    (listIndent? name).map fun i => onLists fun l => { l with indent := i }),
  (["comma_position"],
    (commaPosition? name).map fun c => onLists fun l => { l with comma := c }),
  (["comma_start"], (switch? name).map (commaWhen .before)),
  (["comma_end"], (switch? name).map (commaWhen .after)),
  (["comma_list_max_single_line_length"],
    (limit? value).map fun n => onLists fun l => { l with maxLine.value := n }),
  (["comma_list_max_single_line_length_weight"],
    (weight? value).map fun w => onLists fun l => { l with maxLine.weight := w }),
  (["comma_list_max_group_length"],
    (limit? value).map fun n => onLists fun l => { l with maxGroup.value := n }),
  (["comma_list_max_group_length_weight"],
    (weight? value).map fun w => onLists fun l => { l with maxGroup.weight := w }),
  (["comma_list_max_elements_per_group", "wrap_after"],
    (limit? value).map fun n => onLists fun l => { l with maxPerGroup.value := n }),
  (["comma_list_max_elements_per_group_weight"],
    (weight? value).map fun w => onLists fun l => { l with maxPerGroup.weight := w }),
  (["multiline_parenthesis"],
    (parenLayout? name).map fun x => onLists fun l => { l with parens := x }),
  (["closing_parenthesis"],
    (closingParen? name).map fun x p => { p with closingParen := x }),
  (["major_keywords_on_separate_line"],
    (switch? name).map fun b => onQueries fun q => { q with keywordsOnOwnLine := b }),
  (["query_max_single_line_length"],
    (limit? value).map fun n => onQueries fun q => { q with maxLine.value := n }),
  (["query_max_single_line_length_weight"],
    (weight? value).map fun w => onQueries fun q => { q with maxLine.weight := w }),
  (["break_before_logical"],
    (switch? name).map fun b => onQueries fun q => { q with breakBeforeLogical := b }),
  (["case_when_position"],
    (whenPosition? name).map fun x => onCases fun c => { c with whenPosition := x }),
  (["case_then_position"],
    (thenPosition? name).map fun x => onCases fun c => { c with thenPosition := x }),
  (["case_else_position"],
    (elsePosition? name).map fun x => onCases fun c => { c with elsePosition := x }),
  (["case_end_position"],
    (endPosition? name).map fun x => onCases fun c => { c with endPosition := x }),
  (["argument_name_alignment"],
    (alignment? name.toList).map fun x => onArguments fun a => { a with name := x }),
  (["argument_data_type_alignment"],
    (alignment? name.toList).map fun x => onArguments fun a => { a with dataType := x }),
  (["argument_default_indicator_alignment"],
    (alignment? name.toList).map fun x => onArguments fun a => { a with defaultIndicator := x }),
  (["argument_default_value_alignment"],
    (alignment? name.toList).map fun x => onArguments fun a => { a with defaultValue := x }),
  (["no_comment", "remove_comments"], (switch? name).map fun b p => { p with removeComments := b }),
  (["no_extra_line"], (switch? name).map fun b p => { p with noFinalNewline := b }),
  (["no_grouping"], (switch? name).map fun b p => { p with noBlankLines := b })]

/-- The normal form of a key: underscores for hyphens, in lower case. -/
def normalKey (key : Text) : String :=
  String.ofList (Text.toLower (key.map fun c => if c = '-' then '_' else c))

/-- Reads the line with the given number as a change of the policy. -/
def update? (number : Nat) (line : Text) : Except PolicyError Update :=
  let line := Text.trim line
  if line.isEmpty || line.head? = some '#' then .ok id
  else
    match Text.cutAround ['='] line with
    | none => .error (.notASetting number)
    | some (key, value) =>
      let key := Text.trim key
      let value := Text.trim value
      let table := settings value (String.ofList (Text.toLower value))
      match table.find? fun setting => setting.1.contains (normalKey key) with
      | none => .error (.unknownKey number key)
      | some (_, none) => .error (.invalidValue number key value)
      | some (_, some update) => .ok update

/-- Applies the lines from the one with the given number on. -/
def readLines (number : Nat) (policy : Policy) : List Text → Except PolicyError Policy
  | [] => .ok policy
  | line :: rest =>
    match update? number line with
    | .error e => .error e
    | .ok update => readLines (number + 1) (update policy) rest

/-- Reads a policy. -/
def read (content : Text) : Except PolicyError Policy :=
  readLines 1 {} (Text.lines content)

end Policy
end SqlLayout
