import SqlLayout.Policy.Read
import SqlLayout.Proofs.Text.Solid

/-!
# What is read as a policy

A policy is read line by line: whether a line is accepted depends on that line only, and the error of a
text is that of its first rejected line. What is read is valid: no setting lets a bound through that a
layout could not compute with.
-/

namespace SqlLayout

/-- The error, on the line with the given number. -/
def PolicyError.atLine (number : Nat) : PolicyError → PolicyError
  | notASetting _ => .notASetting number
  | unknownKey _ key => .unknownKey number key
  | invalidValue _ key value => .invalidValue number key value

namespace Text

variable {content line : Text}

/-- No line holds a line feed. -/
lemma not_mem_of_mem_lines (h : line ∈ lines content) : '\n' ∉ line := by
  have hpieces : ∀ piece ∈ pieces '\n' content, '\n' ∉ piece := fun _ => not_mem_of_mem_pieces
  have hended : ∀ t ∈ (pieces '\n' content).dropLast.map dropReturn, '\n' ∉ t := by
    intro t ht
    obtain ⟨piece, hpiece, rfl⟩ := List.mem_map.1 ht
    have hnot := hpieces piece (List.dropLast_subset _ hpiece)
    rw [dropReturn]
    split
    · exact fun hmem => hnot (List.dropLast_subset _ hmem)
    · exact hnot
  rw [lines] at h
  split at h
  · next c rest hlast =>
    rcases List.mem_append.1 h with h | h
    · exact hended line h
    · rw [List.mem_singleton.1 h]
      exact hpieces _ (List.mem_of_getLast? hlast)
  · exact hended line h

/-- A text without a line feed is one line, or none if it is empty. -/
lemma lines_of_not_mem (h : '\n' ∉ line) : lines line = if line = [] then [] else [line] := by
  rw [lines, pieces_of_not_mem h]
  cases line <;> rfl

end Text

namespace Policy

variable {content line : Text} {number : Nat} {p : Policy} {e : PolicyError}

/-! ### Lines -/

/-- What a line does depends on the line; its number stands only in the error. -/
lemma update?_eq (number : Nat) (line : Text) :
    update? number line = (update? 1 line).mapError (PolicyError.atLine number) := by
  rw [update?, update?]
  split
  · rfl
  · split
    · rfl
    · dsimp only
      split <;> rfl

/-- A line is accepted as a change of the policy. -/
def Accepts (line : Text) : Prop :=
  ∃ update, update? 1 line = .ok update

/-- Reads on after an accepted line. -/
lemma readLines_cons (h : Accepts line) (number : Nat) (p : Policy) (rest : List Text) :
    ∃ update, update? 1 line = .ok update
      ∧ readLines number p (line :: rest) = readLines (number + 1) (update p) rest := by
  obtain ⟨update, hupdate⟩ := h
  refine ⟨update, hupdate, ?_⟩
  rw [readLines, update?_eq, hupdate]
  rfl

/-- Stops at a rejected line. -/
lemma readLines_cons_error (h : update? 1 line = .error e) (number : Nat) (p : Policy) (rest : List Text) :
    readLines number p (line :: rest) = .error (e.atLine number) := by
  rw [readLines, update?_eq, h]
  rfl

/-- Lines are read if each of them is accepted, whatever the policy is that they change. -/
lemma exists_readLines {lines : List Text} (h : ∀ line ∈ lines, Accepts line) (number : Nat) (p : Policy) :
    ∃ q, readLines number p lines = .ok q := by
  induction lines generalizing number p with
  | nil => exact ⟨p, rfl⟩
  | cons line rest ih =>
    obtain ⟨hline, hrest⟩ := List.forall_mem_cons.1 h
    obtain ⟨update, -, heq⟩ := readLines_cons hline number p rest
    rw [heq]
    exact ih hrest (number + 1) (update p)

/-- The error of lines is that of the first rejected one, with its number. -/
lemma readLines_rejected {before : List Text} (hbefore : ∀ line ∈ before, Accepts line)
    (h : update? 1 line = .error e) (number : Nat) (p : Policy) (after : List Text) :
    readLines number p (before ++ line :: after) = .error (e.atLine (number + before.length)) := by
  induction before generalizing number p with
  | nil => exact readLines_cons_error h number p after
  | cons first rest ih =>
    obtain ⟨hfirst, hrest⟩ := List.forall_mem_cons.1 hbefore
    obtain ⟨update, -, heq⟩ := readLines_cons hfirst number p (rest ++ line :: after)
    rw [List.cons_append, heq, ih hrest, List.length_cons, Nat.add_right_comm, Nat.add_assoc]

/-- Either all lines are accepted, or there is a first rejected one. -/
lemma accepts_or_rejected (lines : List Text) :
    (∀ line ∈ lines, Accepts line) ∨ ∃ before line after e, lines = before ++ line :: after
      ∧ (∀ line ∈ before, Accepts line) ∧ update? 1 line = .error e := by
  induction lines with
  | nil => exact .inl nofun
  | cons line rest ih =>
    cases h : update? 1 line with
    | error e => exact .inr ⟨[], line, rest, e, rfl, nofun, h⟩
    | ok update =>
      refine ih.imp (fun hrest => List.forall_mem_cons.2 ⟨⟨update, h⟩, hrest⟩) ?_
      rintro ⟨before, rejected, after, e, rfl, hbefore, hrejected⟩
      exact ⟨line :: before, rejected, after, e, rfl, List.forall_mem_cons.2 ⟨⟨update, h⟩, hbefore⟩,
        hrejected⟩

/-- A line alone is read as the change that it stands for. -/
lemma read_line (h : '\n' ∉ line) : read line = (update? 1 line).map (· {}) := by
  rw [read, Text.lines_of_not_mem h]
  split
  · next hnil => rw [hnil]; rfl
  · rw [readLines]
    cases update? 1 line <;> rfl

/-- A line alone is read exactly if it is accepted. -/
lemma exists_read_line_iff (h : '\n' ∉ line) : (∃ p, read line = .ok p) ↔ Accepts line := by
  rw [read_line h, Accepts]
  cases update? 1 line <;> simp [Except.map]

/-- A line alone is rejected with the error of the line. -/
lemma read_line_eq_error_iff (h : '\n' ∉ line) : read line = .error e ↔ update? 1 line = .error e := by
  rw [read_line h]
  cases update? 1 line <;> simp [Except.map]

/-! ### Valid policies -/

/-- The limits of a policy. -/
def limits (p : Policy) : List Limit :=
  [p.lists.maxLine, p.lists.maxGroup, p.lists.maxPerGroup, p.queries.maxLine]

/-- A policy that a layout can compute with. -/
structure IsValid (p : Policy) : Prop where
  width : 0 < p.lineWidth.value
  widthWeight : p.lineWidth.weight.isFinite = true
  limits : ∀ limit ∈ p.limits, limit.value ≠ some 0
  weights : ∀ limit ∈ p.limits, limit.weight.isFinite = true
  bounds : ∀ role low high ordered, p.arguments.forRole role = .vertical low high ordered →
    low ≤ high ∧ high < Number.wordBound

/-- A change that keeps policies valid. -/
def KeepsValid (update? : Option Update) : Prop :=
  ∀ update, update? = some update → ∀ p : Policy, p.IsValid → (update p).IsValid

/-- The policy before any line is valid. -/
lemma isValid_default : IsValid {} where
  width := by decide
  widthWeight := by decide
  limits := by simp [Policy.limits, Limit.unset]
  weights := by simp [Policy.limits, Limit.unset]; decide
  bounds := by intro role; cases role <;> nofun

lemma limit?_ne_zero {value : Text} {n : Option Nat} (h : limit? value = some n) : n ≠ some 0 := by
  obtain ⟨count, -, rfl⟩ := Option.map_eq_some_iff.1 h
  split
  · nofun
  · next hcount => simpa using hcount

lemma weight?_isFinite {value : Text} {w : Number.Single} (h : weight? value = some w) : w.isFinite = true :=
  (Option.filter_eq_some_iff.1 h).2

lemma count?_lt {value : Text} {n : Nat} (h : count? value = some n) : n < Number.wordBound :=
  of_decide_eq_true (Option.filter_eq_some_iff.1 h).2

/-- A common offset that is read has a word as its larger bound. -/
lemma alignment?_lt {name : Text} {low high : Nat} {ordered : low ≤ high}
    (h : alignment? name = some (.vertical low high ordered)) : high < Number.wordBound := by
  rw [alignment?] at h
  split at h
  · cases h
  · cases h
  · obtain ⟨_, _, h⟩ := Option.map_eq_some_iff.1 h
    cases h
  · cases h
    decide
  · split at h
    · next hhigh =>
      split at h
      · cases h
        exact count?_lt hhigh
      · cases h
    · cases h
  · cases h

section Settings

variable {α : Type} {read? : Option α} {value name : Text}

/-- A setting beside widths, limits and alignments keeps policies valid. -/
lemma keepsValid_aside {f : α → Update} (h : ∀ a p, (f a p).lineWidth = p.lineWidth
      ∧ (f a p).limits = p.limits ∧ (f a p).arguments = p.arguments) :
    KeepsValid (read?.map f) := by
  intro update hupdate p hp
  obtain ⟨a, -, rfl⟩ := Option.map_eq_some_iff.1 hupdate
  obtain ⟨hwidth, hlimits, harguments⟩ := h a p
  exact ⟨hwidth ▸ hp.width, hwidth ▸ hp.widthWeight, hlimits ▸ hp.limits, hlimits ▸ hp.weights,
    harguments ▸ hp.bounds⟩

/-- A setting that changes one limit keeps policies valid if what it sets is a limit with a weight. -/
lemma keepsValid_limits {f : α → Update} (set : α → Limit → Limit)
    (hset : ∀ a, read? = some a → ∀ limit : Limit, limit.value ≠ some 0 → limit.weight.isFinite = true →
      (set a limit).value ≠ some 0 ∧ (set a limit).weight.isFinite = true)
    (h : ∀ a p, (f a p).lineWidth = p.lineWidth ∧ (f a p).arguments = p.arguments
      ∧ ∀ limit ∈ (f a p).limits, limit ∈ p.limits ∨ ∃ old ∈ p.limits, limit = set a old) :
    KeepsValid (read?.map f) := by
  intro update hupdate p hp
  obtain ⟨a, hread, rfl⟩ := Option.map_eq_some_iff.1 hupdate
  obtain ⟨hwidth, harguments, hlimits⟩ := h a p
  have hall : ∀ limit ∈ (f a p).limits, limit.value ≠ some 0 ∧ limit.weight.isFinite = true := by
    intro limit hlimit
    rcases hlimits limit hlimit with hold | ⟨old, hold, rfl⟩
    · exact ⟨hp.limits limit hold, hp.weights limit hold⟩
    · exact hset a hread old (hp.limits old hold) (hp.weights old hold)
  exact ⟨hwidth ▸ hp.width, hwidth ▸ hp.widthWeight, fun limit hlimit => (hall limit hlimit).1,
    fun limit hlimit => (hall limit hlimit).2, harguments ▸ hp.bounds⟩

/-- The value of a limit. -/
lemma keepsValid_limit {f : Option Nat → Update} (h : ∀ n p, (f n p).lineWidth = p.lineWidth
      ∧ (f n p).arguments = p.arguments ∧ ∀ limit ∈ (f n p).limits,
        limit ∈ p.limits ∨ ∃ old ∈ p.limits, limit = { old with value := n }) :
    KeepsValid ((limit? value).map f) :=
  keepsValid_limits (fun n old => { old with value := n })
    (fun _ hread _ _ hweight => ⟨limit?_ne_zero hread, hweight⟩) h

/-- The weight of a limit. -/
lemma keepsValid_weight {f : Number.Single → Update} (h : ∀ w p, (f w p).lineWidth = p.lineWidth
      ∧ (f w p).arguments = p.arguments ∧ ∀ limit ∈ (f w p).limits,
        limit ∈ p.limits ∨ ∃ old ∈ p.limits, limit = { old with weight := w }) :
    KeepsValid ((weight? value).map f) :=
  keepsValid_limits (fun w old => { old with weight := w })
    (fun _ hread _ hvalue _ => ⟨hvalue, weight?_isFinite hread⟩) h

/-- The alignment of a part. -/
lemma keepsValid_alignment {set : ColumnAlignment → ArgumentPolicy → ArgumentPolicy}
    (h : ∀ x a role, (set x a).forRole role = a.forRole role ∨ (set x a).forRole role = x) :
    KeepsValid ((alignment? name).map fun x => onArguments (set x)) := by
  intro update hupdate p hp
  obtain ⟨x, hread, rfl⟩ := Option.map_eq_some_iff.1 hupdate
  refine ⟨hp.width, hp.widthWeight, hp.limits, hp.weights, fun role low high ordered hrole => ?_⟩
  rcases h x p.arguments role with hsame | hset
  · exact hp.bounds role low high ordered (hsame ▸ hrole)
  · exact ⟨ordered, alignment?_lt (hread.trans (congrArg some (hset.symm.trans hrole)))⟩

/-- The line width. -/
lemma keepsValid_lineWidth :
    KeepsValid (((count? value).filter (0 < ·)).map fun n p => { p with lineWidth.value := n }) := by
  intro update hupdate p hp
  obtain ⟨n, hread, rfl⟩ := Option.map_eq_some_iff.1 hupdate
  exact { hp with width := of_decide_eq_true (Option.filter_eq_some_iff.1 hread).2 }

/-- The weight of the line width. -/
lemma keepsValid_lineWidthWeight :
    KeepsValid ((weight? value).map fun w p => { p with lineWidth.weight := w }) := by
  intro update hupdate p hp
  obtain ⟨w, hread, rfl⟩ := Option.map_eq_some_iff.1 hupdate
  exact { hp with widthWeight := weight?_isFinite hread }

/-- The comma position by a switch. -/
lemma keepsValid_commaWhen (position : CommaPosition) {switch? : Option Bool} :
    KeepsValid (switch?.map (commaWhen position)) :=
  keepsValid_aside fun isOn _ => by cases isOn <;> exact ⟨rfl, rfl, rfl⟩

end Settings

/-- Every setting keeps policies valid. -/
lemma keepsValid_settings (value : Text) (name : String) :
    ∀ setting ∈ settings value name, KeepsValid setting.2 := by
  simp only [settings, List.forall_mem_cons, List.not_mem_nil, false_implies, implies_true, and_true]
  refine ⟨keepsValid_lineWidth, keepsValid_lineWidthWeight, ?indent, ?keywords, ?functions, ?types,
    ?listIndent, ?comma, keepsValid_commaWhen .before, keepsValid_commaWhen .after,
    keepsValid_limit ?maxLine, keepsValid_weight ?maxLineWeight,
    keepsValid_limit ?maxGroup, keepsValid_weight ?maxGroupWeight,
    keepsValid_limit ?maxPerGroup, keepsValid_weight ?maxPerGroupWeight, ?parens, ?closing, ?keywordLines,
    keepsValid_limit ?queryLine, keepsValid_weight ?queryLineWeight, ?logical, ?whens, ?thens, ?elses, ?ends,
    keepsValid_alignment ?names, keepsValid_alignment ?dataTypes, keepsValid_alignment ?indicators,
    keepsValid_alignment ?values, ?comments, ?finalNewline, ?blankLines⟩
  case maxLine | maxLineWeight | maxGroup | maxGroupWeight | maxPerGroup | maxPerGroupWeight | queryLine
      | queryLineWeight =>
    exact fun _ _ => ⟨rfl, rfl, by simp [Policy.limits, onLists, onQueries]⟩
  case names | dataTypes | indicators | values =>
    exact fun _ _ role => by cases role <;> simp [ArgumentPolicy.forRole]
  all_goals exact keepsValid_aside fun _ _ => ⟨rfl, rfl, rfl⟩

/-- An accepted line keeps policies valid. -/
lemma isValid_of_update? {update : Update} (h : update? number line = .ok update) (hp : p.IsValid) :
    (update p).IsValid := by
  rw [update?] at h
  split at h
  · cases h
    exact hp
  · split at h
    · cases h
    · dsimp only at h
      split at h
      · cases h
      · cases h
      · next hfind =>
        cases h
        exact keepsValid_settings _ _ _ (List.mem_of_find?_eq_some hfind) _ rfl p hp

/-- What is read from lines is valid, if the policy that they change is. -/
lemma isValid_of_readLines {lines : List Text} {q : Policy} (h : readLines number p lines = .ok q)
    (hp : p.IsValid) : q.IsValid := by
  induction lines generalizing number p with
  | nil =>
    cases h
    exact hp
  | cons line rest ih =>
    rw [readLines] at h
    split at h
    · cases h
    · next update hupdate => exact ih h (isValid_of_update? hupdate hp)

/-! ### Reading -/

/-- The error of a text is that of its first rejected line, with the number of the line. -/
lemma read_rejected {before after : List Text} (hlines : Text.lines content = before ++ line :: after)
    (hbefore : ∀ earlier ∈ before, ∃ p, read earlier = .ok p) (hline : read line = .error e) :
    read content = .error (e.atLine (before.length + 1)) := by
  have hfeed : ∀ other ∈ before ++ line :: after, '\n' ∉ other :=
    fun _ hother => Text.not_mem_of_mem_lines (hlines ▸ hother)
  have haccepts : ∀ earlier ∈ before, Accepts earlier := fun earlier hearlier =>
    (exists_read_line_iff (hfeed _ (List.mem_append_left _ hearlier))).1 (hbefore earlier hearlier)
  have hrejected := (read_line_eq_error_iff (hfeed line (by simp))).1 hline
  rw [read, hlines, readLines_rejected haccepts hrejected, Nat.add_comm]

/-- A text is read if each of its lines alone is, or else one of them is the first that is rejected. -/
lemma read_or_rejected (content : Text) :
    ((∀ line ∈ Text.lines content, ∃ p, read line = .ok p) ∧ ∃ p, read content = .ok p)
      ∨ ∃ before line after e, Text.lines content = before ++ line :: after
        ∧ (∀ earlier ∈ before, ∃ p, read earlier = .ok p) ∧ read line = .error e := by
  have hfeed : ∀ line ∈ Text.lines content, '\n' ∉ line := fun _ => Text.not_mem_of_mem_lines
  rcases accepts_or_rejected (Text.lines content) with hall | ⟨before, line, after, e, hlines, hbefore, hline⟩
  · exact .inl ⟨fun line hline => (exists_read_line_iff (hfeed line hline)).2 (hall line hline),
      exists_readLines hall 1 {}⟩
  · rw [hlines] at hfeed
    exact .inr ⟨before, line, after, e, hlines,
      fun earlier hearlier =>
        (exists_read_line_iff (hfeed _ (List.mem_append_left _ hearlier))).2 (hbefore earlier hearlier),
      (read_line_eq_error_iff (hfeed line (by simp))).2 hline⟩

/--
A text is read exactly if each of its lines alone is; otherwise its error is that of the first line that
alone is rejected, with the number of that line. What is read is valid.
-/
theorem read_linewise (content : Text) :
    ((∃ p, read content = .ok p) ↔ ∀ line ∈ Text.lines content, ∃ p, read line = .ok p)
      ∧ (∀ e, read content = .error e ↔
        ∃ before line after e', Text.lines content = before ++ line :: after
          ∧ (∀ earlier ∈ before, ∃ p, read earlier = .ok p) ∧ read line = .error e'
          ∧ e = e'.atLine (before.length + 1))
      ∧ ∀ p, read content = .ok p → p.IsValid := by
  refine ⟨?_, fun e => ?_, fun p hp => isValid_of_readLines hp isValid_default⟩
  · rcases read_or_rejected content with ⟨hall, hread⟩ | ⟨before, line, after, e, hlines, hbefore, hline⟩
    · exact iff_of_true hread hall
    · refine iff_of_false ?_ fun hall => ?_
      · rintro ⟨p, hp⟩
        rw [read_rejected hlines hbefore hline] at hp
        exact absurd hp nofun
      · obtain ⟨p, hp⟩ := hall line (by simp [hlines])
        rw [hline] at hp
        exact absurd hp nofun
  · constructor
    · intro he
      rcases read_or_rejected content with ⟨-, p, hp⟩ | ⟨before, line, after, e', hlines, hbefore, hline⟩
      · rw [hp] at he
        exact absurd he nofun
      · rw [read_rejected hlines hbefore hline] at he
        exact ⟨before, line, after, e', hlines, hbefore, hline, (Except.error.inj he).symm⟩
    · rintro ⟨before, line, after, e', hlines, hbefore, hline, rfl⟩
      exact read_rejected hlines hbefore hline

/-- Comments and empty lines count as lines. -/
example : read "# widths\r\n\nindent = 2\nwidth = 80\n".toList = .error (.unknownKey 4 "width".toList) := by
  decide +kernel

end Policy
end SqlLayout
