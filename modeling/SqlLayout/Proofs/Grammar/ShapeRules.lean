import SqlLayout.Proofs.Grammar.Shape

/-!
# The shape of expressions and clauses

What the rules of expressions, clauses, groups and `CASE` put into the node around them. The recursive
rules are unfolded to a depth, so what is known of them depends on how many tokens are left: `Good ts g n`
says that they do as they should where there are at most `n`. Every rule that is built from them reads a
token before it recurs, or hands on the bound.
-/

namespace SqlLayout.Grammar

variable {ts : TokenStream} {g : Rules} {n : Nat} {s t u : State} {kind : NodeKind}

/-- Words are well formed tokens. -/
def WellSpelled (ts : TokenStream) : Prop :=
  ∀ i, Text.eqIgnoringCase (ts.text i) "nothing".toList = true → ts.kind i ≠ .error

/-- The recursive rules shape the nodes around them where at most `n` tokens are left. -/
structure Good (ts : TokenStream) (g : Rules) (n : Nat) : Prop where
  atom (kind : NodeKind) (stop : Stop) (s : State) : holdsAtoms kind = true → nth ts s 0 ≠ .eof →
    left ts s ≤ n → Begins ts kind s (g.atom stop s)
  group (s : State) : nth ts s 0 = .lParen → left ts s ≤ n → Begins ts .clause s (g.group s)
  statement (kind : NodeKind) (inBody : Bool) (s : State) : kind = .root ∨ kind = .statementList →
    nth ts s 0 ≠ .eof → left ts s < n → Begins ts kind s (g.statement inBody s)

/-! ### Runs of atoms and lists -/

lemma not_hit_of_not {stop : Stop} (h : (!stop.hit ts s) = true) : stop.hit ts s = false := by
  simpa using h

lemma yields_atomsUntil (hg : Good ts g n) (stop : Stop) (s : State) (hkind : holdsAtoms kind = true)
    (hs : left ts s ≤ n) : Yields ts kind s (atomsUntil ts g stop s) :=
  yields_repeatWhile (fun s hs hcond =>
    (hg.atom kind stop s hkind (ne_eof_of_not_hit (not_hit_of_not hcond)) hs).yields) s hs

lemma begins_atomsUntil (hg : Good ts g n) {stop : Stop} (hkind : holdsAtoms kind = true)
    (hs : left ts s ≤ n) (hstop : stop.hit ts s = false) :
    Begins ts kind s (atomsUntil ts g stop s) :=
  begins_repeatWhile (fun s hs hcond =>
    hg.atom kind stop s hkind (ne_eof_of_not_hit (not_hit_of_not hcond)) hs) s hs (by simpa using hstop)

lemma hit_atomsUntil (hg : Good ts g n) (stop : Stop) (s : State) (hs : left ts s ≤ n) :
    stop.hit ts (atomsUntil ts g stop s) = true := by
  have hatom (s : State) (hs : left ts s ≤ n) (hcond : (!stop.hit ts s) = true) :=
    hg.atom .expression stop s rfl (ne_eof_of_not_hit (not_hit_of_not hcond)) hs
  have h := condition_repeatWhile_of_begins (by simp) hatom s hs
  rw [atomsUntil]
  simpa using h

lemma leads_atomsUntil (hg : Good ts g n) {k : NodeKind} {stop : Stop} (hs : left ts s ≤ n)
    (hstop : stop.hit ts s = false) (hk : holdsAtoms k = true) :
    Leads ts k (s.opening k) (atomsUntil ts g stop (s.opening k)) :=
  (begins_atomsUntil (s := s.opening k) hg hk hs hstop).leads (mayOpen_of_holdsAtoms hk)
    (mayLead_of_holdsAtoms hk)

/-- A run of atoms as a node, where it is not empty. -/
lemma begins_expression (hc : ts.Closed) (hg : Good ts g n) {k : NodeKind} {stop : Stop}
    (hs : left ts s ≤ n) (hstop : stop.hit ts s = false) (hk : holdsAtoms k = true)
    (hhold : mayHold kind k = true) : Begins ts kind s (expression ts g k stop s) := by
  rw [expression, hstop]
  exact begins_node hc (leads_atomsUntil hg hs hstop hk) hhold (isLoose_of_holdsAtoms hk)

/-- An expression is of no sort that its kind is not. -/
lemma yieldsNo_expression (hc : ts.Closed) (hg : Good ts g n) {k : NodeKind} {sort : Item → Bool}
    (hsort : ∀ items, sort (.node k items) = false) (stop : Stop) (s : State)
    (hs : left ts s ≤ n) (hk : holdsAtoms k = true) (hhold : mayHold kind k = true) :
    YieldsNo sort ts kind s (expression ts g k stop s) := by
  cases hstop : stop.hit ts s with
  | false =>
    rw [expression, hstop]
    exact yieldsNo_node hc hsort (leads_atomsUntil hg hs hstop hk) hhold (isLoose_of_holdsAtoms hk)
  | true =>
    rw [expression, hstop]
    exact .refl s

lemma yields_expression (hc : ts.Closed) (hg : Good ts g n) {k : NodeKind} (stop : Stop) (s : State)
    (hs : left ts s ≤ n) (hk : holdsAtoms k = true) (hhold : mayHold kind k = true) :
    Yields ts kind s (expression ts g k stop s) :=
  have hnone (items : List Item) : Item.isLeaf (.node k items) = false := rfl
  (yieldsNo_expression hc hg hnone stop s hs hk hhold).yields

/-- An expression ends where it is told to. -/
lemma hit_expression (hg : Good ts g n) (stop : Stop) (s : State) (hs : left ts s ≤ n) :
    stop.hit ts (expression ts g .expression stop s) = true := by
  cases hstop : stop.hit ts s with
  | false =>
    rw [expression, hstop]
    exact hit_atomsUntil hg stop (s.opening .expression) hs
  | true =>
    rw [expression, hstop]
    exact hstop

lemma beginsNodes_nonemptyExpression (hc : ts.Closed) (hg : Good ts g n) {k : NodeKind} (stop : Stop)
    (hs : left ts s ≤ n) (h : nth ts s 0 ≠ .eof) (hk : holdsAtoms k = true)
    (hhold : mayHold kind k = true) : BeginsNodes ts kind s (nonemptyExpression ts g k stop s) := by
  refine beginsNodes_node hc ?_ hhold (isLoose_of_holdsAtoms hk)
  have hatom := hg.atom k stop (s.opening k) hk (by simpa using h) hs
  refine (hatom.andThen fun hle => ?_).leads (mayOpen_of_holdsAtoms hk) (mayLead_of_holdsAtoms hk)
  exact yields_atomsUntil hg stop _ hk (Nat.le_trans hle hs)

/-- A list that is not empty starts with an element or a comma. -/
lemma yields_commaList (hc : ts.Closed) (hg : Good ts g n) (stop : Stop) (s : State)
    (hs : left ts s ≤ n) (hhold : mayHold kind .commaList = true) :
    Yields ts kind s (commaList ts g stop s) := by
  have element (s : State) (hs : left ts s ≤ n) :
      Yields ts .commaList s (expression ts g .listElement (stop.also [.comma]) s) :=
    yields_expression hc hg _ s hs rfl rfl
  have further (s : State) (_ : left ts s ≤ n) (hcomma : at? ts s .comma = true) :
      Begins ts .commaList s (expression ts g .listElement (stop.also [.comma]) (bump ts s)) :=
    (begins_bumpAt hc hcomma (by simp)).andThen fun hle => element _ (by omega)
  refine .ite (fun _ => .refl s) fun hnonempty => ?_
  refine (begins_node hc (Begins.leads ?_ (fun _ => rfl) fun _ => rfl) hhold rfl).yields
  have hs : left ts (s.opening .commaList) ≤ n := hs
  cases hstop : (stop.also [.comma]).hit ts s with
  | false =>
    refine (begins_expression (s := s.opening .commaList) (k := .listElement) hc hg hs hstop rfl
      rfl).andThen fun hle => ?_
    exact yields_repeatWhile (fun s hs hcomma => (further s hs hcomma).yields) _ (Nat.le_trans hle hs)
  | true =>
    have hcomma : at? ts s .comma = true := by simpa [hstop] using hnonempty
    have hfirst : expression ts g .listElement (stop.also [.comma]) (s.opening .commaList)
        = s.opening .commaList := by
      rw [expression, show (stop.also [.comma]).hit ts (s.opening .commaList) = true from hstop]
      rfl
    rw [hfirst]
    exact begins_repeatWhile further _ hs hcomma

/-! ### Clauses -/

lemma yields_eatEither (hc : ts.Closed) (first second : Keyword) (s : State) :
    Yields ts kind s (eatEither ts first second s) :=
  .ite (fun h => (begins_bumpAt hc h (by simp)).yields) fun _ => yields_eat hc s (by simp)

lemma yields_selectQuantifier (hc : ts.Closed) (hg : Good ts g n) (s : State) (hs : left ts s ≤ n) :
    Yields ts .clause s (selectQuantifier ts g s) := by
  refine .ite (fun h => ?_) fun _ => yields_eat hc s (by simp)
  refine (begins_bumpAt hc h (by simp)).yields.andThen fun hle => .ite (fun hon => ?_) fun _ => .refl _
  rw [Bool.and_eq_true, beq_iff_eq] at hon
  refine (begins_bumpAt hc hon.1 (by simp)).yields.andThen fun hle' => (hg.group _ ?_ (by omega)).yields
  rw [bump, nth_take (ne_eof_of_at hon.1 (by simp)), hon.2]

lemma yields_clauseKeywordsAfter (hc : ts.Closed) (hg : Good ts g n) (first : Keyword)
    (hs : left ts s ≤ n) (hdo : first = .DO → nth ts s 0 ≠ .error) :
    Yields ts .clause s (clauseKeywordsAfter ts g first s) := by
  have qualifiers (s : State) : Yields ts .clause s
      (eat ts (.keyword .JOIN) (repeatWhile ts
        (fun s => !at? ts s (.keyword .JOIN) && (current ts s).isKeyword) (bump ts) s)) := by
    refine (yields_repeatWhile (n := left ts s) (fun s _ hcond => ?_) s (Nat.le_refl _)).andThen
      fun _ => yields_eat hc _ (by simp)
    rw [Bool.and_eq_true, current] at hcond
    refine (begins_bump hc ?_ ?_).yields
    · rintro heof
      exact absurd (heof ▸ hcond.2) (by decide)
    · rintro herror
      exact absurd (herror ▸ hcond.2) (by decide)
  have level (s : State) : Yields ts .clause s
      (if atRaiseLevel ts s then take ts .keyword s else s) := by
    refine .ite (fun h => ?_) fun _ => .refl s
    rw [atRaiseLevel, Bool.or_eq_true, Bool.and_eq_true] at h
    exact h.elim (fun h => (begins_takeAt hc _ h (by simp)).yields)
      fun h => (begins_takeAt hc _ h.1 (by simp)).yields
  unfold clauseKeywordsAfter
  split
  · exact yields_selectQuantifier hc hg s hs
  · exact yields_eat hc s (by simp)
  · exact yields_eat hc s (by simp)
  · exact yields_eatEither hc _ _ s
  · exact yields_eatEither hc _ _ s
  · exact yields_eatEither hc _ _ s
  · exact yields_eat hc s (by simp)
  · exact yields_eat hc s (by simp)
  · exact yields_eat hc s (by simp)
  · exact yields_eat hc s (by simp)
  · exact yields_take hc fun _ => mayTake_of_ne (hdo rfl)
  · exact level s
  · exact yields_eatEither hc _ _ s
  · exact qualifiers s
  · exact qualifiers s
  · exact qualifiers s
  · exact qualifiers s
  · exact qualifiers s
  · exact qualifiers s
  · exact .refl s

/-- What follows the `DO` of a clause is a word. -/
lemma ne_error_after_do (hw : WellSpelled ts) (hstart : atClauseStart ts s = true)
    (h : nth ts s 0 = .keyword .DO) : nth ts s 1 ≠ .error := by
  have hnext : nthIsWord ts s 1 "nothing" = true ∨ nth ts s 1 = .keyword .UPDATE := by
    simpa [atClauseStart, current, h] using hstart
  rcases hnext with hword | hupdate
  · exact hw _ hword
  · rw [hupdate]
    simp

lemma begins_clause (hc : ts.Closed) (hw : WellSpelled ts) (hg : Good ts g n) (stop : Stop)
    (hs : left ts s ≤ n) (h : nth ts s 0 ≠ .eof) (hhold : mayHold kind .clause = true) :
    Begins ts kind s (clause ts g stop s) := by
  refine begins_node hc (Begins.leads ?_ (fun _ => rfl) fun _ => rfl) hhold rfl
  have h : nth ts (s.opening .clause) 0 ≠ .eof := by simpa using h
  have hs : left ts (s.opening .clause) ≤ n := hs
  generalize s.opening .clause = s at h hs
  split
  · next first hstart hfirst =>
    have hfirst : nth ts s 0 = .keyword first := hfirst
    refine (begins_bump hc h (by simp [hfirst])).andThen fun hle => ?_
    refine (yields_clauseKeywordsAfter hc hg first (by omega) fun hdo => ?_).andThen fun hle' => ?_
    · rw [bump, nth_take h]
      exact ne_error_after_do hw hstart (hdo ▸ hfirst)
    · refine .ite (fun _ => ?_) fun _ => ?_
      · exact yields_commaList hc hg stop _ (by omega) rfl
      · exact yields_expression hc hg stop _ (by omega) rfl rfl
  · exact (beginsNodes_nonemptyExpression hc hg stop hs h rfl rfl).begins

/-- Clauses up to a token of the given kinds. -/
lemma yields_clausesUntil (hc : ts.Closed) (hw : WellSpelled ts) (hg : Good ts g n) {kinds : KindSet}
    (hkinds : kinds.contains .eof = true) (stop : Stop) (s : State) (hs : left ts s ≤ n)
    (hhold : mayHold kind .clause = true) : Yields ts kind s (clausesUntil ts g kinds stop s) :=
  yields_repeatWhile (fun s hs hcond =>
    (begins_clause hc hw hg stop hs (ne_eof_of_not_atAny hkinds (by simpa using hcond)) hhold).yields) s hs

lemma begins_clausesUntil (hc : ts.Closed) (hw : WellSpelled ts) (hg : Good ts g n) {kinds : KindSet}
    (hkinds : kinds.contains .eof = true) (stop : Stop) (hs : left ts s ≤ n)
    (hcond : atAny ts s kinds = false) (hhold : mayHold kind .clause = true) :
    Begins ts kind s (clausesUntil ts g kinds stop s) :=
  begins_repeatWhile (fun s hs hcond =>
    begins_clause hc hw hg stop hs (ne_eof_of_not_atAny hkinds (by simpa using hcond)) hhold) s hs
    (by simp [hcond])

/-- A statement made of clauses has one, or its semicolon. -/
lemma begins_clauseStatement (hc : ts.Closed) (hw : WellSpelled ts) (hg : Good ts g n)
    (hs : left ts s ≤ n) (h : atAny ts s alwaysStop = false ∨ nth ts s 0 = .semicolon)
    (hhold : mayHold kind .statement = true) : Begins ts kind s (clauseStatement ts g s) := by
  refine begins_node hc (Begins.leads ?_ (fun _ => rfl) fun _ => rfl) hhold rfl
  have hs : left ts (s.opening .statement) ≤ n := hs
  rcases h with hcond | hsemicolon
  · have hcond : atAny ts (s.opening .statement) alwaysStop = false := hcond
    exact (begins_clausesUntil hc hw hg contains_alwaysStop_eof _ hs hcond rfl).andThen
      fun _ => yields_eat hc _ (by simp)
  · have hsemicolon : at? ts (s.opening .statement) .semicolon = true := by
      rw [at?_iff, nth_opening]
      exact hsemicolon
    have hnone : clausesUntil ts g alwaysStop .atClause (s.opening .statement)
        = s.opening .statement := by
      have hstop : atAny ts (s.opening .statement) alwaysStop = true := by
        rw [atAny, current, at?_iff.1 hsemicolon]
        exact KindSet.contains_ofList_iff.2 (by simp)
      exact repeatWhile_of_false (by simp [hstop])
    rw [hnone, eat, if_pos hsemicolon]
    exact begins_bumpAt hc hsemicolon (by simp)

/-! ### Groups -/

/-- Tokens at the start of a subquery do not end it. -/
lemma not_alwaysStop_of_subqueryStart (h : atAny ts s subqueryStart = true) :
    atAny ts s alwaysStop = false := by
  rw [atAny, subqueryStart, KindSet.contains_ofList_iff] at h
  simp only [List.mem_cons, List.not_mem_nil, or_false] at h
  rw [atAny]
  apply KindSet.not_contains_ofList
  rcases h with h | h | h | h | h | h <;> simp [h]

lemma begins_parenthesized (hc : ts.Closed) (hw : WellSpelled ts) (hg : Good ts g n)
    (hs : left ts s ≤ n + 1) (h : nth ts s 0 = .lParen) (hhold : mayHold kind .parenthesized = true)
    (herror : mayHold kind (.error 0) = true) : Begins ts kind s (parenthesized ts g s) := by
  have content (s : State) (hs : left ts s ≤ n) : Yields ts .parenthesized s
      (if atAny ts s subqueryStart then clauseStatement ts g s
        else if at? ts s .rParen then s else commaList ts g {} s) :=
    .ite (fun h => (begins_clauseStatement hc hw hg hs
      (.inl (not_alwaysStop_of_subqueryStart h)) rfl).yields) fun _ =>
      .ite (fun _ => .refl s) fun _ => yields_commaList hc hg {} s hs rfl
  have close (s : State) : Yields ts .parenthesized s
      (if at? ts s .rParen then bump ts s else complain .expectedCloseParen s) :=
    .ite (fun h => (begins_bumpAt hc h (by simp)).yields) fun _ => yields_complain _ s
  refine begins_group hc (by simp [h]) ?_ hhold herror rfl rfl
  refine leads_takeAt hc .punctuation (by simpa using h) (by simp) rfl fun hlt => ?_
  rw [left_opening, left_deeper] at hlt
  exact (content _ (by omega)).andThen fun _ => close _

lemma begins_bracketed (hc : ts.Closed) (hg : Good ts g n) (hs : left ts s ≤ n + 1)
    (h : nth ts s 0 = .lBracket) (hkind : holdsAtoms kind = true) :
    Begins ts kind s (bracketed ts g s) := by
  have hne : nth ts s.deeper 0 ≠ .eof := by simp [h]
  have htake := left_take hc hne .punctuation
  rw [left_deeper] at htake
  have elements (s : State) (hs : left ts s ≤ n) (hcomma : at? ts s .comma = true) : Yields ts kind s
      (atomsUntil ts g (.before [.rBracket, .comma]) (take ts .punctuation s)) :=
    (begins_takeAt hc _ hcomma (by simp)).yields.andThen fun hle =>
      yields_atomsUntil hg _ _ hkind (by omega)
  unfold bracketed
  refine begins_nested hc (by simp [h]) ?_ (mayHold_of_holdsAtoms hkind rfl)
  refine (begins_take hc .punctuation hne (mayTake_of_ne (by simp [h]))).andThen fun _ => ?_
  refine (yields_atomsUntil hg (.before [.rBracket, .comma]) _ hkind (by omega)).andThen fun _ => ?_
  refine (yields_repeatWhile elements _ (by omega)).andThen fun _ => ?_
  exact yields_require hc _ _ _ (by simp)

lemma begins_between (hc : ts.Closed) (hg : Good ts g n) (stop : Stop) (hs : left ts s ≤ n + 1)
    (h : nth ts s 0 = .keyword .BETWEEN) (hkind : holdsAtoms kind = true) :
    Begins ts kind s (between ts g stop s) := by
  have hne : nth ts (s.opening .expression) 0 ≠ .eof := by simp [h]
  have htake := left_take hc hne (inferredRole ts (s.opening .expression))
  rw [left_opening] at htake
  have upper (s : State) (hs : left ts s ≤ n) : Yields ts .expression s
      (if at? ts s (.keyword .AND) then
        atomsUntil ts g (stop.also [.keyword .AND, .keyword .OR]) (bump ts s) else s) :=
    .ite (fun h => (begins_bumpAt hc h (by simp)).yields.andThen fun _ =>
      yields_atomsUntil hg _ _ rfl (by omega)) fun _ => .refl s
  refine begins_node hc (Begins.leads ?_ (fun _ => rfl) fun _ => rfl)
    (mayHold_of_holdsAtoms hkind rfl) rfl
  refine (begins_bump hc hne (by simp [h])).andThen fun _ => ?_
  have hbump : left ts (bump ts (s.opening .expression)) ≤ n := by
    rw [bump]
    omega
  refine (yields_atomsUntil hg (stop.also [.keyword .AND]) _ rfl hbump).andThen fun hle => ?_
  exact upper _ (Nat.le_trans hle hbump)

/-! ### Calls -/

lemma ne_error_of_isName {k : TokenKind} (h : k.isName = true) : k ≠ .error := by
  rintro rfl
  exact absurd h (by decide)

/-- Further names that have been seen are read. -/
lemma yields_takeFurtherNames (hc : ts.Closed) (m : Nat)
    (h : ∀ i < m, nth ts s (2 * i) = .dot ∧ (nth ts s (2 * i + 1)).isName = true) :
    Yields ts kind s (takeFurtherNames ts m s)
      ∧ nth ts (takeFurtherNames ts m s) 0 = nth ts s (2 * m) := by
  induction m generalizing s with
  | zero => exact ⟨.refl s, rfl⟩
  | succ m ih =>
    obtain ⟨hdot, hname⟩ := h 0 (by omega)
    have hdot' : nth ts s 0 ≠ .eof := by simp [hdot]
    have hnext : nth ts (take ts .punctuation s) 0 = nth ts s 1 := nth_take hdot' .punctuation 0
    have hname' : nth ts (take ts .punctuation s) 0 ≠ .eof := by
      rw [hnext]
      exact ne_eof_of_isName hname
    have hnth (i : Nat) : nth ts (take ts .identifier (take ts .punctuation s)) i = nth ts s (i + 2) := by
      rw [nth_take hname', nth_take hdot']
    obtain ⟨hyields, hlast⟩ := ih (s := take ts .identifier (take ts .punctuation s)) (by
      intro i hi
      rw [hnth, hnth]
      exact h (i + 1) (by omega))
    refine ⟨?_, by rw [takeFurtherNames, hlast, hnth]; rfl⟩
    refine (begins_take hc .punctuation hdot' (mayTake_of_ne (by simp [hdot]))).yields.andThen fun _ => ?_
    refine (begins_take hc .identifier hname' (mayTake_of_ne ?_)).yields.andThen fun _ => hyields
    rw [hnext]
    exact ne_error_of_isName hname

lemma begins_functionCall (hc : ts.Closed) (hw : WellSpelled ts) (hg : Good ts g n) {names : Nat}
    (hs : left ts s ≤ n + 1) (h : callNames? ts s = some names) (hkind : holdsAtoms kind = true) :
    Begins ts kind s (functionCall ts g names s) := by
  obtain ⟨hname, further, hfurther, hparen, rfl⟩ : (nth ts s 0).isName = true
      ∧ ∃ further, further = furtherNames ts s ts.size 0
        ∧ nth ts s (2 * further + 1) = .lParen ∧ names = further + 1 := by
    unfold callNames? at h
    simp only [current] at h
    split at h
    · exact absurd h (by simp)
    next hname =>
    split at h
    · exact absurd h (by simp)
    next hparen =>
    simp only [Option.ite_none_right_eq_some, Option.some.injEq] at h
    exact ⟨by simpa using hname, _, rfl, by simpa using hparen, h.2.symm⟩
  have hne : nth ts (s.opening .functionCall) 0 ≠ .eof := by
    rw [nth_opening]
    exact ne_eof_of_isName hname
  refine begins_node hc ?_ (mayHold_of_holdsAtoms hkind rfl) rfl
  dsimp only
  generalize (if further + 1 = 1 then calleeRole ts (s.opening .functionCall)
    else LeafRole.identifier) = role
  obtain ⟨hyields, hnext⟩ : Yields ts .functionCall (take ts role (s.opening .functionCall)) _ ∧ _ :=
    yields_takeFurtherNames hc further (by
      intro i hi
      rw [nth_take hne, nth_take hne, nth_opening, nth_opening]
      simpa using furtherNames_spec ts.size 0 i (hfurther ▸ hi))
  refine leads_takeThen hc role hne (mayTake_of_ne ?_) rfl fun hlt => hyields.andThen fun _ => ?_
  · rw [nth_opening]
    exact ne_error_of_isName hname
  · rw [left_opening] at hlt
    refine (begins_parenthesized hc hw hg (by omega) ?_ rfl rfl).yields
    rw [hnext, nth_take hne, nth_opening, hparen]

/-! ### `CASE` and lists of statements -/

lemma begins_guardedStatement (hc : ts.Closed) (hg : Good ts g n) (inBody : Bool) (hs : left ts s < n)
    (h : nth ts s 0 ≠ .eof) (hkind : kind = .root ∨ kind = .statementList) :
    Begins ts kind s (guardedStatement ts g inBody s) := by
  refine (hg.statement kind inBody s hkind h hs).andThen fun _ => .ite (fun hstuck => ?_) fun _ => .refl _
  refine (begins_rejectToken hc _ (atEnd_eq_false_iff.1 (by simpa using hstuck.2)) ?_).yields
  rcases hkind with rfl | rfl <;> rfl

lemma begins_unbalancedEnd (hc : ts.Closed) (h : at? ts s (.keyword .END) = true) :
    Begins ts .statementList s (unbalancedEnd ts s) := by
  rw [at?_iff] at h
  have hend : nth ts (complain .unexpectedEndInCase (s.opening (.error 0))) 0 = .keyword .END := by
    simpa using h
  generalize hstart : complain .unexpectedEndInCase (s.opening (.error 0)) = start at hend
  have hne : nth ts start 0 ≠ .eof := by simp [hend]
  have hgo : (!atAny ts start alwaysStop) = true := by
    rw [atAny, current, hend, alwaysStop, KindSet.not_contains_ofList (by simp)]
    rfl
  have ahead (s : State) (hs : (!atAny ts s alwaysStop) = true) : nth ts s 0 ≠ .eof :=
    ne_eof_of_not_atAny contains_alwaysStop_eof (by simpa using hs)
  -- The `END` itself is the first token of the error.
  obtain ⟨roles, hroles⟩ := @takes_repeatWhile ts _ .literal ahead (take ts .literal start)
  have hfirst : repeatWhile ts (fun s => !atAny ts s alwaysStop) (take ts .literal) start
      = repeatWhile ts (fun s => !atAny ts s alwaysStop) (take ts .literal) (take ts .literal start) := by
    conv_lhs => rw [repeatWhile]
    rw [if_pos hgo]
    exact if_pos (remaining_take_lt hc hne .literal)
  obtain ⟨roles', hroles'⟩ := @takes_takeIf ts .semicolon .punctuation
    (repeatWhile ts (fun s => !atAny ts s alwaysStop) (take ts .literal) start) (by simp)
  rw [← hfirst] at hroles
  have htakes := (Takes.cons hne hroles).append hroles'
  have hdepth := htakes.depth
  subst hstart
  exact begins_reject hc htakes (by simp) hdepth rfl

/-- Where a list of statements does not end it goes on with a statement or an error. -/
lemma begins_listEntry (hc : ts.Closed) (hg : Good ts g n) {stop : KindSet} (hstop : stop.contains .eof = true)
    (outside : Option Nat) (hs : left ts s < n) (hmore : (!listEnds ts stop outside s) = true) :
    Begins ts .statementList s
      (if at? ts s (.keyword .END) && stop.contains (.keyword .END) then unbalancedEnd ts s
        else guardedStatement ts g true s) := by
  have hne : nth ts s 0 ≠ .eof := by
    intro heof
    rw [listEnds_of_eof hstop outside heof] at hmore
    exact absurd hmore (by simp)
  refine .ite (fun h => ?_) fun _ => begins_guardedStatement hc hg true hs hne (.inr rfl)
  rw [Bool.and_eq_true] at h
  exact begins_unbalancedEnd hc h.1

/-- A list of statements, where at least one token is to be read before its statements recur. -/
lemma yields_statementList (hc : ts.Closed) (hg : Good ts g n) (stop : KindSet) (outside : Option Nat)
    (s : State) (hs : left ts s < n) (hhold : mayHold kind .statementList = true) :
    Yields ts kind s (statementList ts g stop outside s) := by
  have hstop : (stop.union (.ofList [.bodyClose, .eof])).contains .eof = true :=
    stop.contains_union_ofList (by simp)
  have entry (s : State) (hs : left ts s ≤ n - 1) := begins_listEntry (s := s) hc hg hstop outside (by omega)
  refine .ite (fun _ => .refl s) fun hmore => ?_
  refine (begins_node hc (Begins.leads ?_ (fun _ => rfl) fun _ => rfl) hhold rfl).yields
  have hmore : (!listEnds ts (stop.union (.ofList [.bodyClose, .eof])) outside
      (s.opening .statementList)) = true :=
    Bool.not_eq_true' _ ▸ Bool.eq_false_iff.2 hmore
  exact begins_repeatWhile entry _ (by rw [left_opening]; omega) hmore

/-- A list of statements goes on up to where it ends. -/
lemma listEnds_statementList (hc : ts.Closed) (hg : Good ts g n) (stop : KindSet) (outside : Option Nat)
    (s : State) (hs : left ts s < n) :
    listEnds ts (stop.union (.ofList [.bodyClose, .eof])) outside (statementList ts g stop outside s) = true := by
  have hstop : (stop.union (.ofList [.bodyClose, .eof])).contains .eof = true :=
    stop.contains_union_ofList (by simp)
  have entry (s : State) (hs : left ts s ≤ n - 1) := begins_listEntry (s := s) hc hg hstop outside (by omega)
  rw [statementList]
  split
  · next h => exact h
  · have hend := condition_repeatWhile_of_begins (by simp) entry (s.opening .statementList)
      (by rw [left_opening]; omega)
    rw [Bool.not_eq_false'] at hend
    exact hend

/-- Where `END` comes next, it is on the given level or on a lower one. -/
def StopsOn (ts : TokenStream) (level : Nat) (s : State) : Prop :=
  at? ts s (.keyword .END) = true → blockLevel ts s ≤ level

/-- A list of statements that knows the level outside ends at an `END` on that level only. -/
lemma stopsOn_statementList (hc : ts.Closed) (hg : Good ts g n) (stop : KindSet) (outside : Nat)
    (s : State) (hs : left ts s < n) : StopsOn ts outside (statementList ts g stop (some outside) s) := by
  have hends := listEnds_statementList hc hg stop (some outside) s hs
  intro hend
  rw [listEnds, Bool.and_eq_true, hend] at hends
  simpa using hends.2

lemma yields_branchResult (hc : ts.Closed) (hg : Good ts g n) (form : BranchForm)
    (stop : List TokenKind) (s : State) (hs : left ts s < n) (hexpr : mayHold kind .expression = true)
    (hlist : mayHold kind .statementList = true) :
    Yields ts kind s (branchResult ts g form stop s) := by
  cases form with
  | expression => exact yields_expression hc hg _ s (Nat.le_of_lt hs) rfl hexpr
  | statements outside => exact yields_statementList hc hg _ outside s hs hlist

/-- A branch `WHEN` has a `THEN` unless it is complained about. -/
lemma derives_whenBranch (hc : ts.Closed) (hg : Good ts g n) (form : BranchForm) (stop : List TokenKind)
    (hs : left ts s ≤ n) (h : nth ts s 0 = .keyword .WHEN) (hhold : mayHold kind .whenBranch = true) :
    ∃ items, Derives ts kind s [.node .whenBranch items] (whenBranch ts g form stop s) := by
  have hne : nth ts (s.opening .whenBranch) 0 = .keyword .WHEN := by simpa using h
  have hlt := left_take hc (s := s.opening .whenBranch) (by simp [hne]) .keyword
  rw [left_opening] at hlt
  have result (s : State) (hs : left ts s < n) : Finds (.keyword .THEN) ts .whenBranch s
      (if at? ts s (.keyword .THEN) then branchResult ts g form stop (take ts .keyword s)
        else complain .expectedThen s) :=
    .ite (fun h => (finds_takeAt hc _ h (by simp)).andThen fun hle =>
      yields_branchResult hc hg form stop _ (by omega) rfl rfl) fun _ => finds_complain _ s
  refine derives_whenNode hc (derives_take hc .keyword (by simp [hne]) (by simp [hne, mayTake]))
    (by simp [h, mayOpen]) ?_ hhold
  refine (yields_expression (k := .expression) hc hg (.before (stop ++ [.keyword .THEN])) _ (by omega)
    rfl rfl).andFind fun _ => ?_
  exact result _ (by omega)

lemma begins_whenBranch (hc : ts.Closed) (hg : Good ts g n) (form : BranchForm) (stop : List TokenKind)
    (hs : left ts s ≤ n) (h : nth ts s 0 = .keyword .WHEN) (hhold : mayHold kind .whenBranch = true) :
    Begins ts kind s (whenBranch ts g form stop s) := by
  obtain ⟨items, h⟩ := derives_whenBranch hc hg form stop hs h hhold
  exact ⟨_, h, rfl⟩

/-- The operand of a `CASE` is no leaf and no branch. -/
lemma yieldsNo_caseOperand (hc : ts.Closed) (hg : Good ts g n) (s : State) (hs : left ts s ≤ n)
    (hexpr : mayHold kind .expression = true) :
    YieldsNo (fun x => x.isLeaf || x.isBranch) ts kind s
      (if at? ts s (.keyword .WHEN) then s else expression ts g .expression (.before caseParts) s) :=
  .ite (fun _ => .refl s) fun _ => yieldsNo_expression hc hg (fun _ => rfl) _ s hs rfl hexpr

/-- The branches of a `CASE` are no leaves. -/
lemma noLeaf_caseBranches (hc : ts.Closed) (hg : Good ts g n) (form : BranchForm) (s : State)
    (hs : left ts s ≤ n) (hexpr : mayHold kind .expression = true)
    (hwhen : mayHold kind .whenBranch = true) (helse : mayHold kind .elseBranch = true) :
    YieldsNo Item.isLeaf ts kind s (caseBranches ts g form s) := by
  have otherwise (s : State) (hs : left ts s ≤ n) : YieldsNo Item.isLeaf ts kind s
      (if at? ts s (.keyword .ELSE) then
        node .elseBranch (fun s => branchResult ts g form [.keyword .END] (take ts .keyword s)) s
        else s) := by
    refine .ite (fun h => ?_) fun _ => .refl s
    refine yieldsNo_node hc (fun _ => rfl) ?_ helse rfl
    refine leads_takeAt hc .keyword (at?_iff.1 h) (by simp) rfl fun hlt => ?_
    rw [left_opening] at hlt
    exact yields_branchResult hc hg form _ _ (by omega) rfl rfl
  have branches (s : State) (hs : left ts s ≤ n) : YieldsNo Item.isLeaf ts kind s
      (repeatWhile ts (at? ts · (.keyword .WHEN)) (whenBranch ts g form caseParts) s) := by
    refine yieldsNo_repeatWhile (fun s hs h => ?_) s hs
    obtain ⟨items, h⟩ := derives_whenBranch hc hg form caseParts hs (at?_iff.1 h) hwhen
    exact ⟨_, h, List.forall_mem_singleton.2 rfl⟩
  have operand := (yieldsNo_caseOperand hc hg s hs hexpr).mono fun x hx => (Bool.or_eq_false_iff.1 hx).1
  unfold caseBranches
  dsimp only
  refine operand.andThen fun _ => (branches _ (by omega)).andThen fun _ => otherwise _ (by omega)

lemma begins_caseExpression (hc : ts.Closed) (hg : Good ts g n) (hs : left ts s ≤ n + 1)
    (h : nth ts s 0 = .keyword .CASE) (hkind : holdsAtoms kind = true) :
    Begins ts kind s (caseExpression ts g s) := by
  have hne : nth ts (s.deeper.opening .caseOf) 0 = .keyword .CASE := by simpa using h
  have hlt := left_take hc (s := s.deeper.opening .caseOf) (by simp [hne]) .keyword
  rw [left_opening, left_deeper] at hlt
  obtain ⟨branches, hbranches, hleaf⟩ : YieldsNo Item.isLeaf ts .caseOf _ _ :=
    noLeaf_caseBranches hc hg .expression (take ts .keyword (s.deeper.opening .caseOf)) (by omega) rfl rfl rfl
  refine begins_case hc (by simp [h]) (derives_take hc .keyword (by simp [hne]) (by simp [hne, mayTake]))
    (by simp [h, mayOpen]) hbranches hleaf ?_ nofun ?_ ?_ rfl
  · exact .ite (fun hend => noNode_takeAt hc _ hend (by simp)) fun _ => noNode_complain _ _
  · exact mayHold_of_holdsAtoms hkind rfl
  · exact mayHold_of_holdsAtoms hkind rfl

/-! ### `CASE` statements and atoms -/

/-- A branch of a `CASE` statement ends on the level outside, or something is wrong in it. -/
lemma stopsOn_whenBranch (hc : ts.Closed) (hg : Good ts g n) (outside : Nat) (stop : List TokenKind)
    (hs : left ts s ≤ n) (h : nth ts s 0 = .keyword .WHEN) :
    Complains s (whenBranch ts g (.statements (some outside)) stop s)
      ∨ StopsOn ts outside (whenBranch ts g (.statements (some outside)) stop s) := by
  have hne : nth ts (s.opening .whenBranch) 0 = .keyword .WHEN := by simpa using h
  have hlt := left_take hc (s := s.opening .whenBranch) (by simp [hne]) .keyword
  rw [left_opening] at hlt
  have hhead : Yields ts .whenBranch (s.opening .whenBranch) (expression ts g .expression
      (.before (stop ++ [.keyword .THEN])) (take ts .keyword (s.opening .whenBranch))) :=
    (begins_take hc .keyword (by simp [hne]) (by simp [hne, mayTake])).yields.andThen fun _ =>
      yields_expression hc hg _ _ (by omega) rfl rfl
  have hle := hhead.left_le
  rw [left_opening] at hle
  cases hthen : at? ts (expression ts g .expression (.before (stop ++ [.keyword .THEN]))
      (take ts .keyword (s.opening .whenBranch))) (.keyword .THEN) with
  | true =>
    refine .inr ?_
    have hthen' := left_take hc (ne_eof_of_at hthen (by simp)) .keyword
    rw [whenBranch, node_eq]
    dsimp only
    rw [if_pos hthen]
    exact stopsOn_statementList hc hg _ outside _ (by omega)
  | false =>
    refine .inl (.node ?_)
    dsimp only
    rw [if_neg (by simp [hthen])]
    exact hhead.andComplain (.complain _ _)

/-- A `CASE` statement has no branches, or ends as one, or something is wrong in it. -/
lemma stopsOn_caseBranches (hc : ts.Closed) (hg : Good ts g n) (outside : Nat) (s : State)
    (hs : left ts s ≤ n) (hexpr : mayHold kind .expression = true) (hwhen : mayHold kind .whenBranch = true) :
    YieldsNo (fun x => x.isLeaf || x.isBranch) ts kind s (caseBranches ts g (.statements (some outside)) s)
      ∨ Complains s (caseBranches ts g (.statements (some outside)) s)
      ∨ StopsOn ts outside (caseBranches ts g (.statements (some outside)) s) := by
  have branch (s : State) (hs : left ts s ≤ n) (h : at? ts s (.keyword .WHEN) = true) :=
    begins_whenBranch hc hg (.statements (some outside)) caseParts hs (at?_iff.1 h) hwhen
  have operand := yieldsNo_caseOperand hc hg s hs hexpr
  have hle := operand.yields.left_le
  rw [caseBranches]
  generalize (if at? ts s (.keyword .WHEN) then s else expression ts g .expression (.before caseParts) s) = mid
    at operand hle
  split
  · next helse =>
    refine .inr (.inr ?_)
    have hbranches : left ts (repeatWhile ts (at? ts · (.keyword .WHEN))
        (whenBranch ts g (.statements (some outside)) caseParts) mid) ≤ left ts mid :=
      (yields_repeatWhile (fun s hs h => (branch s hs h).yields) mid (Nat.le_trans hle hs)).left_le
    generalize repeatWhile ts _ _ mid = last at helse hbranches ⊢
    have hlt := left_take hc (s := last.opening .elseBranch) (ne_eof_of_at helse (by simp)) .keyword
    rw [left_opening] at hlt
    exact stopsOn_statementList hc hg _ outside (take ts .keyword (last.opening .elseBranch)) (by omega)
  · cases hwhens : at? ts mid (.keyword .WHEN) with
    | false =>
      rw [repeatWhile_of_false hwhens]
      exact .inl operand
    | true =>
      refine .inr ?_
      have hbranches := complains_or_repeatWhile (P := StopsOn ts outside) (n := n)
        (fun s hs h => (branch s hs h).yields)
        (fun s hs h => stopsOn_whenBranch hc hg outside caseParts hs (at?_iff.1 h)) mid (by omega) hwhens
      exact hbranches.imp_left operand.yields.andComplain

/-- The branches of a `CASE` statement, and where they end if there are any. -/
lemma derives_caseBranches (hc : ts.Closed) (hg : Good ts g n) (outside : Nat) (s : State)
    (hs : left ts s ≤ n) (hexpr : mayHold kind .expression = true)
    (hwhen : mayHold kind .whenBranch = true) (helse : mayHold kind .elseBranch = true) :
    ∃ branches, Derives ts kind s branches (caseBranches ts g (.statements (some outside)) s)
      ∧ (∀ x ∈ branches, x.isLeaf = false)
      ∧ ((∃ x ∈ branches, x.isBranch = true) →
        Complains s (caseBranches ts g (.statements (some outside)) s)
          ∨ StopsOn ts outside (caseBranches ts g (.statements (some outside)) s)) := by
  rcases stopsOn_caseBranches hc hg outside s hs hexpr hwhen with ⟨branches, hbranches, hnone⟩ | hstops
  · refine ⟨branches, hbranches, fun x hx => (Bool.or_eq_false_iff.1 (hnone x hx)).1, ?_⟩
    rintro ⟨x, hx, hbranch⟩
    rw [(Bool.or_eq_false_iff.1 (hnone x hx)).2] at hbranch
    exact absurd hbranch nofun
  · obtain ⟨branches, hbranches, hleaf⟩ :=
      noLeaf_caseBranches hc hg (.statements (some outside)) s hs hexpr hwhen helse
    exact ⟨branches, hbranches, hleaf, fun _ => hstops⟩

/-- What a `CASE` statement reads behind its branches. -/
def endOfCase (ts : TokenStream) (s : State) : State :=
  if at? ts s (.keyword .END) then
    let s := take ts .keyword s
    let s := if at? ts s (.keyword .CASE) then take ts .keyword s else s
    eat ts .semicolon s
  else complain .expectedEnd s

lemma caseStatement_eq (s : State) : caseStatement ts g s = nested ts (node .caseStatement fun s =>
    endOfCase ts (caseBranches ts g (.statements (some (levelOutside ts s))) (take ts .keyword s))) s := rfl

lemma noNode_endOfCase (hc : ts.Closed) (s : State) :
    YieldsNo Item.isNode ts .caseStatement s (endOfCase ts s) := by
  have takeIf {k : TokenKind} (role : LeafRole) (s : State) (hk : k ≠ .eof ∧ k ≠ .error) :
      YieldsNo Item.isNode ts .caseStatement s (if at? ts s k then take ts role s else s) :=
    .ite (fun h => noNode_takeAt hc role h hk) fun _ => .refl s
  refine .ite (fun h => ?_) fun _ => noNode_complain _ s
  refine (noNode_takeAt hc .keyword h (by simp)).andThen fun _ => ?_
  exact (takeIf (k := .keyword .CASE) .keyword _ (by simp)).andThen fun _ => takeIf _ _ (by simp)

/-- `END CASE` ends the statement where `END` is on the level outside; else it is complained about. -/
lemma complains_or_endsCase (hc : ts.Closed) {start mid : State} (h : nth ts s 0 = .keyword .CASE)
    (hstart : ts.significantFrom s.pos = nthIndex ts s 0 :: ts.significantFrom start.pos)
    (hread : ∃ read, ts.significantFrom start.pos = read ++ ts.significantFrom mid.pos)
    (hstops : StopsOn ts (levelOutside ts s) mid) : Complains mid (endOfCase ts mid)
      ∨ EndsCase ts (ts.significantFrom s.pos) (ts.significantFrom (endOfCase ts mid).pos) := by
  rw [endOfCase]
  split
  · next hend =>
    refine .inr ?_
    obtain ⟨read, hread⟩ := hread
    obtain ⟨again, hagain, hcase⟩ :=
      exists_read_takeIf (k := .keyword .CASE) hc .keyword (take ts .keyword mid) (by simp)
    dsimp only
    generalize (if at? ts (take ts .keyword mid) (.keyword .CASE) then take ts .keyword (take ts .keyword mid)
      else take ts .keyword mid) = last at hagain ⊢
    obtain ⟨semicolon, hlast, hsemicolon⟩ :=
      exists_read_takeIf (k := .semicolon) hc (inferredRole ts last) last (by simp)
    refine ⟨nthIndex ts s 0, read, nthIndex ts mid 0, again ++ semicolon, ?_, h, at?_iff.1 hend, hstops hend, ?_⟩
    · rw [hstart, hread, significantFrom_take hc (ne_eof_of_at hend (by simp)) .keyword, hagain, hlast,
        List.append_assoc]
      rfl
    · rw [List.map_append]
      exact hcase.append hsemicolon
  · exact .inl (.complain _ _)

lemma begins_caseStatement (hc : ts.Closed) (hg : Good ts g n) (hs : left ts s ≤ n)
    (h : nth ts s 0 = .keyword .CASE) (hhold : mayHold kind .caseStatement = true)
    (herror : mayHold kind (.error 0) = true) : Begins ts kind s (caseStatement ts g s) := by
  have hne : nth ts (s.deeper.opening .caseStatement) 0 = .keyword .CASE := by simpa using h
  have hlt := left_take hc (s := s.deeper.opening .caseStatement) (by simp [hne]) .keyword
  rw [left_opening, left_deeper] at hlt
  have hfirst : Derives ts .caseStatement (s.deeper.opening .caseStatement) [.leaf .keyword] _ :=
    derives_take hc .keyword (by simp [hne]) (by simp [hne, mayTake])
  obtain ⟨branches, hbranches, hleaf, hstops⟩ : ∃ branches, Derives ts .caseStatement _ branches _ ∧ _ :=
    derives_caseBranches hc hg (levelOutside ts s) (take ts .keyword (s.deeper.opening .caseStatement))
      (by omega) rfl rfl rfl
  rw [caseStatement_eq]
  refine begins_case hc (by simp [h]) hfirst (by simp [h, mayOpen]) hbranches hleaf (noNode_endOfCase hc _)
    (fun _ hbranch => ?_) hhold herror rfl
  rcases hstops hbranch with hcomplains | hstops
  · exact .inl (hcomplains.andThen (noNode_endOfCase hc _).yields)
  · have hstart := significantFrom_take hc (s := s.deeper.opening .caseStatement) (by simp [hne]) .keyword
    have hread := hbranches.shaped.exists_append
    exact (complains_or_endsCase hc h hstart hread hstops).imp_left (Yields.andComplain ⟨branches, hbranches⟩)

/-- An atom is a leaf or a node of its own, whatever run of atoms it stands in. -/
lemma begins_atom (hc : ts.Closed) (hw : WellSpelled ts) (hg : Good ts g n) (stop : Stop)
    (hs : left ts s ≤ n + 1) (h : nth ts s 0 ≠ .eof) (hkind : holdsAtoms kind = true) :
    Begins ts kind s (atom ts g stop s) := by
  unfold atom
  split
  · next hk =>
    exact begins_parenthesized hc hw hg hs hk (mayHold_of_holdsAtoms hkind rfl)
      (mayHold_of_holdsAtoms hkind rfl)
  · next hk => exact begins_bracketed hc hg hs hk hkind
  · next hk => exact begins_caseExpression hc hg hs hk hkind
  · next hk => exact begins_between hc hg stop hs hk hkind
  · exact begins_rejectMalformed hc h (mayHold_of_holdsAtoms hkind rfl)
  · next herror =>
    split
    · next hcall => exact begins_functionCall hc hw hg hs hcall hkind
    · exact begins_bump hc h herror

end SqlLayout.Grammar
