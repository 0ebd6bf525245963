import SqlLayout.Grammar.Block
import SqlLayout.Proofs.Grammar.Reads

/-!
# Rules read what they look at

Every rule of expressions, clauses and declarations comes from a state to another by the cases of `Reads`
alone: where it reads a token without asking what it is, an earlier look ahead has seen that the input
has not ended there. The recursive rules are assumed to do so, and each rule that is built from them
does.
-/

namespace SqlLayout.Grammar

variable {ts : TokenStream} {g : Rules} {s t u : State}

/-! ### Looking before reading -/

lemma atEnd_eq_false_iff : atEnd ts s = false ↔ nth ts s 0 ≠ .eof := by
  simp [atEnd, at?, current]

lemma at?_iff {kind : TokenKind} : at? ts s kind = true ↔ nth ts s 0 = kind := by
  simp [at?, current]

lemma ne_eof_of_at {kind : TokenKind} (h : at? ts s kind = true)
    (hkind : kind ≠ .eof) :
    nth ts s 0 ≠ .eof := by
  rw [at?_iff.1 h]
  exact hkind

lemma ne_eof_of_isName {kind : TokenKind} (h : kind.isName = true) : kind ≠ .eof := by
  rintro rfl
  exact absurd h (by decide)

lemma contains_alwaysStop_eof : alwaysStop.contains .eof = true :=
  KindSet.contains_ofList_iff.2 (by simp)

lemma ne_eof_of_not_atAny {kinds : KindSet} (hkinds : kinds.contains .eof = true)
    (h : atAny ts s kinds = false) : nth ts s 0 ≠ .eof := by
  intro heof
  rw [atAny, current, heof, hkinds] at h
  exact absurd h (by simp)

lemma ne_eof_of_atAny {kinds : KindSet} (hkinds : kinds.contains .eof = false)
    (h : atAny ts s kinds = true) : nth ts s 0 ≠ .eof := by
  intro heof
  rw [atAny, current, heof, hkinds] at h
  exact absurd h (by simp)

lemma ne_eof_of_not_hit {stop : Stop} (h : stop.hit ts s = false) : nth ts s 0 ≠ .eof := by
  simp only [Stop.hit, Bool.or_eq_false_iff] at h
  refine ne_eof_of_not_atAny ?_ h.1
  rw [KindSet.contains_union, contains_alwaysStop_eof, Bool.or_true]

/-- A word ahead is no end of input, which has no text. -/
lemma ne_eof_of_nthText (hc : ts.Closed) {n : Nat} (h : nthText ts s n ≠ []) :
    nth ts s n ≠ .eof := by
  intro heof
  exact h (hc.text_of_le _ ((hc.kind_eq_eof_iff _).1 heof))

/-! ### Steps -/

lemma advances_take (role : LeafRole) (h : nth ts s 0 ≠ .eof) : Advances ts s (take ts role s) :=
  ⟨_, .leaf role h⟩

lemma advances_bump (h : nth ts s 0 ≠ .eof) : Advances ts s (bump ts s) :=
  advances_take _ h

lemma advances_complain (cause : Complaint) (s : State) : Advances ts s (complain cause s) :=
  ⟨_, .complain s cause⟩

lemma takes_eat {kind : TokenKind} (s : State) (hkind : kind ≠ .eof) :
    ∃ roles, Takes ts s roles (eat ts kind s) := by
  unfold eat
  split
  · next h => exact ⟨_, .single _ (ne_eof_of_at h hkind)⟩
  · exact ⟨_, .nil s⟩

lemma advances_eat {kind : TokenKind} (s : State) (hkind : kind ≠ .eof) :
    Advances ts s (eat ts kind s) := by
  obtain ⟨roles, h⟩ := @takes_eat ts _ s hkind
  exact ⟨_, h.reads⟩

lemma takes_takeIf {kind : TokenKind} (role : LeafRole) (s : State)
    (hkind : kind ≠ .eof) :
    ∃ roles, Takes ts s roles (if at? ts s kind then take ts role s else s) := by
  split
  · next h => exact ⟨_, .single _ (ne_eof_of_at h hkind)⟩
  · exact ⟨_, .nil s⟩

lemma advances_takeIf {kind : TokenKind} (role : LeafRole) (s : State)
    (hkind : kind ≠ .eof) :
    Advances ts s (if at? ts s kind then take ts role s else s) := by
  obtain ⟨roles, h⟩ := @takes_takeIf ts _ role s hkind
  exact ⟨_, h.reads⟩

lemma advances_require {kind : TokenKind} (role : LeafRole) (cause : Complaint) (s : State)
    (hkind : kind ≠ .eof) : Advances ts s (require ts kind role cause s) := by
  unfold require
  split
  · next h => exact advances_take role (ne_eof_of_at h hkind)
  · exact advances_complain cause s

/-- A rule with a node around it. -/
lemma advances_node {kind : NodeKind} {rule : State → State}
    (h : Advances ts (s.opening kind) (rule (s.opening kind)))
    (hkind : Item.isPlain kind = true) : Advances ts s (node kind rule s) := by
  obtain ⟨xs, h⟩ := h
  exact ⟨_, .node hkind h⟩

lemma advances_rejectToken (cause : Complaint) (h : nth ts s 0 ≠ .eof) :
    Advances ts s (rejectToken ts cause s) :=
  ⟨_, .reject cause (.single _ (by simpa using h))⟩

lemma advances_rejectMalformed (h : nth ts s 0 ≠ .eof) : Advances ts s (rejectMalformed ts s) :=
  advances_rejectToken _ h

/-- A repetition advances if its rule does wherever the condition holds. -/
lemma advances_repeatWhile {condition : State → Bool} {rule : State → State}
    (h : ∀ s, condition s = true → Advances ts s (rule s)) (s : State) :
    Advances ts s (repeatWhile ts condition rule s) := by
  fun_induction repeatWhile ts condition rule s with
  | case1 s hs t _ ih => exact (h s hs).trans ih
  -- A rule that has read nothing is not tried again.
  | case2 s hs t _ => exact h s hs
  | case3 s _ => exact .refl s

/-- A repetition that reads tokens in one role. -/
lemma takes_repeatWhile {condition : State → Bool} {role : LeafRole}
    (h : ∀ s, condition s = true → nth ts s 0 ≠ .eof) (s : State) :
    ∃ roles, Takes ts s roles (repeatWhile ts condition (take ts role) s) := by
  fun_induction repeatWhile ts condition (take ts role) s with
  | case1 s hs t _ ih =>
    obtain ⟨roles, ih⟩ := ih
    exact ⟨_, .cons (h s hs) ih⟩
  | case2 s hs t _ => exact ⟨_, .single _ (h s hs)⟩
  | case3 s _ => exact ⟨_, .nil s⟩

lemma takes_takeGroup (opener : Token) (outside : Nat) (s : State) :
    ∃ roles, Takes ts s roles (takeGroup ts opener outside s) := by
  have ahead {s : State} {b : Bool} (h : ¬(atEnd ts s || b) = true) :
      nth ts s 0 ≠ .eof := by
    simp only [Bool.or_eq_true, not_or, Bool.not_eq_true] at h
    exact atEnd_eq_false_iff.1 h.1
  fun_induction takeGroup ts opener outside s with
  | case1 s => exact ⟨_, .nil s⟩
  | case2 s _ hs t _ => exact ⟨_, .single _ (ahead hs)⟩
  | case3 s _ hs t _ _ ih =>
    obtain ⟨roles, ih⟩ := ih
    exact ⟨_, .cons (ahead hs) ih⟩
  | case4 s _ hs t _ _ => exact ⟨_, .single _ (ahead hs)⟩

lemma advances_rejectGroup (h : nth ts s 0 ≠ .eof) : Advances ts s (rejectGroup ts s) := by
  obtain ⟨roles, hroles⟩ := @takes_takeGroup ts (ts.get (nthIndex ts s 0)) (levelOutside ts s)
    (take ts .punctuation (complain .nestingTooDeep (s.opening (.error 0))))
  exact ⟨_, .reject .nestingTooDeep (.cons (by simpa using h) hroles)⟩

/-- A rule inside one more group, or the whole group as an error. -/
lemma advances_nested {rule : State → State} (h : nth ts s 0 ≠ .eof)
    (hrule : Advances ts s.deeper (rule s.deeper)) : Advances ts s (nested ts rule s) := by
  unfold nested
  split
  · obtain ⟨xs, hrule⟩ := hrule
    exact ⟨xs, .deepen hrule⟩
  · exact advances_rejectGroup h

/-! ### Runs of atoms and lists -/

/-- The recursive rules advance wherever the input has not ended. -/
structure Sound (ts : TokenStream) (g : Rules) : Prop where
  atom (stop : Stop) (s : State) : nth ts s 0 ≠ .eof → Advances ts s (g.atom stop s)
  group (s : State) : nth ts s 0 ≠ .eof → Advances ts s (g.group s)
  statement (inBody : Bool) (s : State) : nth ts s 0 ≠ .eof → Advances ts s (g.statement inBody s)

lemma advances_atomsUntil (hg : Sound ts g) (stop : Stop) (s : State) :
    Advances ts s (atomsUntil ts g stop s) := by
  apply advances_repeatWhile
  intro s hs
  exact hg.atom stop s (ne_eof_of_not_hit (by simpa using hs))

/-- An expression is one node or nothing. -/
lemma reads_expression (hg : Sound ts g) (kind : NodeKind) (stop : Stop) (s : State)
    (hkind : Item.isPlain kind = true) :
    ∃ xs, Reads ts s xs (expression ts g kind stop s)
      ∧ ((xs = [] ∧ expression ts g kind stop s = s) ∨ ∃ ys, xs = [.node kind ys]) := by
  unfold expression
  split
  · exact ⟨[], .nil s, .inl ⟨rfl, rfl⟩⟩
  · obtain ⟨ys, hys⟩ := advances_atomsUntil hg stop (s.opening kind)
    exact ⟨_, .node hkind hys, .inr ⟨ys, rfl⟩⟩

lemma advances_expression (hg : Sound ts g) {kind : NodeKind} (stop : Stop) (s : State)
    (hkind : Item.isPlain kind = true) :
    Advances ts s (expression ts g kind stop s) := by
  obtain ⟨xs, h, -⟩ := reads_expression hg kind stop s hkind
  exact ⟨xs, h⟩

lemma advances_nonemptyExpression (hg : Sound ts g) {kind : NodeKind} (stop : Stop)
    (h : nth ts s 0 ≠ .eof) (hkind : Item.isPlain kind = true) :
    Advances ts s (nonemptyExpression ts g kind stop s) := by
  refine advances_node ?_ hkind
  exact (hg.atom stop _ (by simpa using h)).trans (advances_atomsUntil hg stop _)

lemma advances_commaList (hg : Sound ts g) (stop : Stop) (s : State) :
    Advances ts s (commaList ts g stop s) := by
  have element (s : State) :
      Advances ts s (expression ts g .listElement (stop.also [.comma]) s) :=
    advances_expression hg _ s rfl
  unfold commaList
  dsimp only
  split
  · exact .refl s
  · refine advances_node ?_ rfl
    refine (element _).trans (advances_repeatWhile (fun s hs => ?_) _)
    exact (advances_bump (ne_eof_of_at hs (by simp))).trans (element _)

/-! ### Clauses -/

lemma advances_eatEither (first second : Keyword) (s : State) :
    Advances ts s (eatEither ts first second s) := by
  unfold eatEither
  split
  · next h => exact advances_bump (ne_eof_of_at h (by simp))
  · exact advances_eat s (by simp)

lemma advances_selectQuantifier (hg : Sound ts g) (s : State) :
    Advances ts s (selectQuantifier ts g s) := by
  unfold selectQuantifier
  split
  · next h =>
    refine (advances_bump (ne_eof_of_at h (by simp))).trans ?_
    dsimp only
    split
    · next hon =>
      rw [Bool.and_eq_true, beq_iff_eq] at hon
      have hne := ne_eof_of_at hon.1 (by simp)
      refine (advances_bump hne).trans (hg.group _ ?_)
      rw [bump, nth_take hne, hon.2]
      simp
    · exact .refl _
  · exact advances_eat s (by simp)

/-- The further keywords of a clause; `DO` reads a token in any case. -/
lemma advances_clauseKeywordsAfter (hg : Sound ts g) (first : Keyword)
    (hdo : first = .DO → nth ts s 0 ≠ .eof) :
    Advances ts s (clauseKeywordsAfter ts g first s) := by
  have qualifiers (s : State) : Advances ts s
      (eat ts (.keyword .JOIN) (repeatWhile ts
        (fun s => !at? ts s (.keyword .JOIN) && (current ts s).isKeyword) (bump ts) s)) := by
    refine (advances_repeatWhile (fun s hs => ?_) s).trans (advances_eat _ (by simp))
    rw [Bool.and_eq_true] at hs
    refine advances_bump fun heof => ?_
    rw [current, heof] at hs
    exact absurd hs.2 (by decide)
  unfold clauseKeywordsAfter
  split
  · exact advances_selectQuantifier hg s
  · exact advances_eat s (by simp)
  · exact advances_eat s (by simp)
  · exact advances_eatEither _ _ s
  · exact advances_eatEither _ _ s
  · exact advances_eatEither _ _ s
  · exact advances_eat s (by simp)
  · exact advances_eat s (by simp)
  · exact advances_eat s (by simp)
  · exact advances_eat s (by simp)
  · exact advances_bump (hdo rfl)
  · split
    · next h =>
      refine advances_take .keyword fun heof => ?_
      simp [atRaiseLevel, at?, current, heof] at h
    · exact .refl s
  · exact advances_eatEither _ _ s
  · exact qualifiers s
  · exact qualifiers s
  · exact qualifiers s
  · exact qualifiers s
  · exact qualifiers s
  · exact qualifiers s
  · exact .refl s

/-- A clause that `DO` opens has another token. -/
lemma ne_eof_after_do (hc : ts.Closed) (hstart : atClauseStart ts s = true)
    (h : nth ts s 0 = .keyword .DO) : nth ts s 1 ≠ .eof := by
  have hnext : nthIsWord ts s 1 "nothing" = true ∨ nth ts s 1 = .keyword .UPDATE := by
    simpa [atClauseStart, current, h] using hstart
  rcases hnext with hword | hupdate
  · refine ne_eof_of_nthText hc fun hempty => ?_
    rw [nthIsWord, hempty] at hword
    exact absurd hword (by decide)
  · rw [hupdate]
    simp

lemma advances_clause (hc : ts.Closed) (hg : Sound ts g) (stop : Stop) (h : nth ts s 0 ≠ .eof) :
    Advances ts s (clause ts g stop s) := by
  refine advances_node ?_ rfl
  have h : nth ts (s.opening .clause) 0 ≠ .eof := by simpa using h
  generalize s.opening .clause = s at h
  split
  · next first hstart hfirst =>
    refine (advances_bump h).trans ?_
    refine (advances_clauseKeywordsAfter hg first fun hdo => ?_).trans ?_
    · rw [bump, nth_take h]
      exact ne_eof_after_do hc hstart (hdo ▸ hfirst)
    · dsimp only
      split
      · exact advances_commaList hg stop _
      · exact advances_expression hg stop _ rfl
  · exact advances_nonemptyExpression hg stop h rfl

lemma advances_clausesUntil (hc : ts.Closed) (hg : Sound ts g) {kinds : KindSet}
    (hkinds : kinds.contains .eof = true) (stop : Stop) (s : State) :
    Advances ts s (clausesUntil ts g kinds stop s) := by
  apply advances_repeatWhile
  intro s hs
  exact advances_clause hc hg stop (ne_eof_of_not_atAny hkinds (by simpa using hs))

lemma advances_clauseStatement (hc : ts.Closed) (hg : Sound ts g) (s : State) :
    Advances ts s (clauseStatement ts g s) := by
  refine advances_node ?_ rfl
  exact (advances_clausesUntil hc hg contains_alwaysStop_eof _ _).trans (advances_eat _ (by simp))

/-- A query inside another statement is one node. -/
lemma reads_embeddedQuery (hc : ts.Closed) (hg : Sound ts g) (stop : TokenKind) (s : State) :
    ∃ zs, Reads ts s [.node .statement zs] (embeddedQuery ts g stop s) := by
  have hkinds : (alwaysStop.union (.ofList [stop])).contains .eof = true := by
    rw [KindSet.contains_union, contains_alwaysStop_eof, Bool.true_or]
  obtain ⟨zs, hzs⟩ := advances_clausesUntil hc hg hkinds (Stop.atClause.also [stop])
    (s.opening .statement)
  exact ⟨zs, .node rfl hzs⟩

/-! ### Groups -/

lemma advances_parenthesized (hc : ts.Closed) (hg : Sound ts g) (h : nth ts s 0 ≠ .eof) :
    Advances ts s (parenthesized ts g s) := by
  have content (s : State) : Advances ts s (if atAny ts s subqueryStart then clauseStatement ts g s
      else if at? ts s .rParen then s else commaList ts g {} s) :=
    .ite (fun _ => advances_clauseStatement hc hg s) fun _ =>
      .ite (fun _ => .refl s) fun _ => advances_commaList hg {} s
  have close (s : State) : Advances ts s
      (if at? ts s .rParen then bump ts s else complain .expectedCloseParen s) :=
    .ite (fun h => advances_bump (ne_eof_of_at h (by simp))) fun _ => advances_complain _ s
  refine advances_nested h (advances_node ?_ rfl)
  refine .trans (.trans ?_ (content _)) (close _)
  exact advances_take .punctuation (by simpa using h)

lemma advances_bracketed (hg : Sound ts g) (h : nth ts s 0 ≠ .eof) :
    Advances ts s (bracketed ts g s) := by
  unfold bracketed
  refine advances_nested h ?_
  refine .trans (.trans (.trans ?_ (advances_atomsUntil hg _ _)) (advances_repeatWhile ?_ _))
    (advances_require _ _ _ (by simp))
  · exact advances_take .punctuation (by simpa using h)
  · intro s hs
    exact .trans (advances_take .punctuation (ne_eof_of_at hs (by simp))) (advances_atomsUntil hg _ _)

lemma advances_between (hg : Sound ts g) (stop : Stop) (h : nth ts s 0 ≠ .eof) :
    Advances ts s (between ts g stop s) := by
  have upper (s : State) : Advances ts s (if at? ts s (.keyword .AND) then
      atomsUntil ts g (stop.also [.keyword .AND, .keyword .OR]) (bump ts s) else s) :=
    .ite (fun h => .trans (advances_bump (ne_eof_of_at h (by simp))) (advances_atomsUntil hg _ _))
      fun _ => .refl s
  refine advances_node (.trans (.trans ?_ (advances_atomsUntil hg _ _)) (upper _)) rfl
  exact advances_bump (by simpa using h)

/-! ### Calls -/

/-- Further names are seen as a dot and a name each. -/
lemma furtherNames_spec (limit n i : Nat) (h : i < furtherNames ts s limit n) :
    nth ts s (n + 2 * i + 1) = .dot ∧ (nth ts s (n + 2 * i + 2)).isName = true := by
  induction limit generalizing n i with
  | zero => simp [furtherNames] at h
  | succ limit ih =>
    rw [furtherNames] at h
    split at h
    · next hname =>
      rw [Bool.and_eq_true, beq_iff_eq] at hname
      cases i with
      | zero => exact hname
      | succ i =>
        have hi := ih (n + 2) i (by omega)
        rw [show n + 2 * (i + 1) = n + 2 + 2 * i by omega]
        exact hi
    · simp at h

/-- Further names that have been seen can be read, and then what follows them is ahead. -/
lemma advances_takeFurtherNames (n : Nat)
    (h : ∀ i < n, nth ts s (2 * i) = .dot ∧ (nth ts s (2 * i + 1)).isName = true) :
    Advances ts s (takeFurtherNames ts n s)
      ∧ nth ts (takeFurtherNames ts n s) 0 = nth ts s (2 * n) := by
  induction n generalizing s with
  | zero => exact ⟨.refl s, rfl⟩
  | succ n ih =>
    have hdot : nth ts s 0 ≠ .eof := by
      rw [(h 0 (by omega)).1]
      simp
    have hname : nth ts (take ts .punctuation s) 0 ≠ .eof := by
      rw [nth_take hdot]
      exact ne_eof_of_isName (h 0 (by omega)).2
    have hnth (i : Nat) : nth ts (take ts .identifier (take ts .punctuation s)) i = nth ts s (i + 2) := by
      rw [nth_take hname, nth_take hdot]
    obtain ⟨hadv, hnext⟩ := ih (s := take ts .identifier (take ts .punctuation s)) (by
      intro i hi
      rw [hnth, hnth]
      exact h (i + 1) (by omega))
    refine ⟨.trans (.trans (advances_take _ hdot) (advances_take _ hname)) hadv, ?_⟩
    rw [takeFurtherNames, hnext, hnth]
    rfl

/-- A call that has been seen is read up to its round bracket and with it. -/
lemma advances_functionCall (hc : ts.Closed) (hg : Sound ts g) {names : Nat}
    (h : callNames? ts s = some names) : Advances ts s (functionCall ts g names s) := by
  obtain ⟨hname, further, hfurther, hparen, rfl⟩ : (nth ts s 0).isName = true
      ∧ ∃ further, further = furtherNames ts s ts.size 0
        ∧ nth ts s (2 * further + 1) = .lParen ∧ names = further + 1 := by
    unfold callNames? at h
    simp only [current] at h
    split at h
    · exact absurd h (by simp)
    · next hname =>
      split at h
      · exact absurd h (by simp)
      · next hparen =>
        simp only [Option.ite_none_right_eq_some, Option.some.injEq] at h
        exact ⟨by simpa using hname, _, rfl, by simpa using hparen, h.2.symm⟩
  have hne : nth ts (s.opening .functionCall) 0 ≠ .eof := by
    rw [nth_opening]
    exact ne_eof_of_isName hname
  refine advances_node ?_ rfl
  dsimp only
  -- In which role the callee is read makes no difference to what comes after it.
  generalize hrole : (if further + 1 = 1 then calleeRole ts (s.opening .functionCall)
    else LeafRole.identifier) = role
  obtain ⟨hadv, hnext⟩ := @advances_takeFurtherNames ts
    (take ts role (s.opening .functionCall)) further (by
      intro i hi
      rw [nth_take hne, nth_take hne, nth_opening, nth_opening]
      simpa using furtherNames_spec ts.size 0 i (hfurther ▸ hi))
  refine .trans (.trans (advances_take role hne) hadv) (advances_parenthesized hc hg ?_)
  rw [hnext, nth_take hne, nth_opening, hparen]
  simp

/-! ### `CASE` and lists of statements -/

lemma advances_guardedStatement (hg : Sound ts g) (inBody : Bool) (h : nth ts s 0 ≠ .eof) :
    Advances ts s (guardedStatement ts g inBody s) := by
  refine .trans (hg.statement inBody s h) (.ite (fun hstuck => ?_) fun _ => .refl _)
  exact advances_rejectToken _ (atEnd_eq_false_iff.1 (by simpa using hstuck.2))

lemma advances_unbalancedEnd (s : State) : Advances ts s (unbalancedEnd ts s) := by
  obtain ⟨roles, hroles⟩ := @takes_repeatWhile ts (fun s => !atAny ts s alwaysStop) .literal
    (fun s hs => ne_eof_of_not_atAny contains_alwaysStop_eof (by simpa using hs))
    (complain .unexpectedEndInCase (s.opening (.error 0)))
  obtain ⟨roles', hroles'⟩ := @takes_takeIf ts .semicolon .punctuation _ (by simp)
  exact ⟨_, .reject .unexpectedEndInCase (hroles.append hroles')⟩

lemma listEnds_of_eof {stop : KindSet} (hstop : stop.contains .eof = true) (outside : Option Nat)
    (h : nth ts s 0 = .eof) : listEnds ts stop outside s = true := by
  simp [listEnds, atAny, at?, current, h, hstop]

/-- A list of statements is one node or nothing. -/
lemma reads_statementList (hg : Sound ts g) (stop : KindSet) (outside : Option Nat) (s : State) :
    ∃ xs, Reads ts s xs (statementList ts g stop outside s)
      ∧ (xs = [] ∨ ∃ ys, xs = [.node .statementList ys]) := by
  have hstop : (stop.union (.ofList [.bodyClose, .eof])).contains .eof = true :=
    stop.contains_union_ofList (by simp)
  unfold statementList
  dsimp only
  split
  · exact ⟨[], .nil s, .inl rfl⟩
  · obtain ⟨ys, hys⟩ := @advances_repeatWhile ts
      (fun s => !listEnds ts (stop.union (.ofList [.bodyClose, .eof])) outside s)
      (fun s => if at? ts s (.keyword .END)
          && (stop.union (.ofList [.bodyClose, .eof])).contains (.keyword .END) then unbalancedEnd ts s
        else guardedStatement ts g true s) (by
      intro s hs
      refine .ite (fun _ => advances_unbalancedEnd s) fun _ => advances_guardedStatement hg true ?_
      intro heof
      rw [listEnds_of_eof hstop outside heof] at hs
      exact absurd hs (by simp)) (s.opening .statementList)
    exact ⟨_, .node rfl hys, .inr ⟨ys, rfl⟩⟩

lemma advances_statementList (hg : Sound ts g) (stop : KindSet) (outside : Option Nat) (s : State) :
    Advances ts s (statementList ts g stop outside s) := by
  obtain ⟨xs, h, -⟩ := reads_statementList hg stop outside s
  exact ⟨xs, h⟩

lemma advances_branchResult (hg : Sound ts g) (form : BranchForm) (stop : List TokenKind)
    (s : State) : Advances ts s (branchResult ts g form stop s) := by
  cases form with
  | expression => exact advances_expression hg _ s rfl
  | statements outside => exact advances_statementList hg _ outside s

lemma advances_whenBranch (hg : Sound ts g) (form : BranchForm) (stop : List TokenKind)
    (h : nth ts s 0 ≠ .eof) : Advances ts s (whenBranch ts g form stop s) := by
  have result (s : State) : Advances ts s (if at? ts s (.keyword .THEN) then
      branchResult ts g form stop (take ts .keyword s) else complain .expectedThen s) :=
    .ite (fun h => .trans (advances_take _ (ne_eof_of_at h (by simp)))
      (advances_branchResult hg form stop _))
      fun _ => advances_complain _ s
  refine advances_node (.trans (.trans ?_ (advances_expression hg _ _ rfl)) (result _)) rfl
  exact advances_take .keyword (by simpa using h)

lemma advances_caseBranches (hg : Sound ts g) (form : BranchForm) (s : State) :
    Advances ts s (caseBranches ts g form s) := by
  have operand (s : State) : Advances ts s (if at? ts s (.keyword .WHEN) then s
      else expression ts g .expression (.before caseParts) s) :=
    .ite (fun _ => .refl s) fun _ => advances_expression hg _ s rfl
  have otherwise (s : State) : Advances ts s (if at? ts s (.keyword .ELSE) then
      node .elseBranch (fun s => branchResult ts g form [.keyword .END] (take ts .keyword s)) s
      else s) := by
    refine .ite (fun h => advances_node ?_ rfl) fun _ => .refl s
    exact .trans (advances_take .keyword (by simpa using ne_eof_of_at h (by simp)))
      (advances_branchResult hg form _ _)
  refine .trans (.trans (operand s) (advances_repeatWhile ?_ _)) (otherwise _)
  intro s hs
  exact advances_whenBranch hg form caseParts (ne_eof_of_at hs (by simp))

lemma advances_caseExpression (hg : Sound ts g) (h : nth ts s 0 ≠ .eof) :
    Advances ts s (caseExpression ts g s) := by
  refine advances_nested h (advances_node ?_ rfl)
  refine .trans (.trans ?_ (advances_caseBranches hg _ _)) (advances_require _ _ _ (by simp))
  exact advances_take .keyword (by simpa using h)

lemma advances_caseStatement (hg : Sound ts g) (h : nth ts s 0 ≠ .eof) :
    Advances ts s (caseStatement ts g s) := by
  have ending (s : State) : Advances ts s (if at? ts s (.keyword .END) then
      let s := take ts .keyword s
      let s := if at? ts s (.keyword .CASE) then take ts .keyword s else s
      eat ts .semicolon s
      else complain .expectedEnd s) :=
    .ite (fun h => .trans (.trans (advances_take _ (ne_eof_of_at h (by simp)))
      (advances_takeIf _ _ (by simp))) (advances_eat _ (by simp))) fun _ => advances_complain _ s
  refine advances_nested h (advances_node ?_ rfl)
  refine .trans (.trans ?_ (advances_caseBranches hg _ _)) (ending _)
  exact advances_take .keyword (by simpa using h)

lemma advances_atom (hc : ts.Closed) (hg : Sound ts g) (stop : Stop) (h : nth ts s 0 ≠ .eof) :
    Advances ts s (atom ts g stop s) := by
  unfold atom
  split
  · exact advances_parenthesized hc hg h
  · exact advances_bracketed hg h
  · exact advances_caseExpression hg h
  · exact advances_between hg stop h
  · exact advances_rejectMalformed h
  · split
    · next hcall => exact advances_functionCall hc hg hcall
    · exact advances_bump h

end SqlLayout.Grammar
