import SqlLayout.Proofs.Grammar.Statements

/-!
# Runs of the grammar

A table definition is read up to its name by keywords that have been seen, with one exception: where its
name is the keyword `IF`, three tokens are read although only two have been seen. With that case the
recursive rules advance at any depth, and the grammar comes from the start of a closed stream to the
state after it. The main statement, `run_overrun_iff`, says for which streams the run asks for a token
after the last one.
-/

namespace SqlLayout.Grammar

variable {ts : TokenStream} {g : Rules} {s t u : State}

/-! ### The tokens ahead as a list -/

lemma nth_of_eof (h : nth ts s 0 = .eof) (n : Nat) : nth ts s n = .eof := by
  have hindex : nthIndex ts s n = nthIndex ts s 0 := by
    induction n with
    | zero => rfl
    | succ n ih =>
      have heof : ts.isEof (nthIndex ts s 0) = true := by simpa [TokenStream.isEof, nth] using h
      have hstep : nthIndex ts s (n + 1) = nthIndex ts s n := by
        rw [nthIndex.eq_2, ih, if_pos heof]
      rw [hstep, ih]
  rw [nth, hindex]
  exact h

lemma ahead_eq_nil (hc : ts.Closed) (h : nth ts s 0 = .eof) : ahead ts s = [] := by
  have hle := (hc.kind_eq_eof_iff _).1 h
  rw [ahead, TokenStream.significantFrom_eq_nil_of_nextSignificant hle, List.map_nil]

lemma ahead_eq_cons (hc : ts.Closed) (h : nth ts s 0 ≠ .eof) (role : LeafRole) :
    ahead ts s = nth ts s 0 :: ahead ts (take ts role s) := by
  rw [ahead, significantFrom_take hc h role]
  rfl

/-- Looking ahead is looking into the list of the tokens ahead. -/
lemma getElem?_ahead (hc : ts.Closed) (s : State) (n : Nat) :
    (ahead ts s)[n]? = if nth ts s n = .eof then none else some (nth ts s n) := by
  induction n generalizing s with
  | zero =>
    by_cases h : nth ts s 0 = .eof
    · simp [ahead_eq_nil hc h, h]
    · simp [ahead_eq_cons hc h .keyword, h]
  | succ n ih =>
    by_cases h : nth ts s 0 = .eof
    · simp [ahead_eq_nil hc h, nth_of_eof h]
    · rw [ahead_eq_cons hc h .keyword, List.getElem?_cons_succ, ih, nth_take h]

/-! ### Table definitions -/

lemma remaining_take_lt (hc : ts.Closed) (h : nth ts s 0 ≠ .eof) (role : LeafRole) :
    remaining ts (take ts role s) < remaining ts s := by
  have hlt := nextSignificant_lt hc h
  have hle := ts.le_nextSignificant s.pos
  rw [take_eq h, remaining, remaining]
  simp only [TokenStream.lastIndex] at hlt ⊢
  omega

/-- Keywords that have been seen are read up to and including the one that is looked for. -/
lemma takes_takeKeywordsThrough (hc : ts.Closed) (p : TokenKind → Bool) (n : Nat)
    (hbefore : ∀ i < n, nth ts s i ≠ .eof ∧ p (nth ts s i) = false) (hne : nth ts s n ≠ .eof)
    (hp : p (nth ts s n) = true) :
    (∃ roles, Takes ts s roles (takeKeywordsThrough ts p s))
      ∧ ∀ i, nth ts (takeKeywordsThrough ts p s) i = nth ts s (n + 1 + i) := by
  induction n generalizing s with
  | zero =>
    have hend : atEnd ts s = false := atEnd_eq_false_iff.2 hne
    have heq : takeKeywordsThrough ts p s = take ts .keyword s := by
      unfold takeKeywordsThrough
      rw [repeatWhile]
      simp [hend, current, hp]
    rw [heq]
    refine ⟨⟨_, .single .keyword hne⟩, fun i => ?_⟩
    rw [nth_take hne, Nat.zero_add, Nat.add_comm]
  | succ n ih =>
    obtain ⟨h0, hp0⟩ := hbefore 0 (by omega)
    have hend : atEnd ts s = false := atEnd_eq_false_iff.2 h0
    have heq : takeKeywordsThrough ts p s = takeKeywordsThrough ts p (take ts .keyword s) := by
      have hgo : (!atEnd ts s && !p (current ts s)) = true := by simp [hend, current, hp0]
      have hstep := repeatWhile.eq_def ts (fun s => !atEnd ts s && !p (current ts s))
        (take ts .keyword) s
      rw [if_pos hgo] at hstep
      dsimp only at hstep
      rw [if_pos (remaining_take_lt hc h0 .keyword)] at hstep
      rw [takeKeywordsThrough, takeKeywordsThrough, hstep]
    obtain ⟨⟨roles, hroles⟩, hnth⟩ := ih (s := take ts .keyword s)
      (fun i hi => by rw [nth_take h0]; exact hbefore (i + 1) (by omega))
      (by rw [nth_take h0]; exact hne) (by rw [nth_take h0]; exact hp)
    rw [heq]
    refine ⟨⟨_, .cons h0 hroles⟩, fun i => ?_⟩
    rw [hnth, nth_take h0]
    congr 1
    omega

lemma isTableModifier_spec {n : Nat} (h : isTableModifier ts s n = true) :
    nth ts s n ≠ .eof ∧ nth ts s n ≠ .keyword .TABLE := by
  unfold isTableModifier at h
  split at h
  all_goals first
    | (next hn => rw [hn]; simp)
    | exact absurd h (by simp)

lemma skipTableModifiers_spec (limit n : Nat) :
    n ≤ skipTableModifiers ts s limit n
      ∧ ∀ i, n ≤ i → i < skipTableModifiers ts s limit n → isTableModifier ts s i = true := by
  induction limit generalizing n with
  | zero => exact ⟨Nat.le_refl n, fun i hle hlt => absurd hlt (Nat.not_lt.2 hle)⟩
  | succ limit ih =>
    rw [skipTableModifiers]
    split
    · next hn =>
      obtain ⟨hle, hall⟩ := ih (n + 1)
      refine ⟨by omega, fun i hi hlt => ?_⟩
      rcases Nat.lt_or_eq_of_le hi with hi | rfl
      · exact hall i hi hlt
      · exact hn
    · exact ⟨Nat.le_refl n, fun i hle hlt => absurd hlt (Nat.not_lt.2 hle)⟩

/-- What a table definition has seen: its `TABLE`, and a name or `IF NOT EXISTS` after it. -/
lemma atTableDefinition_spec (hcreate : nth ts s 0 = .keyword .CREATE)
    (h : atTableDefinition ts s = true) :
    ∃ n, (∀ i < n, nth ts s i ≠ .eof ∧ nth ts s i ≠ .keyword .TABLE)
      ∧ nth ts s n = .keyword .TABLE
      ∧ (nth ts s (n + 1) = .keyword .IF →
        nth ts s (n + 2) ≠ .eof ∧ (nth ts s (n + 3) ≠ .eof ∨ nth ts s (n + 2) = .lParen)) := by
  obtain ⟨hle, hall⟩ := @skipTableModifiers_spec ts s ts.size 1
  unfold atTableDefinition at h
  dsimp only at h
  generalize skipTableModifiers ts s ts.size 1 = n at h hle hall
  split at h
  · exact absurd h (by simp)
  next htable =>
  have htable : nth ts s n = .keyword .TABLE := by simpa using htable
  refine ⟨n, fun i hi => ?_, htable, fun hif => ?_⟩
  · rcases Nat.eq_zero_or_pos i with rfl | hpos
    · rw [hcreate]
      simp
    · exact isTableModifier_spec (hall i hpos hi)
  · split at h
    · next hexists =>
      simp only [Bool.and_eq_true, beq_iff_eq] at hexists
      refine ⟨by rw [hexists.1.2]; simp, .inl ?_⟩
      rw [hexists.2]
      simp
    · simp only [Bool.and_eq_true, beq_iff_eq] at h
      -- The name is `IF` itself: a dot with a name follows it, or the bracket does.
      rcases Nat.eq_zero_or_pos (furtherNames ts s ts.size (n + 1)) with hzero | hpos
      · have hparen : nth ts s (n + 2) = .lParen := by simpa [hzero] using h.2
        exact ⟨by rw [hparen]; simp, .inr hparen⟩
      · obtain ⟨hdot, hname⟩ := furtherNames_spec ts.size (n + 1) 0 hpos
        refine ⟨?_, .inl (ne_eof_of_isName hname)⟩
        rw [show n + 2 = n + 1 + 2 * 0 + 1 by omega, hdot]
        simp

lemma dropWhile_eq_drop {p : TokenKind → Bool} {l : List TokenKind} {n : Nat}
    (hbefore : ∀ i < n, ∃ a, l[i]? = some a ∧ p a = true) (hn : ∃ a, l[n]? = some a ∧ p a = false) :
    l.dropWhile p = l.drop n := by
  induction n generalizing l with
  | zero =>
    obtain ⟨a, ha, hpa⟩ := hn
    cases l with
    | nil => simp at ha
    | cons b l =>
      obtain rfl : b = a := by simpa using ha
      simp [hpa]
  | succ n ih =>
    cases l with
    | nil => simp at hn
    | cons b l =>
      obtain ⟨a, ha, hpa⟩ := hbefore 0 (by omega)
      obtain rfl : b = a := by simpa using ha
      rw [List.dropWhile_cons, if_pos hpa, List.drop_succ_cons]
      exact ih (fun i hi => by simpa using hbefore (i + 1) (by omega)) (by simpa using hn)

lemma dropWhile_ahead (hc : ts.Closed) {n : Nat}
    (hbefore : ∀ i < n, nth ts s i ≠ .eof ∧ nth ts s i ≠ .keyword .TABLE)
    (htable : nth ts s n = .keyword .TABLE) :
    (ahead ts s).dropWhile (· != .keyword .TABLE) = (ahead ts s).drop n := by
  apply dropWhile_eq_drop
  · intro i hi
    refine ⟨nth ts s i, ?_, by simpa using (hbefore i hi).2⟩
    rw [getElem?_ahead hc, if_neg (hbefore i hi).1]
  · refine ⟨nth ts s n, ?_, by simp [htable]⟩
    rw [getElem?_ahead hc, if_neg (by rw [htable]; simp)]

/-- Only a stub of a table definition is left if the input ends right after `IF (`. -/
lemma isTableStub_ahead (hc : ts.Closed) {n : Nat}
    (hbefore : ∀ i < n, nth ts s i ≠ .eof ∧ nth ts s i ≠ .keyword .TABLE)
    (htable : nth ts s n = .keyword .TABLE) :
    Item.isTableStub (ahead ts s) = true
      ↔ nth ts s (n + 1) = .keyword .IF ∧ nth ts s (n + 2) = .lParen ∧ nth ts s (n + 3) = .eof := by
  rw [Item.isTableStub, dropWhile_ahead hc hbefore htable, beq_iff_eq]
  constructor
  · intro h
    have hat (i : Nat) : (ahead ts s)[n + i]? = [TokenKind.keyword .TABLE, .keyword .IF, .lParen][i]? := by
      rw [← h, List.getElem?_drop]
    have hif := hat 1
    have hparen := hat 2
    have hend := hat 3
    rw [getElem?_ahead hc] at hif hparen hend
    have some_of_eq {k k' : TokenKind} (hk : (if k = .eof then none else some k) = some k') : k = k' := by
      split at hk
      · exact absurd hk (by simp)
      · exact Option.some.inj hk
    refine ⟨some_of_eq hif, some_of_eq hparen, ?_⟩
    by_contra hne
    rw [if_neg hne] at hend
    exact absurd hend (by simp)
  · rintro ⟨hif, hparen, hend⟩
    apply List.ext_getElem?
    intro i
    rw [List.getElem?_drop, getElem?_ahead hc]
    match i with
    | 0 => simp [htable]
    | 1 => simp [hif]
    | 2 => simp [hparen]
    | i + 3 =>
      have hnone : (ahead ts s)[n + 3]? = none := by rw [getElem?_ahead hc, if_pos hend]
      have hlen := List.getElem?_eq_none_iff.1 hnone
      have hi : (ahead ts s)[n + (i + 3)]? = none := List.getElem?_eq_none_iff.2 (by omega)
      rw [getElem?_ahead hc] at hi
      simpa using hi

/-- The keywords of a table definition, and where they overrun the input. -/
lemma takes_tableHead (hc : ts.Closed) (hcreate : nth ts s 0 = .keyword .CREATE)
    (h : atTableDefinition ts s = true) :
    ∃ roles t, Takes ts s roles t
      ∧ (let head := takeKeywordsThrough ts (· == .keyword .TABLE) s
        if at? ts head (.keyword .IF) then
          take ts .keyword (take ts .keyword (take ts .keyword head)) else head)
        = t.overrunIf (Item.isTableStub (ahead ts s)) := by
  obtain ⟨n, hbefore, htable, hif⟩ := atTableDefinition_spec hcreate h
  have hstub := isTableStub_ahead hc hbefore htable
  obtain ⟨⟨roles, hroles⟩, hnth⟩ := takes_takeKeywordsThrough hc (· == .keyword .TABLE) n
    (fun i hi => ⟨(hbefore i hi).1, by simpa using (hbefore i hi).2⟩) (by rw [htable]; simp)
    (by simp [htable])
  dsimp only
  generalize takeKeywordsThrough ts (· == .keyword .TABLE) s = head at hroles hnth
  split
  · next hat =>
    have h0 := ne_eof_of_at hat (by simp)
    rw [at?_iff, hnth, Nat.add_zero] at hat
    obtain ⟨h2, h3⟩ := hif hat
    have h1 : nth ts (take ts .keyword head) 0 ≠ .eof := by
      rw [nth_take h0, hnth]
      exact h2
    have hthird : nth ts (take ts .keyword (take ts .keyword head)) 0 = nth ts s (n + 3) := by
      rw [nth_take h1, nth_take h0, hnth]
    -- Only the last of the three tokens has not been seen.
    by_cases hend : nth ts s (n + 3) = .eof
    · refine ⟨_, _, hroles.append (.cons h0 (.single .keyword h1)), ?_⟩
      have hparen := h3.resolve_left (not_not.2 hend)
      rw [hstub.2 ⟨hat, hparen, hend⟩]
      have hatEnd : atEnd ts (take ts .keyword (take ts .keyword head)) = true := by
        simp [atEnd, at?, current, hthird, hend]
      rw [take, if_pos hatEnd]
      simp [State.overrunIf]
    · refine ⟨_, _, hroles.append (.cons h0 (.cons h1 (.single .keyword (hthird ▸ hend)))), ?_⟩
      have hno : Item.isTableStub (ahead ts s) = false :=
        Bool.eq_false_iff.2 fun hyes => hend (hstub.1 hyes).2.2
      rw [hno, overrunIf_false]
  · next hat =>
    refine ⟨_, _, hroles, ?_⟩
    have hno : Item.isTableStub (ahead ts s) = false := by
      refine Bool.eq_false_iff.2 fun hyes => hat ?_
      rw [at?_iff, hnth]
      exact (hstub.1 hyes).1
    rw [hno, overrunIf_false]

lemma atTableDefinition_congr (h : s.pos = t.pos) : atTableDefinition ts s = atTableDefinition ts t := by
  have hnth : nth ts s = nth ts t := funext (nth_congr h)
  have htext : nthText ts s = nthText ts t := funext (nthText_congr h)
  have hmodifier (n : Nat) : isTableModifier ts s n = isTableModifier ts t n := by
    simp only [isTableModifier, nthIsWord, hnth, htext]
  have hskip (limit n : Nat) : skipTableModifiers ts s limit n = skipTableModifiers ts t limit n := by
    induction limit generalizing n with
    | zero => rfl
    | succ limit ih => simp only [skipTableModifiers, hmodifier, ih]
  have hnames (limit n : Nat) : furtherNames ts s limit n = furtherNames ts t limit n := by
    induction limit generalizing n with
    | zero => rfl
    | succ limit ih => simp only [furtherNames, hnth, ih]
  simp only [atTableDefinition, hnth, hskip, hnames]

lemma advances_tableDefinition (hc : ts.Closed) (hg : Sound ts g)
    (hcreate : nth ts s 0 = .keyword .CREATE) (h : atTableDefinition ts s = true) :
    Advances ts s (tableDefinition ts g s) := by
  have rest (s : State) : Advances ts s (eat ts .semicolon
      (clausesUntil ts g alwaysStop .atClause (declarationList ts g .column (qualifiedName ts s)))) :=
    .trans (.trans (.trans (advances_qualifiedName s) (advances_declarationList hc hg _ _))
      (advances_clausesUntil hc hg contains_alwaysStop_eof _ _)) (advances_eat _ (by simp))
  rw [← nth_opening .tableDefinition] at hcreate
  rw [← atTableDefinition_congr (pos_opening .tableDefinition s)] at h
  obtain ⟨roles, t, htakes, hhead⟩ := takes_tableHead hc hcreate h
  rw [ahead_congr (pos_opening .tableDefinition s)] at hhead
  obtain ⟨xs, hxs⟩ := rest (t.overrunIf (Item.isTableStub (ahead ts s)))
  have hreads := Reads.table htakes hxs
  rw [← hhead] at hreads
  exact ⟨_, hreads⟩

/-! ### Statements -/

lemma advances_bodyStatement (hc : ts.Closed) (hg : Sound ts g) (h : nth ts s 0 ≠ .eof) :
    Advances ts s (bodyStatement ts g s) := by
  have clauses := advances_clauseStatement hc hg s
  unfold bodyStatement
  dsimp only
  split
  · exact advances_block hc hg h
  · exact advances_block hc hg h
  · next hkind => exact advances_loopStatement hc hg h (by rw [hkind]; simp)
  · next hkind => exact advances_loopStatement hc hg h (by rw [hkind]; simp)
  · next hkind => exact advances_loopStatement hc hg h (by rw [hkind]; simp)
  · next hkind => exact advances_loopStatement hc hg h (by rw [hkind]; simp)
  · exact .ite (fun _ => clauses) fun _ => advances_ifStatement hg h
  · exact .ite (fun _ => clauses) fun _ => advances_caseStatement hg h
  · exact clauses

lemma advances_otherStatement (hc : ts.Closed) (hg : Sound ts g) (inBody : Bool)
    (h : nth ts s 0 ≠ .eof) : Advances ts s (otherStatement ts g inBody s) :=
  .ite (fun _ => advances_bodyStatement hc hg h) fun _ => advances_clauseStatement hc hg s

lemma advances_statement (hc : ts.Closed) (hg : Sound ts g) (inBody : Bool)
    (h : nth ts s 0 ≠ .eof) : Advances ts s (statement ts g inBody s) := by
  have other := advances_otherStatement hc hg inBody h
  unfold statement
  split
  · next hcreate =>
    exact .ite (fun _ => advances_routineDefinition hc hg s) fun _ =>
      .ite (advances_tableDefinition hc hg hcreate) fun _ => other
  · exact .ite (fun _ => advances_doBlock hg h) fun _ => other
  · exact .ite (fun _ => other) fun _ => advances_rejectToken _ h
  · exact advances_rejectToken _ h
  · exact advances_rejectToken _ h
  · exact advances_rejectMalformed h
  · exact other

/-! ### The grammar as a whole -/

/-- The recursive rules advance at any depth. -/
lemma sound_rules (hc : ts.Closed) (depth : Nat) : Sound ts (rules ts depth) := by
  induction depth with
  | zero =>
    -- The innermost rules read one token as it is, and no statement.
    refine ⟨fun _ s h => ?_, fun s h => ?_, fun _ s _ => ?_⟩
    · exact advances_bump h
    · exact advances_bump h
    · exact .refl s
  | succ depth ih =>
    refine ⟨fun stop s h => ?_, fun s h => ?_, fun inBody s h => ?_⟩
    · exact advances_atom hc ih stop h
    · exact advances_parenthesized hc ih h
    · exact advances_statement hc ih inBody h

/-- A whole run recognises one node, whose items are statements. -/
theorem reads_run (hc : ts.Closed) : ∃ xs, Reads ts {} [.node .root xs] (run ts) := by
  have statements (s : State) : Advances ts s (repeatWhile ts (fun s => !atEnd ts s)
      (guardedStatement ts (rules ts (ts.size + 2)) false) s) := by
    refine advances_repeatWhile (fun s hs => ?_) s
    exact advances_guardedStatement (sound_rules hc _) false
      (atEnd_eq_false_iff.1 (by simpa using hs))
  obtain ⟨xs, hxs⟩ := statements (State.opening .root {})
  exact ⟨xs, .node rfl hxs⟩

/-- The forest of a whole run. -/
def forest (ts : TokenStream) : List Item :=
  Item.outline (run ts).events.reverse

/-- A run walks around its forest: every node that it opens is closed once, inside the node around it. -/
theorem events_run (hc : ts.Closed) : (run ts).events.reverse = Item.eventsOf (forest ts) := by
  obtain ⟨xs, hxs⟩ := reads_run hc
  have hevents : (run ts).events.reverse = Item.eventsOf [.node .root xs] := by
    rw [hxs.events]
    simp
  rw [forest, hevents, Item.outline_eventsOf]

lemma reads_forest (hc : ts.Closed) :
    Reads ts {} (forest ts) (run ts) ∧ ∃ xs, forest ts = [.node .root xs] := by
  obtain ⟨xs, hxs⟩ := reads_run hc
  have hforest : forest ts = [.node .root xs] := by
    rw [forest, hxs.events]
    simp [Item.outline_eventsOf]
  rw [hforest]
  exact ⟨hxs, xs, rfl⟩

/-- A guarded statement reads something. -/
lemma remaining_guardedStatement_lt (hc : ts.Closed) (hg : Sound ts g) (inBody : Bool)
    (h : nth ts s 0 ≠ .eof) : remaining ts (guardedStatement ts g inBody s) < remaining ts s := by
  have hlt : s.pos < ts.size := by
    have hnext := nextSignificant_lt hc h
    have hle := ts.le_nextSignificant s.pos
    have hsize : ts.lastIndex < ts.size := ts.lastIndex_lt_size
    omega
  suffices hpos : s.pos < (guardedStatement ts g inBody s).pos by
    rw [remaining, remaining]
    omega
  obtain ⟨xs, hxs⟩ := hg.statement inBody s h
  have hle := hxs.pos_le
  unfold guardedStatement
  dsimp only
  split
  · next hstuck =>
    -- The guard reads a token in place of the statement.
    have hne : nth ts (g.statement inBody s) 0 ≠ .eof :=
      atEnd_eq_false_iff.1 (by simpa using hstuck.2)
    have hnext := ts.le_nextSignificant (g.statement inBody s).pos
    have hreject : (rejectToken ts .unexpectedToken (g.statement inBody s)).pos
        = ts.nextSignificant (g.statement inBody s).pos + 1 := by
      have hne :
          nth ts (complain .unexpectedToken ((g.statement inBody s).opening (.error 0))) 0 ≠ .eof := by
        simpa using hne
      exact congrArg State.pos (congrArg State.closing (take_eq hne .literal))
    omega
  · next hmoved =>
    refine Nat.lt_of_le_of_ne hle fun heq => hmoved ⟨nthIndex_congr heq.symm 0, ?_⟩
    rw [Bool.not_eq_true', atEnd_eq_false_iff, ← nth_congr heq]
    exact h

/-- A repetition ends where its condition fails, if its rule always reads something. -/
lemma condition_repeatWhile {condition : State → Bool} {rule : State → State}
    (h : ∀ s, condition s = true → remaining ts (rule s) < remaining ts s) (s : State) :
    condition (repeatWhile ts condition rule s) = false := by
  fun_induction repeatWhile ts condition rule s with
  | case1 s hs t _ ih => exact ih
  | case2 s hs t hnot => exact absurd (h s hs) hnot
  | case3 s hs => simpa using hs

/-- A run reads all tokens. -/
theorem significantFrom_run (hc : ts.Closed) : ts.significantFrom (run ts).pos = [] := by
  have progress (s : State) (hs : (!atEnd ts s) = true) :
      remaining ts (guardedStatement ts (rules ts (ts.size + 2)) false s) < remaining ts s :=
    remaining_guardedStatement_lt hc (sound_rules hc _) false
      (atEnd_eq_false_iff.1 (by simpa using hs))
  have hend := condition_repeatWhile progress (State.opening .root {})
  rw [Bool.not_eq_false', atEnd, at?_iff] at hend
  exact TokenStream.significantFrom_eq_nil_of_nextSignificant ((hc.kind_eq_eof_iff _).1 hend)

/-- The forest of a run has a leaf for every significant token. -/
theorem leavesOf_forest (hc : ts.Closed) :
    Item.leavesOf (forest ts) = (ts.significantFrom 0).length := by
  obtain ⟨read, hlen, hread⟩ := (reads_forest hc).1.significantFrom hc
  rw [significantFrom_run hc, List.append_nil] at hread
  rw [← hlen, ← hread]

/-- A run asks for a token after the last one exactly if an item of its forest is cut short. -/
theorem overrun_run (hc : ts.Closed) :
    (run ts).overrun = Item.areCutShort (ahead ts {}) (forest ts) := by
  rw [(reads_forest hc).1.overrun hc]
  simp

end SqlLayout.Grammar
