import SqlLayout.Proofs.Grammar.Rules

/-!
# Statements read what they look at, but for two

The rules of declarations, routines, blocks and loops advance by the cases of `Reads`. Two of them read
tokens that no look ahead has seen: a table definition takes three tokens after `TABLE` once the first of
them is `IF`, and a loop over a query takes the token after its targets for `IN`. The grammar as a whole
comes from the start of a source to its end.
-/

namespace SqlLayout.Grammar

variable {ts : TokenStream} {g : Rules} {s t u : State}

/-! ### Declarations -/

lemma advances_typeAtom (hc : ts.Closed) (hg : Sound ts g) (h : nth ts s 0 ≠ .eof) :
    Advances ts s (typeAtom ts g s) := by
  unfold typeAtom
  split
  · exact advances_parenthesized hc hg h
  · exact advances_bracketed hg h
  · exact advances_take _ h
  · exact advances_take _ h
  · exact advances_take _ h
  · exact advances_take _ h
  · exact .ite (fun _ => advances_take _ h) fun _ => advances_bump h
  · exact advances_rejectMalformed h
  · exact advances_bump h

lemma advances_typeAtoms (hc : ts.Closed) (hg : Sound ts g) (stop : Stop) (ends : KindSet) (s : State) :
    Advances ts s (typeAtoms ts g stop ends s) := by
  refine advances_repeatWhile (fun s hs => ?_) s
  simp only [Bool.and_eq_true, Bool.not_eq_true'] at hs
  exact advances_typeAtom hc hg (ne_eof_of_not_hit hs.1.1)

lemma advances_defaultParts (hg : Sound ts g) (declared : Declared) (stop : Stop)
    (h : nth ts s 0 ≠ .eof) : Advances ts s (defaultParts ts g declared stop s) := by
  refine .trans (advances_node ?_ rfl) (advances_expression hg _ _ rfl)
  exact advances_take _ (by simpa using h)

lemma advances_defaultOrConstraint (hg : Sound ts g) (declared : Declared) (stop : Stop)
    (h : nth ts s 0 ≠ .eof) : Advances ts s (defaultOrConstraint ts g declared stop s) :=
  .ite (fun _ => advances_defaultParts hg declared stop h)
    fun _ => advances_nonemptyExpression hg _ h rfl

lemma advances_partsAfterName (hc : ts.Closed) (hg : Sound ts g) (declared : Declared) (stop : Stop)
    (s : State) : Advances ts s (partsAfterName ts g declared stop s) := by
  have rest (s : State) : Advances ts s (if stop.hit ts s then s else
      repeatWhile ts (fun s => !stop.hit ts s) (defaultOrConstraint ts g declared stop)
        (node (.declarationPart .dataType) (typeAtoms ts g stop typeEnd) s)) := by
    refine .ite (fun _ => .refl s) fun _ => ?_
    refine .trans (advances_node (advances_typeAtoms hc hg stop typeEnd _) rfl)
      (advances_repeatWhile (fun s hs => ?_) _)
    exact advances_defaultOrConstraint hg declared stop (ne_eof_of_not_hit (by simpa using hs))
  refine .trans (advances_repeatWhile (fun s hs => ?_) s) (rest _)
  rw [Bool.and_eq_true, Bool.not_eq_true'] at hs
  exact advances_defaultOrConstraint hg declared stop (ne_eof_of_not_hit hs.1)

lemma contains_argumentModes_eof : argumentModes.contains .eof = false :=
  KindSet.not_contains_ofList (by simp)

lemma advances_mode (s : State) (declared : Declared) : Advances ts s
    (if declared = .argument ∧ atAny ts s argumentModes ∧ (nth ts s 1).isName then
      node (.declarationPart .mode) (take ts .keyword) s else s) := by
  refine .ite (fun h => advances_node (advances_take _ ?_) rfl) fun _ => .refl s
  rw [nth_opening]
  exact ne_eof_of_atAny contains_argumentModes_eof h.2.1

lemma advances_declaredName (s : State) (declared : Declared) : Advances ts s
    (if startsWithName ts declared s then
      node (.declarationPart .name) (take ts .identifier) s else s) := by
  refine .ite (fun h => advances_node (advances_take _ ?_) rfl) fun _ => .refl s
  rw [nth_opening]
  refine ne_eof_of_isName (Bool.of_not_eq_false fun hname => ?_)
  simp [startsWithName, current, hname] at h

lemma advances_declaration (hc : ts.Closed) (hg : Sound ts g) (declared : Declared) (stop : Stop)
    (s : State) : Advances ts s (declaration ts g declared stop s) := by
  have ending (s : State) : Advances ts s (if declared = .variable then eat ts .semicolon s else s) :=
    .ite (fun _ => advances_eat s (by simp)) fun _ => .refl s
  refine .ite (fun _ => .refl s) fun _ =>
    advances_node (.trans (.ite (fun _ => ?_) fun _ => ?_) (ending _)) rfl
  · exact advances_node (advances_atomsUntil hg stop _) rfl
  · exact .trans (.trans (advances_mode _ declared) (advances_declaredName _ declared))
      (advances_partsAfterName hc hg declared stop _)

lemma advances_declarationList (hc : ts.Closed) (hg : Sound ts g) (declared : Declared) (s : State) :
    Advances ts s (declarationList ts g declared s) := by
  have entry (s : State) := advances_declaration hc hg declared (.before [.comma]) s
  have entries (s : State) : Advances ts s (if at? ts s .rParen then s else
      repeatWhile ts (at? ts · .comma)
        (fun s => declaration ts g declared (.before [.comma]) (take ts .punctuation s))
        (declaration ts g declared (.before [.comma]) s)) := by
    refine .ite (fun _ => .refl s) fun _ => .trans (entry s) (advances_repeatWhile (fun s hs => ?_) _)
    exact .trans (advances_take _ (ne_eof_of_at hs (by simp))) (entry _)
  refine .ite (fun _ => advances_complain _ s) fun hopen => ?_
  have hparen : at? ts s .lParen = true := by simpa using hopen
  have h : nth ts s 0 ≠ .eof := ne_eof_of_at hparen (by simp)
  refine advances_nested h (advances_node (.trans (.trans ?_ (entries _))
    (advances_require _ _ _ (by simp))) rfl)
  exact advances_take .punctuation (by simpa using h)

/-! ### Routines -/

lemma advances_qualifiedName (s : State) : Advances ts s (qualifiedName ts s) := by
  refine .ite (fun _ => advances_complain _ s) fun hname => ?_
  refine .trans (advances_take _ (ne_eof_of_isName (by simpa [current] using hname)))
    (advances_repeatWhile (fun s hs => ?_) _)
  rw [Bool.and_eq_true] at hs
  have hdot := ne_eof_of_at hs.1 (by simp)
  refine .trans (advances_take _ hdot) (advances_take _ ?_)
  rw [nth_take hdot]
  exact ne_eof_of_isName hs.2

lemma advances_routineAttribute (hg : Sound ts g) (h : nth ts s 0 ≠ .eof) :
    Advances ts s (routineAttribute ts g s) :=
  advances_node (.trans (advances_take .keyword (by simpa using h)) (advances_expression hg _ _ rfl)) rfl

lemma advances_returnsClause (hc : ts.Closed) (hg : Sound ts g) (h : nth ts s 0 ≠ .eof) :
    Advances ts s (returnsClause ts g s) := by
  have result (s : State) : Advances ts s
      (if at? ts s (.keyword .TABLE) && nth ts s 1 == .lParen then
        declarationList ts g .column (take ts .keyword s)
      else if (Stop.before attributeStart).hit ts s || atOperator ts s "=" then s
      else node .expression (typeAtoms ts g (.before attributeStart) .empty) s) := by
    refine .ite (fun h => ?_) fun _ => .ite (fun _ => .refl s) fun _ => ?_
    · rw [Bool.and_eq_true] at h
      exact .trans (advances_take _ (ne_eof_of_at h.1 (by simp))) (advances_declarationList hc hg _ _)
    · exact advances_node (advances_typeAtoms hc hg _ _ _) rfl
  unfold returnsClause
  exact advances_node (.trans (advances_take .keyword (by simpa using h)) (result _)) rfl

lemma advances_routineBody (hg : Sound ts g) (s : State) : Advances ts s (routineBody ts g s) := by
  have constants (s : State) : Advances ts s
      (repeatWhile ts (fun s => !(Stop.before attributeStart).hit ts s)
        (fun s => if at? ts s .error then rejectMalformed ts s else bump ts s) s) := by
    refine advances_repeatWhile (fun s hs => ?_) s
    have h := @ne_eof_of_not_hit ts s _ (by simpa using hs)
    exact .ite (fun _ => advances_rejectMalformed h) fun _ => advances_bump h
  have content (s : State) : Advances ts s (if at? ts s .bodyOpen then
      require ts .bodyClose .punctuation .expectedBodyEnd
        (statementList ts g .empty none (take ts .punctuation s))
      else repeatWhile ts (fun s => !(Stop.before attributeStart).hit ts s)
        (fun s => if at? ts s .error then rejectMalformed ts s else bump ts s) s) := by
    refine .ite (fun h => ?_) fun _ => constants s
    exact .trans (.trans (advances_take _ (ne_eof_of_at h (by simp))) (advances_statementList hg _ _ _))
      (advances_require _ _ _ (by simp))
  unfold routineBody
  exact advances_node (.trans (advances_takeIf _ _ (by simp)) (content _)) rfl

lemma advances_takeKeywordsThrough (p : TokenKind → Bool) (s : State) :
    Advances ts s (takeKeywordsThrough ts p s) := by
  have last (s : State) : Advances ts s (if atEnd ts s then s else take ts .keyword s) := by
    refine .ite (fun _ => .refl s) fun h => advances_take _ ?_
    exact atEnd_eq_false_iff.1 (by simpa using h)
  refine .trans (advances_repeatWhile (fun s hs => ?_) s) (last _)
  rw [Bool.and_eq_true, Bool.not_eq_true'] at hs
  exact advances_take _ (atEnd_eq_false_iff.1 hs.1)

lemma advances_routineDefinition (hc : ts.Closed) (hg : Sound ts g) (s : State) :
    Advances ts s (routineDefinition ts g s) := by
  have arguments (s : State) : Advances ts s
      (if at? ts s .lParen then declarationList ts g .argument s
        else complain .expectedArguments s) :=
    .ite (fun _ => advances_declarationList hc hg _ s) fun _ => advances_complain _ s
  unfold routineDefinition
  refine advances_node (.trans (.trans (.trans (.trans (advances_takeKeywordsThrough _ _)
    (advances_qualifiedName _)) (arguments _)) (advances_repeatWhile (fun s hs => ?_) _))
    (advances_eat _ (by simp))) rfl
  have h := @ne_eof_of_not_atAny ts s _ contains_alwaysStop_eof (by simpa using hs)
  split
  · exact advances_routineBody hg s
  · exact advances_returnsClause hc hg h
  · exact advances_routineAttribute hg h

lemma advances_doBody (hg : Sound ts g) (s : State) : Advances ts s
    (match current ts s with
      | .bodyOpen => routineBody ts g s
      | .string | .dollarString => node .functionBody (take ts .literal) s
      | _ => complain .expectedDoBody s) := by
  have literal (hs : nth ts s 0 ≠ .eof) :
      Advances ts s (node .functionBody (take ts .literal) s) :=
    advances_node (advances_take _ (by simpa using hs)) rfl
  split
  · exact advances_routineBody hg s
  · next hs => exact literal (by rw [← current, hs]; simp)
  · next hs => exact literal (by rw [← current, hs]; simp)
  · exact advances_complain _ s

lemma advances_doBlock (hg : Sound ts g) (h : nth ts s 0 ≠ .eof) : Advances ts s (doBlock ts g s) := by
  have language (s : State) : Advances ts s
      (if at? ts s (.keyword .LANGUAGE) then routineAttribute ts g s else s) :=
    .ite (fun h => advances_routineAttribute hg (ne_eof_of_at h (by simp))) fun _ => .refl s
  unfold doBlock
  refine advances_node (.trans (.trans (.trans (.trans ?_ (language _)) (advances_doBody hg _))
    (language _)) (advances_eat _ (by simp))) rfl
  exact advances_take .keyword (by simpa using h)

/-! ### Blocks and conditionals -/

lemma takes_label (s : State) : ∃ roles, Takes ts s roles (label ts s) := by
  unfold label
  split
  · next h =>
    simp only [atLabel, atOperator, Bool.and_eq_true, beq_iff_eq] at h
    obtain ⟨⟨⟨⟨h0, -⟩, h1⟩, h2⟩, -⟩ := h
    have h0 := ne_eof_of_at h0 (by simp)
    have h1 : nth ts (take ts .punctuation s) 0 ≠ .eof := by
      rw [nth_take h0]
      exact ne_eof_of_isName h1
    have h2 : nth ts (take ts .identifier (take ts .punctuation s)) 0 ≠ .eof := by
      rw [nth_take h1, nth_take h0, h2]
      simp
    exact ⟨_, .cons h0 (.cons h1 (.single _ h2))⟩
  · exact ⟨[], .nil s⟩

/-- After a label that has been seen, the tokens ahead are those behind it. -/
lemma nth_label (s : State) :
    nth ts (label ts s) 0 = nth ts s (if atLabel ts s then 3 else 0) := by
  unfold label
  split
  · next h =>
    simp only [atLabel, atOperator, Bool.and_eq_true, beq_iff_eq] at h
    obtain ⟨⟨⟨⟨h0, -⟩, h1⟩, h2⟩, -⟩ := h
    have h0 := ne_eof_of_at h0 (by simp)
    have h1 : nth ts (take ts .punctuation s) 0 ≠ .eof := by
      rw [nth_take h0]
      exact ne_eof_of_isName h1
    have h2 : nth ts (take ts .identifier (take ts .punctuation s)) 0 ≠ .eof := by
      rw [nth_take h1, nth_take h0, h2]
      simp
    rw [nth_take h2, nth_take h1, nth_take h0]
  · rfl

lemma advances_label (s : State) : Advances ts s (label ts s) := by
  obtain ⟨roles, h⟩ := @takes_label ts s
  exact ⟨_, h.reads⟩

lemma takes_endLabel (s : State) : ∃ roles, Takes ts s roles
    (match current ts s with
      | .ident | .quotedIdent => take ts .identifier s
      | _ => s) := by
  split
  · next h => exact ⟨_, .single _ (by rw [← current, h]; simp)⟩
  · next h => exact ⟨_, .single _ (by rw [← current, h]; simp)⟩
  · exact ⟨_, .nil s⟩

/-- The end of a construct is read as leaves. -/
lemma takes_endOfConstruct (s : State) : ∃ roles, Takes ts s roles (endOfConstruct ts s) := by
  obtain ⟨roles, hroles⟩ := @takes_endLabel ts s
  obtain ⟨roles', hroles'⟩ := @takes_eat ts .semicolon _ (by simp)
  exact ⟨_, hroles.append hroles'⟩

lemma advances_endOfConstruct (s : State) : Advances ts s (endOfConstruct ts s) := by
  obtain ⟨roles, h⟩ := @takes_endOfConstruct ts s
  exact ⟨_, h.reads⟩

/-- The `END` of a construct is read as leaves and complaints. -/
lemma reads_endWith (word : Keyword) (cause : Complaint) (s : State) :
    ∃ xs, Reads ts s xs (endWith ts word cause s) ∧ ∀ x ∈ xs, ∀ kind ys, x ≠ .node kind ys := by
  unfold endWith
  split
  · next h =>
    obtain ⟨roles, hroles⟩ := @takes_endOfConstruct ts
      (require ts (.keyword word) .keyword cause (take ts .keyword s))
    have hroles := hroles.reads
    unfold require at hroles ⊢
    split at hroles
    · next hword =>
      rw [if_pos hword]
      refine ⟨_, .append (.append (.leaf _ (ne_eof_of_at h (by simp)))
        (.leaf _ (ne_eof_of_at hword (by simp)))) hroles, ?_⟩
      simp
    · next hword =>
      rw [if_neg hword]
      refine ⟨_, .append (.append (.leaf _ (ne_eof_of_at h (by simp))) (.complain _ cause)) hroles, ?_⟩
      simp
  · exact ⟨_, .complain s cause, by simp⟩

lemma advances_endWith (word : Keyword) (cause : Complaint) (s : State) :
    Advances ts s (endWith ts word cause s) := by
  obtain ⟨xs, h, -⟩ := @reads_endWith ts word cause s
  exact ⟨xs, h⟩

lemma advances_declareSection (hc : ts.Closed) (hg : Sound ts g) (h : nth ts s 0 ≠ .eof) :
    Advances ts s (declareSection ts g s) := by
  have hstop : (KindSet.ofList [.keyword .BEGIN, .bodyClose, .eof]).contains .eof = true :=
    KindSet.contains_ofList_iff.2 (by simp)
  unfold declareSection
  refine advances_node (.trans ?_ (advances_repeatWhile (fun s hs => ?_) _)) rfl
  · exact advances_take .keyword (by simpa using h)
  · refine .trans (advances_declaration hc hg .variable {} s) ?_
    refine .ite (fun _ => .refl _) fun hstuck => .ite (fun h => ?_) fun _ => ?_
    · exact advances_take _ (ne_eof_of_at h (by simp))
    · -- The declaration has read nothing, so the token that the section goes on with is still ahead.
      refine advances_rejectToken _ ?_
      rw [nth, not_not.1 hstuck]
      exact ne_eof_of_not_atAny hstop (by simpa using hs)

lemma advances_exceptionSection (hg : Sound ts g) (h : nth ts s 0 ≠ .eof) :
    Advances ts s (exceptionSection ts g s) := by
  unfold exceptionSection
  refine advances_node (.trans ?_ (advances_repeatWhile (fun s hs => ?_) _)) rfl
  · exact advances_take .keyword (by simpa using h)
  · exact advances_whenBranch hg _ _ (ne_eof_of_at hs (by simp))

lemma advances_blockBody (hg : Sound ts g) (s : State) : Advances ts s (blockBody ts g s) := by
  have handlers (s : State) : Advances ts s
      (if at? ts s (.keyword .EXCEPTION) then exceptionSection ts g s else s) :=
    .ite (fun h => advances_exceptionSection hg (ne_eof_of_at h (by simp))) fun _ => .refl s
  have ending (s : State) : Advances ts s (if at? ts s (.keyword .END) then
      endOfConstruct ts (take ts .keyword s) else complain .expectedEnd s) :=
    .ite (fun h => .trans (advances_take _ (ne_eof_of_at h (by simp))) (advances_endOfConstruct _))
      fun _ => advances_complain _ s
  exact .trans (.trans (advances_statementList hg _ _ s) (handlers _)) (ending _)

lemma advances_block (hc : ts.Closed) (hg : Sound ts g) (h : nth ts s 0 ≠ .eof) :
    Advances ts s (block ts g s) := by
  have declared (s : State) : Advances ts s
      (if at? ts s (.keyword .DECLARE) then declareSection ts g s else s) :=
    .ite (fun h => advances_declareSection hc hg (ne_eof_of_at h (by simp))) fun _ => .refl s
  have body (s : State) : Advances ts s (if at? ts s (.keyword .BEGIN) then
      blockBody ts g (take ts .keyword s) else complain .expectedBegin s) :=
    .ite (fun h => .trans (advances_take _ (ne_eof_of_at h (by simp))) (advances_blockBody hg _))
      fun _ => advances_complain _ s
  exact advances_nested h
    (advances_node (.trans (.trans (advances_label _) (declared _)) (body _)) rfl)

lemma advances_conditionalBranch (hg : Sound ts g) (h : nth ts s 0 ≠ .eof) :
    Advances ts s (conditionalBranch ts g s) := by
  refine advances_node (.trans (.ite (fun _ => ?_) fun _ => ?_) (advances_statementList hg _ _ _)) rfl
  · exact advances_take .keyword (by simpa using h)
  · refine .trans (.trans ?_ (advances_expression hg _ _ rfl)) (advances_require _ _ _ (by simp))
    exact advances_take .keyword (by simpa using h)

lemma advances_ifStatement (hg : Sound ts g) (h : nth ts s 0 ≠ .eof) :
    Advances ts s (ifStatement ts g s) := by
  refine advances_nested h (advances_node (.trans (.trans ?_ (advances_repeatWhile (fun s hs => ?_) _))
    (advances_endWith _ _ _)) rfl)
  · exact advances_conditionalBranch hg (by simpa using h)
  · refine advances_conditionalBranch hg ?_
    rw [Bool.or_eq_true] at hs
    exact hs.elim (fun h => ne_eof_of_at h (by simp)) fun h => ne_eof_of_at h (by simp)

/-! ### Loops -/

/-- Leaves and complaints before items do not change whether these lack `IN`. -/
lemma lacksIn_append_of_not_node {xs ys : List Item} (h : ∀ x ∈ xs, ∀ kind zs, x ≠ .node kind zs) :
    Item.lacksIn (xs ++ ys) = Item.lacksIn ys := by
  induction xs with
  | nil => rfl
  | cons x xs ih =>
    have hxs := ih fun y hy => h y (List.mem_cons_of_mem x hy)
    cases x with
    | leaf role => exact hxs
    | error cause => exact hxs
    | node kind zs => exact absurd rfl (h _ List.mem_cons_self kind zs)

lemma not_node_of_mem_map_leaf {roles : List LeafRole} :
    ∀ x ∈ roles.map Item.leaf, ∀ kind zs, x ≠ .node kind zs := by
  intro x hx
  obtain ⟨role, -, rfl⟩ := List.mem_map.1 hx
  simp

/-- What follows the head of a loop, and holds no query. -/
lemma reads_loopRest (hg : Sound ts g) (s : State) :
    ∃ xs, Reads ts s xs (if at? ts s (.keyword .LOOP) then
        endWith ts .LOOP .expectedEndLoop
          (statementList ts g (.ofList [.keyword .END]) none (take ts .keyword s))
        else complain .expectedLoop s)
      ∧ Item.lacksIn xs = false ∧ ∀ kind ys zs, xs ≠ .node kind ys :: zs := by
  split
  · next h =>
    obtain ⟨xs, hxs, hlist⟩ := reads_statementList hg (.ofList [.keyword .END]) none
      (take ts .keyword s)
    obtain ⟨ys, hys, hend⟩ := @reads_endWith ts .LOOP .expectedEndLoop
      (statementList ts g (.ofList [.keyword .END]) none (take ts .keyword s))
    refine ⟨_, .append (.append (.leaf _ (ne_eof_of_at h (by simp))) hxs) hys, ?_, by simp⟩
    have hys : Item.lacksIn ys = false := by
      simpa [Item.lacksIn] using @lacksIn_append_of_not_node _ [] hend
    rcases hlist with rfl | ⟨zs, rfl⟩
    · simpa [Item.lacksIn] using hys
    · simpa [Item.lacksIn] using hys
  · exact ⟨_, .complain s _, rfl, by simp⟩

/-- A loop over a query has a target, so its head does not end right after `FOR`. -/
lemma ne_eof_of_atQueryLoop (h : atQueryLoop ts s = true) : nth ts s 0 ≠ .eof := by
  intro heof
  simp [atQueryLoop, skipLoopTargets, maxLoopTargets, heof, TokenKind.isName] at h

/--
The head of a loop is read without a query, or with one after `IN`, or the input ends after the targets
of the query and `IN` is asked for in vain.
-/
lemma reads_loopHead (hc : ts.Closed) (hg : Sound ts g) (h : nth ts s 0 ≠ .eof) :
    (∃ xs, Reads ts s xs (loopHead ts g s) ∧ (xs = [] ∨ xs = [.leaf .keyword]
      ∨ ∃ ys, xs = [.leaf .keyword, .node .expression ys]))
    ∨ (∃ xs zs, Reads ts s (.leaf .keyword :: xs ++ [.leaf .keyword, .node .statement zs])
        (loopHead ts g s) ∧ (xs = [] ∨ ∃ ys, xs = [.node .expression ys]))
    ∨ ∃ ys zs t, Reads ts s [.leaf .keyword, .node .expression ys] t
        ∧ Reads ts (t.overrunIf true) [.node .statement zs] (loopHead ts g s) := by
  unfold loopHead
  dsimp only
  split
  · exact .inl ⟨[], .nil s, .inl rfl⟩
  have hfor : Reads ts s [.leaf .keyword] (take ts .keyword s) := .leaf .keyword h
  split
  · next hquery =>
    rw [Bool.and_eq_true] at hquery
    obtain ⟨xs, hxs, hshape⟩ := reads_expression hg .expression
      (.before [.keyword .IN]) (take ts .keyword s) rfl
    by_cases hend : nth ts (expression ts g .expression (.before [.keyword .IN])
      (take ts .keyword s)) 0 = .eof
    · -- Without targets the input would have ended right after `FOR`.
      rcases hshape with ⟨-, hsame⟩ | ⟨ys, rfl⟩
      · rw [hsame] at hend
        exact absurd hend (ne_eof_of_atQueryLoop hquery.2)
      generalize expression ts g .expression (.before [.keyword .IN]) (take ts .keyword s) = t at *
      -- Reading `IN` at the end of input records nothing but the overrun.
      have htake : take ts .keyword t = t.overrunIf true := by
        have : atEnd ts t = true := by simp [atEnd, at?, current, hend]
        simp [take, this, State.overrunIf]
      obtain ⟨zs, hzs⟩ := reads_embeddedQuery hc hg (.keyword .LOOP) (t.overrunIf true)
      exact .inr (.inr ⟨ys, zs, t, .append hfor hxs, htake ▸ hzs⟩)
    · obtain ⟨zs, hzs⟩ := reads_embeddedQuery hc hg (.keyword .LOOP)
        (take ts .keyword (expression ts g .expression (.before [.keyword .IN])
          (take ts .keyword s)))
      refine .inr (.inl ⟨xs, zs, ?_, hshape.imp And.left id⟩)
      exact .append (.append hfor hxs) (.append (.leaf .keyword hend) hzs)
  · obtain ⟨xs, hxs, hshape⟩ := reads_expression hg .expression
      (.before [.keyword .LOOP]) (take ts .keyword s) rfl
    refine .inl ⟨_, .append hfor hxs, ?_⟩
    rcases hshape with ⟨rfl, -⟩ | ⟨ys, rfl⟩
    · exact .inr (.inl rfl)
    · exact .inr (.inr ⟨ys, rfl⟩)

lemma atLabel_congr (h : s.pos = t.pos) : atLabel ts s = atLabel ts t := by
  simp only [atLabel, atOperator, at?, current, currentText, nth_congr h, nthText_congr h]

/-- A loop lacks its `IN` only where the input ends after its targets. -/
lemma advances_loopStatement (hc : ts.Closed) (hg : Sound ts g) (h₀ : nth ts s 0 ≠ .eof)
    (h : nth ts s (if atLabel ts s then 3 else 0) ≠ .eof) :
    Advances ts s (loopStatement ts g s) := by
  refine advances_nested h₀ ?_
  have h : nth ts (label ts (s.deeper.opening .loopStatement)) 0 ≠ .eof := by
    rw [nth_label, atLabel_congr (t := s) (by simp), nth_opening, nth_deeper]
    exact h
  obtain ⟨roles, hroles⟩ := @takes_label ts (s.deeper.opening .loopStatement)
  obtain ⟨ws, hws, hin, hhead⟩ := reads_loopRest hg
    (loopHead ts g (label ts (s.deeper.opening .loopStatement)))
  have hroles := hroles.reads
  rw [node_eq]
  rcases reads_loopHead hc hg h with ⟨xs, hxs, hshape⟩ | ⟨xs, zs, hxs, hshape⟩
    | ⟨ys, zs, t, hys, hzs⟩
  · -- Without a query the head ends in at most an expression, which no node follows.
    refine ⟨_, .loop ?_ (.append (.append hroles hxs) hws)⟩
    rw [List.append_assoc, lacksIn_append_of_not_node not_node_of_mem_map_leaf]
    rcases hshape with rfl | rfl | ⟨ys, rfl⟩
    · exact hin
    · exact hin
    · cases ws with
      | nil => rfl
      | cons w ws =>
        cases w with
        | leaf role => exact hin
        | error cause => exact hin
        | node kind ys => exact absurd rfl (hhead kind ys ws)
  · -- The leaf of `IN` stands between the targets and the query.
    refine ⟨_, .loop ?_ (.append (.append hroles hxs) hws)⟩
    rw [List.append_assoc, lacksIn_append_of_not_node not_node_of_mem_map_leaf]
    have hrest : Item.lacksIn (.node .statement zs :: ws) = false := by
      cases ws <;> exact hin
    rcases hshape with rfl | ⟨ys, rfl⟩
    · exact hrest
    · exact hrest
  · have hcut := Reads.append hroles hys
    rw [show roles.map Item.leaf ++ [.leaf .keyword, .node .expression ys]
      = (roles.map Item.leaf ++ [.leaf .keyword]) ++ [.node .expression ys] by simp] at hcut
    exact ⟨_, .cutLoop hcut (.append hzs hws)⟩

end SqlLayout.Grammar
