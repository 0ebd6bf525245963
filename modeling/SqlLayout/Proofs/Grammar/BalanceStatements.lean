import SqlLayout.Proofs.Grammar.BalanceRules

/-!
# Every call moves forward in balance

The rules of declarations, routines, blocks and loops keep the balance as those of expressions do, so the
recursive rules do at any depth of unfolding. `Call` lists the rules of the grammar with their arguments. The
main statement, `calls_move_on_in_balance`, is about any call in any state of any stream: nothing that has
been read is read again, groups are left as often as they are entered, what is recorded are whole items, and
operands, clauses and guarded statements read a token before the end of input.
-/

namespace SqlLayout.Grammar

variable {ts : TokenStream} {g : Rules} {s : State}

/-! ### Declarations -/

lemma gains_typeAtom (hg : Steady ts g) (s : State) : Gains ts s (typeAtom ts g s) := by
  unfold typeAtom
  split
  · exact gains_parenthesized hg s
  · exact gains_bracketed hg s
  · exact gains_take _ s
  · exact gains_take _ s
  · exact gains_take _ s
  · exact gains_take _ s
  · exact .ite (fun _ => gains_take _ s) fun _ => gains_bump s
  · exact gains_rejectMalformed s
  · exact gains_bump s

lemma balanced_typeAtoms (hg : Steady ts g) (stop : Stop) (ends : KindSet) (s : State) :
    Balanced ts s (typeAtoms ts g stop ends s) :=
  balanced_repeatWhile (fun s => (gains_typeAtom hg s).toBalanced) s

lemma balanced_defaultParts (hg : Steady ts g) (declared : Declared) (stop : Stop) (s : State) :
    Balanced ts s (defaultParts ts g declared stop s) :=
  .trans (balanced_node (balanced_take _ _)) (balanced_expression hg _ _ _)

lemma balanced_defaultOrConstraint (hg : Steady ts g) (declared : Declared) (stop : Stop) (s : State) :
    Balanced ts s (defaultOrConstraint ts g declared stop s) :=
  .ite (fun _ => balanced_defaultParts hg declared stop s)
    fun _ => (gains_nonemptyExpression hg _ _ s).toBalanced

lemma balanced_partsAfterName (hg : Steady ts g) (declared : Declared) (stop : Stop) (s : State) :
    Balanced ts s (partsAfterName ts g declared stop s) := by
  have further := balanced_defaultOrConstraint hg declared stop
  refine .trans (balanced_repeatWhile further s) (.ite (fun _ => .refl _) fun _ => ?_)
  exact .trans (balanced_node (balanced_typeAtoms hg _ _ _)) (balanced_repeatWhile further _)

lemma balanced_declaration (hg : Steady ts g) (declared : Declared) (stop : Stop) (s : State) :
    Balanced ts s (declaration ts g declared stop s) := by
  refine .ite (fun _ => .refl s) fun _ =>
    balanced_node (.trans (.ite (fun _ => ?_) fun _ => ?_) (.optional (balanced_eat _ _)))
  · exact balanced_node (balanced_atomsUntil hg stop _)
  · exact .trans (.trans (.optional (balanced_node (balanced_take _ _)))
      (.optional (balanced_node (balanced_take _ _)))) (balanced_partsAfterName hg declared stop _)

lemma balanced_declarationList (hg : Steady ts g) (declared : Declared) (s : State) :
    Balanced ts s (declarationList ts g declared s) := by
  have entry := balanced_declaration hg declared (.before [.comma])
  refine .ite (fun _ => balanced_complain _ s) fun _ => balanced_nested (balanced_node (.trans (.trans
    (balanced_take _ _) (.ite (fun _ => .refl _) fun _ => ?_)) (balanced_require _ _ _ _)))
  exact .trans (entry _) (balanced_repeatWhile (fun s => .trans (balanced_take _ s) (entry _)) _)

/-! ### Routines and tables -/

lemma balanced_qualifiedName (s : State) : Balanced ts s (qualifiedName ts s) :=
  .ite (fun _ => balanced_complain _ s) fun _ => .trans (balanced_take _ s)
    (balanced_repeatWhile (fun s => .trans (balanced_take _ s) (balanced_take _ _)) _)

lemma balanced_routineAttribute (hg : Steady ts g) (s : State) :
    Balanced ts s (routineAttribute ts g s) :=
  balanced_node (.trans (balanced_take _ _) (balanced_expression hg _ _ _))

lemma balanced_returnsClause (hg : Steady ts g) (s : State) : Balanced ts s (returnsClause ts g s) := by
  unfold returnsClause
  refine balanced_node (.trans (balanced_take _ _) (.ite (fun _ => ?_) fun _ =>
    .ite (fun _ => .refl _) fun _ => balanced_node (balanced_typeAtoms hg _ _ _)))
  exact .trans (balanced_take _ _) (balanced_declarationList hg _ _)

lemma balanced_routineBody (hg : Steady ts g) (s : State) : Balanced ts s (routineBody ts g s) := by
  unfold routineBody
  refine balanced_node (.trans (.optional (balanced_take _ _)) (.ite (fun _ => ?_) fun _ =>
    balanced_repeatWhile (fun s => ?_) _))
  · exact .trans (.trans (balanced_take _ _) (balanced_statementList hg _ _ _)) (balanced_require _ _ _ _)
  · exact .ite (fun _ => (gains_rejectMalformed s).toBalanced) fun _ => balanced_bump s

lemma balanced_takeKeywordsThrough (p : TokenKind → Bool) (s : State) :
    Balanced ts s (takeKeywordsThrough ts p s) :=
  .trans (balanced_repeatWhile (balanced_take _) s) (.ite (fun _ => .refl _) fun _ => balanced_take _ _)

lemma balanced_routineDefinition (hg : Steady ts g) (s : State) :
    Balanced ts s (routineDefinition ts g s) := by
  unfold routineDefinition
  refine balanced_node (.trans (.trans (.trans (.trans (balanced_takeKeywordsThrough _ _)
    (balanced_qualifiedName _)) (.ite (fun _ => ?_) fun _ => balanced_complain _ _))
    (balanced_repeatWhile (fun s => ?_) _)) (balanced_eat _ _))
  · exact balanced_declarationList hg _ _
  · split
    · exact balanced_routineBody hg s
    · exact balanced_returnsClause hg s
    · exact balanced_routineAttribute hg s

lemma balanced_tableDefinition (hg : Steady ts g) (s : State) :
    Balanced ts s (tableDefinition ts g s) := by
  refine balanced_node (.trans (.trans (.trans (.trans (.trans (balanced_takeKeywordsThrough _ _)
    (.optional ?_)) (balanced_qualifiedName _)) (balanced_declarationList hg _ _))
    (balanced_clausesUntil hg _ _ _)) (balanced_eat _ _))
  exact .trans (.trans (balanced_take _ _) (balanced_take _ _)) (balanced_take _ _)

lemma balanced_doBody (hg : Steady ts g) (s : State) : Balanced ts s
    (match current ts s with
      | .bodyOpen => routineBody ts g s
      | .string | .dollarString => node .functionBody (take ts .literal) s
      | _ => complain .expectedDoBody s) := by
  split
  · exact balanced_routineBody hg s
  · exact balanced_node (balanced_take _ _)
  · exact balanced_node (balanced_take _ _)
  · exact balanced_complain _ s

lemma balanced_doBlock (hg : Steady ts g) (s : State) : Balanced ts s (doBlock ts g s) := by
  have language (s : State) : Balanced ts s
      (if at? ts s (.keyword .LANGUAGE) then routineAttribute ts g s else s) :=
    .optional (balanced_routineAttribute hg s)
  unfold doBlock
  exact balanced_node (.trans (.trans (.trans (.trans (balanced_take _ _) (language _))
    (balanced_doBody hg _)) (language _)) (balanced_eat _ _))

/-! ### Blocks and conditionals -/

lemma balanced_label (s : State) : Balanced ts s (label ts s) :=
  .optional (.trans (.trans (balanced_take _ s) (balanced_take _ _)) (balanced_take _ _))

lemma balanced_endOfConstruct (s : State) : Balanced ts s (endOfConstruct ts s) := by
  refine .trans ?_ (balanced_eat _ _)
  split
  · exact balanced_take _ s
  · exact balanced_take _ s
  · exact .refl s

lemma balanced_endWith (word : Keyword) (cause : Complaint) (s : State) :
    Balanced ts s (endWith ts word cause s) :=
  .ite (fun _ => .trans (.trans (balanced_take _ s) (balanced_require _ _ _ _)) (balanced_endOfConstruct _))
    fun _ => balanced_complain _ s

lemma balanced_declareSection (hg : Steady ts g) (s : State) :
    Balanced ts s (declareSection ts g s) := by
  unfold declareSection
  refine balanced_node (.trans (balanced_take _ _) (balanced_repeatWhile (fun s => ?_) _))
  refine .trans (balanced_declaration hg .variable {} s) (.ite (fun _ => .refl _) fun _ => ?_)
  exact .ite (fun _ => balanced_take _ _) fun _ => (gains_rejectToken _ _).toBalanced

lemma balanced_exceptionSection (hg : Steady ts g) (s : State) :
    Balanced ts s (exceptionSection ts g s) := by
  unfold exceptionSection
  exact balanced_node (.trans (balanced_take _ _) (balanced_repeatWhile (balanced_whenBranch hg _ _) _))

lemma balanced_blockBody (hg : Steady ts g) (s : State) : Balanced ts s (blockBody ts g s) := by
  refine .trans (.trans (balanced_statementList hg _ _ s) (.optional (balanced_exceptionSection hg _)))
    (.ite (fun _ => ?_) fun _ => balanced_complain _ _)
  exact .trans (balanced_take _ _) (balanced_endOfConstruct _)

lemma balanced_block (hg : Steady ts g) (s : State) : Balanced ts s (block ts g s) := by
  refine balanced_nested (balanced_node (.trans (.trans (balanced_label _)
    (.optional (balanced_declareSection hg _))) (.ite (fun _ => ?_) fun _ => balanced_complain _ _)))
  exact .trans (balanced_take _ _) (balanced_blockBody hg _)

lemma balanced_conditionalBranch (hg : Steady ts g) (s : State) :
    Balanced ts s (conditionalBranch ts g s) := by
  refine balanced_node (.trans (.ite (fun _ => balanced_take .keyword _) fun _ => ?_)
    (balanced_statementList hg _ _ _))
  exact .trans (.trans (balanced_take .keyword _) (balanced_expression hg _ _ _)) (balanced_require _ _ _ _)

lemma balanced_ifStatement (hg : Steady ts g) (s : State) : Balanced ts s (ifStatement ts g s) :=
  have branch := balanced_conditionalBranch hg
  balanced_nested (balanced_node (.trans (.trans (branch _) (balanced_repeatWhile branch _))
    (balanced_endWith _ _ _)))

/-! ### Loops and statements -/

lemma balanced_loopHead (hg : Steady ts g) (s : State) : Balanced ts s (loopHead ts g s) := by
  refine .ite (fun _ => .refl s) fun _ => .ite (fun _ => ?_) fun _ => ?_
  · exact .trans (.trans (.trans (balanced_take .keyword s) (balanced_expression hg _ _ _))
      (balanced_take .keyword _)) (balanced_embeddedQuery hg _ _)
  · exact .trans (balanced_take .keyword s) (balanced_expression hg _ _ _)

lemma balanced_loopStatement (hg : Steady ts g) (s : State) : Balanced ts s (loopStatement ts g s) := by
  refine balanced_nested (balanced_node (.trans (.trans (balanced_label _) (balanced_loopHead hg _))
    (.ite (fun _ => ?_) fun _ => balanced_complain _ _)))
  exact .trans (.trans (balanced_take _ _) (balanced_statementList hg _ _ _)) (balanced_endWith _ _ _)

lemma balanced_bodyStatement (hg : Steady ts g) (s : State) : Balanced ts s (bodyStatement ts g s) := by
  have clauses := balanced_clauseStatement hg s
  unfold bodyStatement
  dsimp only
  split
  · exact balanced_block hg s
  · exact balanced_block hg s
  · exact balanced_loopStatement hg s
  · exact balanced_loopStatement hg s
  · exact balanced_loopStatement hg s
  · exact balanced_loopStatement hg s
  · exact .ite (fun _ => clauses) fun _ => balanced_ifStatement hg s
  · exact .ite (fun _ => clauses) fun _ => (gains_caseStatement hg s).toBalanced
  · exact clauses

lemma balanced_statement (hg : Steady ts g) (inBody : Bool) (s : State) :
    Balanced ts s (statement ts g inBody s) := by
  have other : Balanced ts s (otherStatement ts g inBody s) :=
    .ite (fun _ => balanced_bodyStatement hg s) fun _ => balanced_clauseStatement hg s
  unfold statement
  split
  · exact .ite (fun _ => balanced_routineDefinition hg s) fun _ =>
      .ite (fun _ => balanced_tableDefinition hg s) fun _ => other
  · exact .ite (fun _ => balanced_doBlock hg s) fun _ => other
  · exact .ite (fun _ => other) fun _ => (gains_rejectToken _ s).toBalanced
  · exact (gains_rejectToken _ s).toBalanced
  · exact (gains_rejectToken _ s).toBalanced
  · exact (gains_rejectMalformed s).toBalanced
  · exact other

/-! ### The grammar as a whole -/

/-- The recursive rules keep the balance at any depth of unfolding. -/
lemma steady_rules (ts : TokenStream) (depth : Nat) : Steady ts (rules ts depth) := by
  induction depth with
  | zero => exact ⟨fun _ => gains_bump, gains_bump, fun _ => .refl⟩
  | succ depth ih => exact ⟨gains_atom ih, gains_parenthesized ih, balanced_statement ih⟩

lemma balanced_root (s : State) : Balanced ts s (root ts s) := by
  have entry (s : State) := gains_guardedStatement (steady_rules ts (ts.size + 2)) false s
  exact balanced_node (balanced_repeatWhile (fun s => (entry s).toBalanced) _)

/-- A rule of the grammar with its arguments. Pieces that a rule is cut into have no calls of their own. -/
inductive Call where
  | root
  | guardedStatement (inBody : Bool)
  | statement (inBody : Bool)
  | statementList (stop : KindSet) (outside : Option Nat)
  | clauseStatement
  | embeddedQuery (stop : TokenKind)
  | clause (stop : Stop)
  | clauseKeywords (first : Keyword)
  | expression (kind : NodeKind) (stop : Stop)
  | commaList (stop : Stop)
  | atom (stop : Stop)
  | functionCall (names : Nat)
  | parenthesized
  | bracketed
  | between (stop : Stop)
  | caseExpression
  | caseStatement
  | whenBranch (form : BranchForm) (stop : List TokenKind)
  | branchResult (form : BranchForm) (stop : List TokenKind)
  | rejectMalformed
  | routineDefinition
  | tableDefinition
  | doBlock
  | qualifiedName
  | routineBody
  | returnsClause
  | routineAttribute
  | declarationList (declared : Declared)
  | declaration (declared : Declared) (stop : Stop)
  | partsAfterName (declared : Declared) (stop : Stop)
  | typeAtoms (stop : Stop) (ends : KindSet)
  | bodyStatement
  | unbalancedEnd
  | label
  | endOfConstruct
  | endWith (word : Keyword) (cause : Complaint)
  | block
  | declareSection
  | exceptionSection
  | ifStatement
  | loopStatement

namespace Call

/-- The state after a call, with the given recursive rules. -/
def run (ts : TokenStream) (g : Rules) : Call → State → State
  | root => Grammar.root ts
  | guardedStatement inBody => Grammar.guardedStatement ts g inBody
  | statement inBody => Grammar.statement ts g inBody
  | statementList stop outside => Grammar.statementList ts g stop outside
  | clauseStatement => Grammar.clauseStatement ts g
  | embeddedQuery stop => Grammar.embeddedQuery ts g stop
  | clause stop => Grammar.clause ts g stop
  | clauseKeywords first => fun s => clauseKeywordsAfter ts g first (bump ts s)
  | expression kind stop => Grammar.expression ts g kind stop
  | commaList stop => Grammar.commaList ts g stop
  | atom stop => Grammar.atom ts g stop
  | functionCall names => Grammar.functionCall ts g names
  | parenthesized => Grammar.parenthesized ts g
  | bracketed => Grammar.bracketed ts g
  | between stop => Grammar.between ts g stop
  | caseExpression => Grammar.caseExpression ts g
  | caseStatement => Grammar.caseStatement ts g
  | whenBranch form stop => Grammar.whenBranch ts g form stop
  | branchResult form stop => Grammar.branchResult ts g form stop
  | rejectMalformed => Grammar.rejectMalformed ts
  | routineDefinition => Grammar.routineDefinition ts g
  | tableDefinition => Grammar.tableDefinition ts g
  | doBlock => Grammar.doBlock ts g
  | qualifiedName => Grammar.qualifiedName ts
  | routineBody => Grammar.routineBody ts g
  | returnsClause => Grammar.returnsClause ts g
  | routineAttribute => Grammar.routineAttribute ts g
  | declarationList declared => Grammar.declarationList ts g declared
  | declaration declared stop => Grammar.declaration ts g declared stop
  | partsAfterName declared stop => Grammar.partsAfterName ts g declared stop
  | typeAtoms stop ends => Grammar.typeAtoms ts g stop ends
  | bodyStatement => Grammar.bodyStatement ts g
  | unbalancedEnd => Grammar.unbalancedEnd ts
  | label => Grammar.label ts
  | endOfConstruct => Grammar.endOfConstruct ts
  | endWith word cause => Grammar.endWith ts word cause
  | block => Grammar.block ts g
  | declareSection => Grammar.declareSection ts g
  | exceptionSection => Grammar.exceptionSection ts g
  | ifStatement => Grammar.ifStatement ts g
  | loopStatement => Grammar.loopStatement ts g

/-- Operands, clauses and guarded statements, which read a token wherever the input has not ended. -/
def alwaysReads : Call → Bool
  | atom _ | clause _ | guardedStatement _ => true
  | _ => false

lemma balanced_run (hg : Steady ts g) (call : Call) (s : State) : Balanced ts s (call.run ts g s) := by
  cases call with
  | root => exact balanced_root s
  | guardedStatement inBody => exact (gains_guardedStatement hg inBody s).toBalanced
  | statement inBody => exact balanced_statement hg inBody s
  | statementList stop outside => exact balanced_statementList hg stop outside s
  | clauseStatement => exact balanced_clauseStatement hg s
  | embeddedQuery stop => exact balanced_embeddedQuery hg stop s
  | clause stop => exact (gains_clause hg stop s).toBalanced
  | clauseKeywords first => exact .trans (balanced_bump s) (balanced_clauseKeywordsAfter hg first _)
  | expression kind stop => exact balanced_expression hg kind stop s
  | commaList stop => exact balanced_commaList hg stop s
  | atom stop => exact (gains_atom hg stop s).toBalanced
  | functionCall names => exact (gains_functionCall hg names s).toBalanced
  | parenthesized => exact (gains_parenthesized hg s).toBalanced
  | bracketed => exact (gains_bracketed hg s).toBalanced
  | between stop => exact (gains_between hg stop s).toBalanced
  | caseExpression => exact (gains_caseExpression hg s).toBalanced
  | caseStatement => exact (gains_caseStatement hg s).toBalanced
  | whenBranch form stop => exact balanced_whenBranch hg form stop s
  | branchResult form stop => exact balanced_branchResult hg form stop s
  | rejectMalformed => exact (gains_rejectMalformed s).toBalanced
  | routineDefinition => exact balanced_routineDefinition hg s
  | tableDefinition => exact balanced_tableDefinition hg s
  | doBlock => exact balanced_doBlock hg s
  | qualifiedName => exact balanced_qualifiedName s
  | routineBody => exact balanced_routineBody hg s
  | returnsClause => exact balanced_returnsClause hg s
  | routineAttribute => exact balanced_routineAttribute hg s
  | declarationList declared => exact balanced_declarationList hg declared s
  | declaration declared stop => exact balanced_declaration hg declared stop s
  | partsAfterName declared stop => exact balanced_partsAfterName hg declared stop s
  | typeAtoms stop ends => exact balanced_typeAtoms hg stop ends s
  | bodyStatement => exact balanced_bodyStatement hg s
  | unbalancedEnd => exact balanced_unbalancedEnd s
  | label => exact balanced_label s
  | endOfConstruct => exact balanced_endOfConstruct s
  | endWith word cause => exact balanced_endWith word cause s
  | block => exact balanced_block hg s
  | declareSection => exact balanced_declareSection hg s
  | exceptionSection => exact balanced_exceptionSection hg s
  | ifStatement => exact balanced_ifStatement hg s
  | loopStatement => exact balanced_loopStatement hg s

lemma gains_run (hg : Steady ts g) {call : Call} (h : call.alwaysReads = true) (s : State) :
    Gains ts s (call.run ts g s) := by
  cases call with
  | atom stop => exact gains_atom hg stop s
  | clause stop => exact gains_clause hg stop s
  | guardedStatement inBody => exact gains_guardedStatement hg inBody s
  | _ => exact absurd h nofun

end Call

/--
Whatever rule of the grammar is called, in whatever state and however deep the recursive rules are unfolded:
the current token does not go back, and is a later one after an operand, a clause or a guarded statement if
the input had not ended. As many groups are open as before. The events that have been added walk around
items, and drafting these behind the events before gives all events, with no place left that was kept for a
node.
-/
theorem calls_move_on_in_balance (ts : TokenStream) (depth : Nat) (call : Call) (s : State) :
    let t := call.run ts (rules ts depth) s
    nthIndex ts s 0 ≤ nthIndex ts t 0
      ∧ (call.alwaysReads = true → atEnd ts s = false → nthIndex ts s 0 < nthIndex ts t 0)
      ∧ t.depth = s.depth
      ∧ ∃ items, t.events.reverse = s.events.reverse ++ Item.eventsOf items
        ∧ Item.draftOf? items (s.events.reverse.map some) = some (t.events.reverse.map some) := by
  intro t
  have hg := steady_rules ts depth
  have hbalanced : Balanced ts s t := call.balanced_run hg s
  obtain ⟨items, hitems⟩ := hbalanced.recorded
  have hevents : t.events.reverse = s.events.reverse ++ Item.eventsOf items := by
    rw [hitems, List.reverse_append, List.reverse_reverse]
  refine ⟨hbalanced.index_le, fun hreads => (Call.gains_run hg hreads s).index_lt, hbalanced.depth_eq,
    items, hevents, ?_⟩
  rw [Item.draftOf?_eq, hevents, List.map_append]

/-- A group that is nested too deeply is read, and is not counted. -/
theorem calls_move_on_in_balance_of_deep_group :
    let ts := TokenStream.ofText "(a".toList
    let t := Call.run ts (rules ts 4) (.atom {}) { depth := maxNesting }
    atEnd ts { depth := maxNesting } = false ∧ nthIndex ts { depth := maxNesting } 0 < nthIndex ts t 0
      ∧ t.depth = maxNesting := by
  have hend : atEnd (TokenStream.ofText "(a".toList) { depth := maxNesting } = false := by decide +kernel
  obtain ⟨-, hreads, hdepth, -⟩ :=
    calls_move_on_in_balance (TokenStream.ofText "(a".toList) 4 (.atom {}) { depth := maxNesting }
  exact ⟨hend, hreads rfl hend, hdepth⟩

end SqlLayout.Grammar
