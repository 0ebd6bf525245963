import SqlLayout.Grammar.Block
import SqlLayout.Proofs.Grammar.Balance

/-!
# Rules move forward in balance

Every rule of the grammar keeps the balance if the recursive rules do, in any state. Operands, clauses and
guarded statements read a token too, unless the input has ended.
-/

namespace SqlLayout.Grammar

variable {ts : TokenStream} {g : Rules} {s : State}

/-- Recursive rules that keep the balance; operands and groups read a token too. -/
structure Steady (ts : TokenStream) (g : Rules) : Prop where
  atom (stop : Stop) (s : State) : Gains ts s (g.atom stop s)
  group (s : State) : Gains ts s (g.group s)
  statement (inBody : Bool) (s : State) : Balanced ts s (g.statement inBody s)

lemma gains_rejectMalformed (s : State) : Gains ts s (rejectMalformed ts s) :=
  gains_rejectToken _ s

/-! ### Runs of atoms and lists -/

lemma balanced_atomsUntil (hg : Steady ts g) (stop : Stop) (s : State) :
    Balanced ts s (atomsUntil ts g stop s) :=
  balanced_repeatWhile (fun s => (hg.atom stop s).toBalanced) s

lemma balanced_expression (hg : Steady ts g) (kind : NodeKind) (stop : Stop) (s : State) :
    Balanced ts s (expression ts g kind stop s) :=
  .ite (fun _ => .refl s) fun _ => balanced_node (balanced_atomsUntil hg stop _)

lemma gains_nonemptyExpression (hg : Steady ts g) (kind : NodeKind) (stop : Stop) (s : State) :
    Gains ts s (nonemptyExpression ts g kind stop s) :=
  gains_node ((hg.atom stop _).andThen (balanced_atomsUntil hg stop _))

lemma balanced_commaList (hg : Steady ts g) (stop : Stop) (s : State) :
    Balanced ts s (commaList ts g stop s) := by
  have element (s : State) := balanced_expression hg .listElement (stop.also [.comma]) s
  refine .ite (fun _ => .refl s) fun _ => balanced_node ((element _).trans (balanced_repeatWhile ?_ _))
  exact fun s => (balanced_bump s).trans (element _)

/-! ### Clauses -/

lemma balanced_eatEither (first second : Keyword) (s : State) :
    Balanced ts s (eatEither ts first second s) :=
  .ite (fun _ => balanced_bump s) fun _ => balanced_eat _ s

lemma balanced_selectQuantifier (hg : Steady ts g) (s : State) :
    Balanced ts s (selectQuantifier ts g s) := by
  refine .ite (fun _ => (balanced_bump s).trans (.optional ?_)) fun _ => balanced_eat _ s
  exact (balanced_bump _).trans (hg.group _).toBalanced

lemma balanced_clauseKeywordsAfter (hg : Steady ts g) (first : Keyword) (s : State) :
    Balanced ts s (clauseKeywordsAfter ts g first s) := by
  have qualifiers (s : State) : Balanced ts s
      (eat ts (.keyword .JOIN) (repeatWhile ts
        (fun s => !at? ts s (.keyword .JOIN) && (current ts s).isKeyword) (bump ts) s)) :=
    (balanced_repeatWhile balanced_bump s).trans (balanced_eat _ _)
  unfold clauseKeywordsAfter
  split
  · exact balanced_selectQuantifier hg s
  · exact balanced_eat _ s
  · exact balanced_eat _ s
  · exact balanced_eatEither _ _ s
  · exact balanced_eatEither _ _ s
  · exact balanced_eatEither _ _ s
  · exact balanced_eat _ s
  · exact balanced_eat _ s
  · exact balanced_eat _ s
  · exact balanced_eat _ s
  · exact balanced_bump s
  · exact .ite (fun _ => balanced_take .keyword s) fun _ => .refl s
  · exact balanced_eatEither _ _ s
  · exact qualifiers s
  · exact qualifiers s
  · exact qualifiers s
  · exact qualifiers s
  · exact qualifiers s
  · exact qualifiers s
  · exact .refl s

/-- A clause reads its first keyword, or its first operand where it has no keyword. -/
lemma gains_clause (hg : Steady ts g) (stop : Stop) (s : State) : Gains ts s (clause ts g stop s) := by
  refine gains_node ?_
  split
  · next first _ _ =>
    refine ((gains_bump _).andThen (balanced_clauseKeywordsAfter hg first _)).andThen ?_
    exact .ite (fun _ => balanced_commaList hg stop _) fun _ => balanced_expression hg _ stop _
  · exact gains_nonemptyExpression hg _ stop _

lemma balanced_clausesUntil (hg : Steady ts g) (kinds : KindSet) (stop : Stop) (s : State) :
    Balanced ts s (clausesUntil ts g kinds stop s) :=
  balanced_repeatWhile (fun s => (gains_clause hg stop s).toBalanced) s

lemma balanced_clauseStatement (hg : Steady ts g) (s : State) :
    Balanced ts s (clauseStatement ts g s) :=
  balanced_node ((balanced_clausesUntil hg _ _ _).trans (balanced_eat _ _))

lemma balanced_embeddedQuery (hg : Steady ts g) (stop : TokenKind) (s : State) :
    Balanced ts s (embeddedQuery ts g stop s) :=
  balanced_node (balanced_clausesUntil hg _ _ _)

/-! ### Groups and calls -/

lemma gains_parenthesized (hg : Steady ts g) (s : State) : Gains ts s (parenthesized ts g s) := by
  refine gains_nested (gains_node (.andThen (.andThen (gains_take _ _) (.ite (fun _ => ?_) fun _ =>
    .ite (fun _ => .refl _) fun _ => ?_)) (.ite (fun _ => balanced_bump _) fun _ => balanced_complain _ _)))
  · exact balanced_clauseStatement hg _
  · exact balanced_commaList hg {} _

lemma gains_bracketed (hg : Steady ts g) (s : State) : Gains ts s (bracketed ts g s) := by
  unfold bracketed
  refine gains_nested (.andThen (.andThen (.andThen (gains_take .punctuation _)
    (balanced_atomsUntil hg _ _)) (balanced_repeatWhile ?_ _)) (balanced_require _ _ _ _))
  exact fun s => (balanced_take _ s).trans (balanced_atomsUntil hg _ _)

lemma gains_between (hg : Steady ts g) (stop : Stop) (s : State) : Gains ts s (between ts g stop s) := by
  refine gains_node (.andThen (.andThen (gains_bump _) (balanced_atomsUntil hg _ _)) (.optional ?_))
  exact (balanced_bump _).trans (balanced_atomsUntil hg _ _)

lemma balanced_takeFurtherNames (n : Nat) (s : State) : Balanced ts s (takeFurtherNames ts n s) := by
  induction n generalizing s with
  | zero => exact .refl s
  | succ n ih => exact ((balanced_take _ s).trans (balanced_take _ _)).trans (ih _)

lemma gains_functionCall (hg : Steady ts g) (names : Nat) (s : State) :
    Gains ts s (functionCall ts g names s) :=
  gains_node (.andThen (.andThen (gains_take _ _) (balanced_takeFurtherNames _ _))
    (gains_parenthesized hg _).toBalanced)

/-! ### `CASE` and lists of statements -/

/-- Where a statement has read nothing, its guard reads a token. -/
lemma gains_guardedStatement (hg : Steady ts g) (inBody : Bool) (s : State) :
    Gains ts s (guardedStatement ts g inBody s) := by
  have hstatement := hg.statement inBody s
  unfold guardedStatement
  dsimp only
  split
  · exact hstatement.andGain (gains_rejectToken _ _)
  · next hmoved =>
    refine ⟨hstatement, fun hend => Nat.lt_of_le_of_ne hstatement.index_le fun heq => ?_⟩
    -- A statement that stays where it is has not come to the end of input, so the guard has to act.
    refine hmoved ⟨heq.symm, ?_⟩
    rw [← atEnd_congr heq, hend]
    rfl

lemma balanced_unbalancedEnd (s : State) : Balanced ts s (unbalancedEnd ts s) :=
  balanced_node (.trans (.trans (balanced_complain _ _)
    (balanced_repeatWhile (balanced_take .literal) _)) (.optional (balanced_take .punctuation _)))

lemma balanced_statementList (hg : Steady ts g) (stop : KindSet) (outside : Option Nat) (s : State) :
    Balanced ts s (statementList ts g stop outside s) := by
  refine .ite (fun _ => .refl s) fun _ => balanced_node (balanced_repeatWhile (fun s => ?_) _)
  exact .ite (fun _ => balanced_unbalancedEnd s) fun _ => (gains_guardedStatement hg true s).toBalanced

lemma balanced_branchResult (hg : Steady ts g) (form : BranchForm) (stop : List TokenKind) (s : State) :
    Balanced ts s (branchResult ts g form stop s) := by
  cases form with
  | expression => exact balanced_expression hg _ _ s
  | statements outside => exact balanced_statementList hg _ outside s

lemma balanced_whenBranch (hg : Steady ts g) (form : BranchForm) (stop : List TokenKind) (s : State) :
    Balanced ts s (whenBranch ts g form stop s) := by
  refine balanced_node (.trans (.trans (balanced_take _ _) (balanced_expression hg _ _ _))
    (.ite (fun _ => ?_) fun _ => balanced_complain _ _))
  exact .trans (balanced_take _ _) (balanced_branchResult hg form stop _)

lemma balanced_caseBranches (hg : Steady ts g) (form : BranchForm) (s : State) :
    Balanced ts s (caseBranches ts g form s) := by
  refine .trans (.trans (.ite (fun _ => .refl s) fun _ => balanced_expression hg _ _ s)
    (balanced_repeatWhile (balanced_whenBranch hg form _) _)) (.optional (balanced_node ?_))
  exact .trans (balanced_take _ _) (balanced_branchResult hg form _ _)

lemma gains_caseExpression (hg : Steady ts g) (s : State) : Gains ts s (caseExpression ts g s) :=
  gains_nested (gains_node (.andThen (.andThen (gains_take .keyword _) (balanced_caseBranches hg _ _))
    (balanced_require _ _ _ _)))

lemma gains_caseStatement (hg : Steady ts g) (s : State) : Gains ts s (caseStatement ts g s) := by
  refine gains_nested (gains_node (.andThen (.andThen (gains_take _ _) (balanced_caseBranches hg _ _))
    (.ite (fun _ => ?_) fun _ => balanced_complain _ _)))
  exact .trans (.trans (balanced_take _ _) (.optional (balanced_take _ _))) (balanced_eat _ _)

lemma gains_atom (hg : Steady ts g) (stop : Stop) (s : State) : Gains ts s (atom ts g stop s) := by
  unfold atom
  split
  · exact gains_parenthesized hg s
  · exact gains_bracketed hg s
  · exact gains_caseExpression hg s
  · exact gains_between hg stop s
  · exact gains_rejectMalformed s
  · split
    · exact gains_functionCall hg _ s
    · exact gains_bump s

end SqlLayout.Grammar
