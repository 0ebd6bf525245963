import SqlLayout.Proofs.Grammar.Abreast
import SqlLayout.Proofs.Grammar.Reads

/-!
# Rules keep runs abreast

Every rule of the grammar keeps two runs on alike streams abreast, if the recursive rules do so while at
most `n` words are left. Rules that begin with a word bring `n + 1` words down to `n`, so that the
recursive rules need to be unfolded only as often as there are words. Whole runs end abreast, whatever
the number of trivia that the two streams have.
-/

namespace SqlLayout.Grammar

variable {ts ts₁ ts₂ : TokenStream} {g g₁ g₂ : Rules} {n m : Nat} {s s₁ s₂ : State}

/--
Recursive rules that keep runs abreast while at most `n` words are left. A statement needs one unfolding
more, as it can begin with an operand.
-/
structure Agree (ts₁ ts₂ : TokenStream) (n : Nat) (g₁ g₂ : Rules) : Prop where
  atom {m : Nat} (stop : Stop) {s₁ s₂ : State} : m ≤ n → Abreast ts₁ ts₂ m s₁ s₂ →
    Abreast ts₁ ts₂ m (g₁.atom stop s₁) (g₂.atom stop s₂)
  group {m : Nat} {s₁ s₂ : State} : m ≤ n → Abreast ts₁ ts₂ m s₁ s₂ → nth ts₁ s₁ 0 ≠ .eof →
    Abreast ts₁ ts₂ m (g₁.group s₁) (g₂.group s₂)
  statement {m : Nat} (inBody : Bool) {s₁ s₂ : State} : m < n → Abreast ts₁ ts₂ m s₁ s₂ →
    nth ts₁ s₁ 0 ≠ .eof → Abreast ts₁ ts₂ m (g₁.statement inBody s₁) (g₂.statement inBody s₂)

lemma Agree.mono (hg : Agree ts₁ ts₂ n g₁ g₂) (hm : m ≤ n) : Agree ts₁ ts₂ m g₁ g₂ where
  atom stop _ _ hl := hg.atom stop (Nat.le_trans hl hm)
  group hl := hg.group (Nat.le_trans hl hm)
  statement inBody _ _ hl := hg.statement inBody (Nat.lt_of_lt_of_le hl hm)

lemma Agree.pred (hg : Agree ts₁ ts₂ (n + 1) g₁ g₂) : Agree ts₁ ts₂ n g₁ g₂ :=
  hg.mono n.le_succ

/-! ### Runs of atoms and lists -/

lemma abreast_atomsUntil (hg : Agree ts₁ ts₂ n g₁ g₂) (stop : Stop) (h : Abreast ts₁ ts₂ n s₁ s₂) :
    Abreast ts₁ ts₂ n (atomsUntil ts₁ g₁ stop s₁) (atomsUntil ts₂ g₂ stop s₂) := by
  refine h.repeatWhile (fun s₁ s₂ h => ?_) fun m hm s₁ s₂ h _ => hg.atom stop hm h
  rw [h.hit_eq]

lemma abreast_expression (hg : Agree ts₁ ts₂ n g₁ g₂) (kind : NodeKind) (stop : Stop)
    (h : Abreast ts₁ ts₂ n s₁ s₂) :
    Abreast ts₁ ts₂ n (expression ts₁ g₁ kind stop s₁) (expression ts₂ g₂ kind stop s₂) :=
  .cond (h.hit_eq stop) (fun _ => h) fun _ => h.node fun _ _ h => abreast_atomsUntil hg stop h

lemma abreast_nonemptyExpression (hg : Agree ts₁ ts₂ n g₁ g₂) (kind : NodeKind) (stop : Stop)
    (h : Abreast ts₁ ts₂ n s₁ s₂) :
    Abreast ts₁ ts₂ n (nonemptyExpression ts₁ g₁ kind stop s₁)
      (nonemptyExpression ts₂ g₂ kind stop s₂) :=
  h.node fun _ _ h => abreast_atomsUntil hg stop (hg.atom stop (Nat.le_refl n) h)

lemma abreast_commaList (hg : Agree ts₁ ts₂ n g₁ g₂) (stop : Stop) (h : Abreast ts₁ ts₂ n s₁ s₂) :
    Abreast ts₁ ts₂ n (commaList ts₁ g₁ stop s₁) (commaList ts₂ g₂ stop s₂) := by
  refine .cond (by rw [h.hit_eq, h.at?_eq]) (fun _ => h) fun _ => h.node fun s₁ s₂ h => ?_
  refine (abreast_expression hg _ _ h).repeatWhile (fun s₁ s₂ h => h.at?_eq _) fun m hm s₁ s₂ h _ => ?_
  exact abreast_expression (hg.mono hm) _ _ h.bump

/-! ### Clauses -/

lemma abreast_eatEither (first second : Keyword) (h : Abreast ts₁ ts₂ n s₁ s₂) :
    Abreast ts₁ ts₂ n (eatEither ts₁ first second s₁) (eatEither ts₂ first second s₂) :=
  .cond (h.at?_eq _) (fun _ => h.bump) fun _ => h.eat _

lemma abreast_selectQuantifier (hg : Agree ts₁ ts₂ n g₁ g₂) (h : Abreast ts₁ ts₂ n s₁ s₂) :
    Abreast ts₁ ts₂ n (selectQuantifier ts₁ g₁ s₁) (selectQuantifier ts₂ g₂ s₂) := by
  refine .cond (h.at?_eq _) (fun _ => ?_) fun _ => h.eat _
  have h := h.bump
  refine .cond (by rw [h.at?_eq, h.nth_eq]) (fun hon => ?_) fun _ => h
  rw [Bool.and_eq_true, at?, beq_iff_eq, beq_iff_eq] at hon
  refine hg.group (Nat.le_refl n) h.bump ?_
  have hkeyword : current ts₁ (bump ts₁ s₁) ≠ .eof := by simp [hon.1]
  rw [bump, nth_take hkeyword, hon.2]
  simp

lemma abreast_clauseKeywordsAfter (hg : Agree ts₁ ts₂ n g₁ g₂) (first : Keyword)
    (h : Abreast ts₁ ts₂ n s₁ s₂) :
    Abreast ts₁ ts₂ n (clauseKeywordsAfter ts₁ g₁ first s₁) (clauseKeywordsAfter ts₂ g₂ first s₂) := by
  have qualifiers : Abreast ts₁ ts₂ n
      (eat ts₁ (.keyword .JOIN) (repeatWhile ts₁
        (fun s => !at? ts₁ s (.keyword .JOIN) && (current ts₁ s).isKeyword) (bump ts₁) s₁))
      (eat ts₂ (.keyword .JOIN) (repeatWhile ts₂
        (fun s => !at? ts₂ s (.keyword .JOIN) && (current ts₂ s).isKeyword) (bump ts₂) s₂)) := by
    refine .eat (h.repeatWhile (fun s₁ s₂ h => ?_) fun m hm s₁ s₂ h _ => h.bump) _
    rw [h.at?_eq, h.current_eq]
  have level : Abreast ts₁ ts₂ n (if atRaiseLevel ts₁ s₁ then take ts₁ .keyword s₁ else s₁)
      (if atRaiseLevel ts₂ s₂ then take ts₂ .keyword s₂ else s₂) := by
    refine .cond ?_ (fun _ => h.take _) fun _ => h
    have hwords : nthIsWord ts₁ s₁ 0 = nthIsWord ts₂ s₂ 0 := funext (h.nthIsWord_eq 0)
    rw [atRaiseLevel, atRaiseLevel, h.at?_eq, h.at?_eq, hwords]
  unfold clauseKeywordsAfter
  split
  · exact abreast_selectQuantifier hg h
  · exact h.eat _
  · exact h.eat _
  · exact abreast_eatEither _ _ h
  · exact abreast_eatEither _ _ h
  · exact abreast_eatEither _ _ h
  · exact h.eat _
  · exact h.eat _
  · exact h.eat _
  · exact h.eat _
  · exact h.bump
  · exact level
  · exact abreast_eatEither _ _ h
  · exact qualifiers
  · exact qualifiers
  · exact qualifiers
  · exact qualifiers
  · exact qualifiers
  · exact qualifiers
  · exact h

lemma abreast_clause (hg : Agree ts₁ ts₂ n g₁ g₂) (stop : Stop) (h : Abreast ts₁ ts₂ n s₁ s₂) :
    Abreast ts₁ ts₂ n (clause ts₁ g₁ stop s₁) (clause ts₂ g₂ stop s₂) := by
  refine h.node fun s₁ s₂ h => ?_
  rw [h.atClauseStart_eq, h.current_eq]
  split
  · next first _ _ =>
    have hkeywords := abreast_clauseKeywordsAfter hg first h.bump
    dsimp only
    split
    · exact abreast_commaList hg stop hkeywords
    · exact abreast_expression hg _ stop hkeywords
  · exact abreast_nonemptyExpression hg _ stop h

lemma abreast_clausesUntil (hg : Agree ts₁ ts₂ n g₁ g₂) (kinds : KindSet) (stop : Stop)
    (h : Abreast ts₁ ts₂ n s₁ s₂) :
    Abreast ts₁ ts₂ n (clausesUntil ts₁ g₁ kinds stop s₁) (clausesUntil ts₂ g₂ kinds stop s₂) := by
  refine h.repeatWhile (fun s₁ s₂ h => ?_) fun m hm s₁ s₂ h _ => abreast_clause (hg.mono hm) stop h
  rw [h.atAny_eq]

lemma abreast_clauseStatement (hg : Agree ts₁ ts₂ n g₁ g₂) (h : Abreast ts₁ ts₂ n s₁ s₂) :
    Abreast ts₁ ts₂ n (clauseStatement ts₁ g₁ s₁) (clauseStatement ts₂ g₂ s₂) :=
  h.node fun _ _ h => (abreast_clausesUntil hg _ _ h).eat _

lemma abreast_embeddedQuery (hg : Agree ts₁ ts₂ n g₁ g₂) (stop : TokenKind)
    (h : Abreast ts₁ ts₂ n s₁ s₂) :
    Abreast ts₁ ts₂ n (embeddedQuery ts₁ g₁ stop s₁) (embeddedQuery ts₂ g₂ stop s₂) :=
  h.node fun _ _ h => abreast_clausesUntil hg _ _ h

/-! ### Groups -/

lemma abreast_parenthesized (hg : Agree ts₁ ts₂ n g₁ g₂) (h : Abreast ts₁ ts₂ (n + 1) s₁ s₂) :
    Abreast ts₁ ts₂ n (parenthesized ts₁ g₁ s₁) (parenthesized ts₂ g₂ s₂) := by
  have content {s₁ s₂ : State} (h : Abreast ts₁ ts₂ n s₁ s₂) : Abreast ts₁ ts₂ n
      (if atAny ts₁ s₁ subqueryStart then clauseStatement ts₁ g₁ s₁
        else if at? ts₁ s₁ .rParen then s₁ else commaList ts₁ g₁ {} s₁)
      (if atAny ts₂ s₂ subqueryStart then clauseStatement ts₂ g₂ s₂
        else if at? ts₂ s₂ .rParen then s₂ else commaList ts₂ g₂ {} s₂) :=
    .cond (h.atAny_eq _) (fun _ => abreast_clauseStatement hg h) fun _ =>
      .cond (h.at?_eq _) (fun _ => h) fun _ => abreast_commaList hg {} h
  refine h.nested (fun s₁ s₂ h => h.node fun s₁ s₂ h => ?_) (Nat.le_refl n)
  have hcontent := content (h.takeWord .punctuation)
  exact .cond (hcontent.at?_eq _) (fun _ => hcontent.bump) fun _ => hcontent.complain _

lemma abreast_bracketed (hg : Agree ts₁ ts₂ n g₁ g₂) (h : Abreast ts₁ ts₂ (n + 1) s₁ s₂) :
    Abreast ts₁ ts₂ n (bracketed ts₁ g₁ s₁) (bracketed ts₂ g₂ s₂) := by
  unfold bracketed
  refine h.nested (fun s₁ s₂ h => ?_) (Nat.le_refl n)
  refine .require (.repeatWhile (abreast_atomsUntil hg _ (h.takeWord _))
    (fun s₁ s₂ h => h.at?_eq _) fun m hm s₁ s₂ h _ => ?_) _ _ _
  exact abreast_atomsUntil (hg.mono hm) _ (h.take _)

lemma abreast_between (hg : Agree ts₁ ts₂ n g₁ g₂) (stop : Stop)
    (h : Abreast ts₁ ts₂ (n + 1) s₁ s₂) :
    Abreast ts₁ ts₂ n (between ts₁ g₁ stop s₁) (between ts₂ g₂ stop s₂) := by
  refine h.node fun s₁ s₂ h => ?_
  have hlow := abreast_atomsUntil hg (stop.also [.keyword .AND]) h.bumpWord
  exact .cond (hlow.at?_eq _) (fun _ => abreast_atomsUntil hg _ hlow.bump) fun _ => hlow

/-! ### Calls -/

/-- Past the last word, the input has ended. -/
lemma nth_eq_eof (hc : ts.Closed) {k : Nat} (hk : k ≤ ts.wordCount) (hpos : s.pos = ts.afterWords k)
    (hm : ts.wordCount ≤ k + m) : nth ts s m = .eof := by
  rw [nth, nthIndex_eq_wordIndex hc hk hpos, Nat.min_eq_right hm]
  exact (hc.kind_eq_eof_iff _).2 (hc.lastIndex_le_wordIndex (Nat.le_refl _))

lemma wordCount_lt_size (ts : TokenStream) : ts.wordCount < ts.size := by
  have hle : ts.wordCount ≤ ts.lastIndex := by
    refine Nat.le_trans (List.length_filter_le ..) ?_
    simp
  exact Nat.lt_of_le_of_lt hle ts.lastIndex_lt_size

/-- Names end where the words do, so that it does not matter how many more could be counted. -/
lemma furtherNames_eq (h : Abreast ts₁ ts₂ n s₁ s₂) (m : Nat) :
    furtherNames ts₁ s₁ ts₁.size m = furtherNames ts₂ s₂ ts₂.size m := by
  obtain ⟨k, hk, -, hpos₁, hpos₂⟩ := h.read
  have hstop₁ {limit m : Nat} (hm : ts₁.wordCount ≤ k + m) : furtherNames ts₁ s₁ limit m = 0 := by
    cases limit with
    | zero => rfl
    | succ limit =>
      rw [furtherNames, nth_eq_eof h.alike.closed₁ hk hpos₁ (Nat.le_succ_of_le hm)]
      rfl
  have hstop₂ {limit m : Nat} (hm : ts₁.wordCount ≤ k + m) : furtherNames ts₂ s₂ limit m = 0 := by
    rw [h.alike.count] at hk hm
    cases limit with
    | zero => rfl
    | succ limit =>
      rw [furtherNames, nth_eq_eof h.alike.closed₂ hk hpos₂ (Nat.le_succ_of_le hm)]
      rfl
  have hlimits (limit₁ limit₂ m : Nat) (h₁ : ts₁.wordCount ≤ k + m + limit₁)
      (h₂ : ts₁.wordCount ≤ k + m + limit₂) :
      furtherNames ts₁ s₁ limit₁ m = furtherNames ts₂ s₂ limit₂ m := by
    induction limit₁ generalizing limit₂ m with
    | zero => rw [hstop₁ h₁, hstop₂ h₁]
    | succ limit₁ ih =>
      cases limit₂ with
      | zero => rw [hstop₁ h₂, hstop₂ h₂]
      | succ limit₂ =>
        rw [furtherNames, furtherNames, h.nth_eq, h.nth_eq, ih limit₂ (m + 2) (by omega) (by omega)]
  have hsize₁ := wordCount_lt_size ts₁
  have hsize₂ := wordCount_lt_size ts₂
  rw [← h.alike.count] at hsize₂
  exact hlimits _ _ _ (by omega) (by omega)

lemma callNames?_eq (h : Abreast ts₁ ts₂ n s₁ s₂) : callNames? ts₁ s₁ = callNames? ts₂ s₂ := by
  unfold callNames?
  dsimp only
  rw [h.current_eq, furtherNames_eq h, h.nth_eq, h.nth_eq, h.nthText_eq]
  split
  · rfl
  · split
    · rfl
    · next hparen =>
      rw [h.nthIsSpaced_eq (by rw [h.nth_eq]; simpa using hparen)]

lemma abreast_takeFurtherNames (names : Nat) (h : Abreast ts₁ ts₂ n s₁ s₂) :
    Abreast ts₁ ts₂ n (takeFurtherNames ts₁ names s₁) (takeFurtherNames ts₂ names s₂) := by
  induction names generalizing s₁ s₂ with
  | zero => exact h
  | succ names ih => exact ih ((h.take _).take _)

lemma abreast_functionCall (hg : Agree ts₁ ts₂ n g₁ g₂) (names : Nat)
    (h : Abreast ts₁ ts₂ (n + 1) s₁ s₂) :
    Abreast ts₁ ts₂ n (functionCall ts₁ g₁ names s₁) (functionCall ts₂ g₂ names s₂) := by
  refine h.node fun s₁ s₂ h => abreast_parenthesized hg (abreast_takeFurtherNames _ ?_).succ
  rw [calleeRole, calleeRole, h.currentText_eq, h.current_eq]
  exact h.takeWord _

/-! ### `CASE` and lists of statements -/

lemma abreast_guardedStatement (hg : Agree ts₁ ts₂ (n + 1) g₁ g₂) (inBody : Bool)
    (h : Abreast ts₁ ts₂ n s₁ s₂) (hne : nth ts₁ s₁ 0 ≠ .eof) :
    Abreast ts₁ ts₂ n (guardedStatement ts₁ g₁ inBody s₁) (guardedStatement ts₂ g₂ inBody s₂) := by
  have ht := hg.statement inBody (Nat.lt_succ_self n) h hne
  refine .ite ?_ (fun _ => ht.rejectToken _) fun _ => ht
  rw [h.nthIndex_eq_iff ht, ht.atEnd_eq]

lemma abreast_unbalancedEnd (h : Abreast ts₁ ts₂ n s₁ s₂) :
    Abreast ts₁ ts₂ n (unbalancedEnd ts₁ s₁) (unbalancedEnd ts₂ s₂) := by
  refine h.node fun s₁ s₂ h => ?_
  refine .takeIf ((h.complain .unexpectedEndInCase).repeatWhile (fun s₁ s₂ h => ?_)
    fun m hm s₁ s₂ h _ => h.take _) _ _
  rw [h.atAny_eq]

lemma listEnds_eq (h : Abreast ts₁ ts₂ n s₁ s₂) (stop : KindSet) (outside : Option Nat) :
    listEnds ts₁ stop outside s₁ = listEnds ts₂ stop outside s₂ := by
  rw [listEnds, listEnds, h.atAny_eq, h.at?_eq, h.blockLevel_eq]

lemma ne_eof_of_not_listEnds {stop : KindSet} {outside : Option Nat}
    (h : (!listEnds ts (stop.union (.ofList [.bodyClose, .eof])) outside s) = true) :
    nth ts s 0 ≠ .eof := by
  have hstop : (stop.union (.ofList [.bodyClose, .eof])).contains .eof = true :=
    stop.contains_union_ofList (by simp)
  intro heof
  simp [listEnds, atAny, at?, current, heof, hstop] at h

lemma abreast_statementList (hg : Agree ts₁ ts₂ (n + 1) g₁ g₂) (stop : KindSet) (outside : Option Nat)
    (h : Abreast ts₁ ts₂ n s₁ s₂) :
    Abreast ts₁ ts₂ n (statementList ts₁ g₁ stop outside s₁) (statementList ts₂ g₂ stop outside s₂) := by
  refine .cond (listEnds_eq h _ _) (fun _ => h) fun _ => h.node fun s₁ s₂ h => ?_
  refine h.repeatWhile (fun s₁ s₂ h => ?_) fun m hm s₁ s₂ h hs => ?_
  · rw [listEnds_eq h]
  · refine .cond (by rw [h.at?_eq]) (fun _ => abreast_unbalancedEnd h) fun _ => ?_
    exact abreast_guardedStatement (hg.mono (Nat.succ_le_succ hm)) true h (ne_eof_of_not_listEnds hs)

/-- Results that are expressions need no statements. -/
lemma abreast_branchResult {form : BranchForm} (hg : Agree ts₁ ts₂ n g₁ g₂)
    (hform : form = .expression ∨ Agree ts₁ ts₂ (n + 1) g₁ g₂) (stop : List TokenKind)
    (h : Abreast ts₁ ts₂ n s₁ s₂) :
    Abreast ts₁ ts₂ n (branchResult ts₁ g₁ form stop s₁) (branchResult ts₂ g₂ form stop s₂) := by
  cases form with
  | expression => exact abreast_expression hg _ _ h
  | statements outside =>
    obtain hno | hg := hform
    · exact absurd hno nofun
    · exact abreast_statementList hg _ _ h

lemma abreast_whenBranch {form : BranchForm} (hg : Agree ts₁ ts₂ n g₁ g₂)
    (hform : form = .expression ∨ Agree ts₁ ts₂ (n + 1) g₁ g₂) (stop : List TokenKind)
    (h : Abreast ts₁ ts₂ n s₁ s₂) :
    Abreast ts₁ ts₂ n (whenBranch ts₁ g₁ form stop s₁) (whenBranch ts₂ g₂ form stop s₂) := by
  refine h.node fun s₁ s₂ h => ?_
  have hcondition := abreast_expression hg .expression (.before (stop ++ [.keyword .THEN]))
    (h.take .keyword)
  refine .cond (hcondition.at?_eq _) (fun _ => ?_) fun _ => hcondition.complain _
  exact abreast_branchResult hg hform stop (hcondition.take _)

lemma abreast_caseBranches {form : BranchForm} (hg : Agree ts₁ ts₂ n g₁ g₂)
    (hform : form = .expression ∨ Agree ts₁ ts₂ (n + 1) g₁ g₂) (h : Abreast ts₁ ts₂ n s₁ s₂) :
    Abreast ts₁ ts₂ n (caseBranches ts₁ g₁ form s₁) (caseBranches ts₂ g₂ form s₂) := by
  have operand : Abreast ts₁ ts₂ n
      (if at? ts₁ s₁ (.keyword .WHEN) then s₁
        else expression ts₁ g₁ .expression (.before caseParts) s₁)
      (if at? ts₂ s₂ (.keyword .WHEN) then s₂
        else expression ts₂ g₂ .expression (.before caseParts) s₂) :=
    .cond (h.at?_eq _) (fun _ => h) fun _ => abreast_expression hg _ _ h
  have branches := operand.repeatWhile (fun s₁ s₂ h => h.at?_eq (.keyword .WHEN))
    fun m hm s₁ s₂ h _ => abreast_whenBranch (hg.mono hm)
      (hform.imp_right (Agree.mono · (Nat.succ_le_succ hm))) caseParts h
  refine .cond (branches.at?_eq _) (fun _ => branches.node fun s₁ s₂ h => ?_) fun _ => branches
  exact abreast_branchResult hg hform _ (h.take _)

lemma abreast_caseExpression (hg : Agree ts₁ ts₂ n g₁ g₂) (h : Abreast ts₁ ts₂ (n + 1) s₁ s₂) :
    Abreast ts₁ ts₂ n (caseExpression ts₁ g₁ s₁) (caseExpression ts₂ g₂ s₂) := by
  refine h.nested (fun s₁ s₂ h => h.node fun s₁ s₂ h => ?_) (Nat.le_refl n)
  exact (abreast_caseBranches hg (.inl rfl) (h.takeWord _)).require _ _ _

lemma abreast_caseStatement (hg : Agree ts₁ ts₂ (n + 1) g₁ g₂) (h : Abreast ts₁ ts₂ (n + 1) s₁ s₂) :
    Abreast ts₁ ts₂ (n + 1) (caseStatement ts₁ g₁ s₁) (caseStatement ts₂ g₂ s₂) := by
  refine h.nested (fun s₁ s₂ h => h.node fun s₁ s₂ h => .succ ?_) n.le_succ
  dsimp only
  rw [h.levelOutside_eq]
  have hbranches : Abreast ts₁ ts₂ n
      (caseBranches ts₁ g₁ (.statements (some (levelOutside ts₂ s₂))) (take ts₁ .keyword s₁))
      (caseBranches ts₂ g₂ (.statements (some (levelOutside ts₂ s₂))) (take ts₂ .keyword s₂)) :=
    abreast_caseBranches hg.pred (.inr hg) (h.takeWord _)
  refine .cond (hbranches.at?_eq _) (fun _ => ?_) fun _ => hbranches.complain _
  exact ((hbranches.take _).takeIf _ _).eat _

/-- An operand is read word by word, and a word is left wherever one of the rules for groups begins. -/
lemma abreast_atom (hg : Agree ts₁ ts₂ n g₁ g₂) (stop : Stop) (h : Abreast ts₁ ts₂ (n + 1) s₁ s₂) :
    Abreast ts₁ ts₂ n (atom ts₁ g₁ stop s₁) (atom ts₂ g₂ stop s₂) := by
  unfold atom
  rw [h.current_eq, callNames?_eq h]
  split
  · exact abreast_parenthesized hg h
  · exact abreast_bracketed hg h
  · exact abreast_caseExpression hg h
  · exact abreast_between hg stop h
  · unfold rejectMalformed
    rw [h.currentText_eq]
    exact h.node fun s₁ s₂ h => (h.complain _).takeWord _
  · split
    · exact abreast_functionCall hg _ h
    · exact h.bumpWord

end SqlLayout.Grammar
