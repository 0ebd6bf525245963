import SqlLayout.Proofs.Grammar.AbreastRules

/-!
# Statements keep runs abreast

The rules for declarations, routines, tables and routine bodies keep two runs on alike streams abreast.
So do the recursive rules once they are unfolded as often as there are words, however often beyond that,
and whole runs record the same events.
-/

namespace SqlLayout.Grammar

variable {ts ts₁ ts₂ : TokenStream} {g g₁ g₂ : Rules} {n m : Nat} {s s₁ s₂ : State}

lemma ne_eof_of_at? {kind : TokenKind} (h : at? ts s kind = true) (hkind : kind ≠ .eof) :
    nth ts s 0 ≠ .eof := by
  rw [at?, beq_iff_eq, current] at h
  rwa [h]

/-! ### Declarations -/

lemma startsWithName_eq (h : Abreast ts₁ ts₂ n s₁ s₂) (declared : Declared) :
    startsWithName ts₁ declared s₁ = startsWithName ts₂ declared s₂ := by
  simp only [startsWithName, h.current_eq, h.nth_eq, h.currentText_eq, h.nthText_eq]

lemma atDefault_eq (h : Abreast ts₁ ts₂ n s₁ s₂) : atDefault ts₁ s₁ = atDefault ts₂ s₂ := by
  rw [atDefault, atDefault, h.at?_eq, h.at?_eq, h.atOperator_eq]

lemma abreast_typeAtom (hg : Agree ts₁ ts₂ n g₁ g₂) (h : Abreast ts₁ ts₂ n s₁ s₂) :
    Abreast ts₁ ts₂ n (typeAtom ts₁ g₁ s₁) (typeAtom ts₂ g₂ s₂) := by
  have hword (hne : current ts₂ s₂ ≠ .eof) : ∃ m, n = m + 1 :=
    h.exists_succ (by rwa [h.nth_eq])
  unfold typeAtom
  rw [h.current_eq, h.currentText_eq]
  split
  · next hparen =>
    obtain ⟨m, rfl⟩ := hword (by rw [hparen]; nofun)
    exact (abreast_parenthesized hg.pred h).succ
  · next hbracket =>
    obtain ⟨m, rfl⟩ := hword (by rw [hbracket]; nofun)
    exact (abreast_bracketed hg.pred h).succ
  · exact h.take _
  · exact h.take _
  · exact h.take _
  · exact h.take _
  · exact .cond rfl (fun _ => h.take _) fun _ => h.bump
  · exact h.rejectMalformed
  · exact h.bump

lemma abreast_typeAtoms (hg : Agree ts₁ ts₂ n g₁ g₂) (stop : Stop) (ends : KindSet)
    (h : Abreast ts₁ ts₂ n s₁ s₂) :
    Abreast ts₁ ts₂ n (typeAtoms ts₁ g₁ stop ends s₁) (typeAtoms ts₂ g₂ stop ends s₂) := by
  refine h.repeatWhile (fun s₁ s₂ h => ?_) fun m hm s₁ s₂ h _ => abreast_typeAtom (hg.mono hm) h
  rw [h.hit_eq, h.atAny_eq, h.atOperator_eq]

lemma abreast_defaultParts (hg : Agree ts₁ ts₂ n g₁ g₂) (declared : Declared) (stop : Stop)
    (h : Abreast ts₁ ts₂ n s₁ s₂) :
    Abreast ts₁ ts₂ n (defaultParts ts₁ g₁ declared stop s₁) (defaultParts ts₂ g₂ declared stop s₂) := by
  unfold defaultParts
  dsimp only
  rw [h.at?_eq]
  exact abreast_expression hg _ _ (h.node fun _ _ h => h.take _)

lemma abreast_defaultOrConstraint (hg : Agree ts₁ ts₂ n g₁ g₂) (declared : Declared) (stop : Stop)
    (h : Abreast ts₁ ts₂ n s₁ s₂) :
    Abreast ts₁ ts₂ n (defaultOrConstraint ts₁ g₁ declared stop s₁)
      (defaultOrConstraint ts₂ g₂ declared stop s₂) :=
  .cond (atDefault_eq h) (fun _ => abreast_defaultParts hg declared stop h) fun _ =>
    abreast_nonemptyExpression hg _ _ h

lemma abreast_partsAfterName (hg : Agree ts₁ ts₂ n g₁ g₂) (declared : Declared) (stop : Stop)
    (h : Abreast ts₁ ts₂ n s₁ s₂) :
    Abreast ts₁ ts₂ n (partsAfterName ts₁ g₁ declared stop s₁)
      (partsAfterName ts₂ g₂ declared stop s₂) := by
  have hbefore := h.repeatWhile
    (fun s₁ s₂ h => show (!stop.hit ts₁ s₁ && (atDefault ts₁ s₁ || atAny ts₁ s₁ columnConstraintStart))
        = (!stop.hit ts₂ s₂ && (atDefault ts₂ s₂ || atAny ts₂ s₂ columnConstraintStart)) by
      rw [h.hit_eq, atDefault_eq h, h.atAny_eq])
    fun m hm s₁ s₂ h _ => abreast_defaultOrConstraint (hg.mono hm) declared stop h
  refine .cond (hbefore.hit_eq stop) (fun _ => hbefore) fun _ => ?_
  refine (hbefore.node fun _ _ h => abreast_typeAtoms hg stop typeEnd h).repeatWhile
    (fun s₁ s₂ h => ?_) fun m hm s₁ s₂ h _ => abreast_defaultOrConstraint (hg.mono hm) declared stop h
  rw [h.hit_eq]

lemma Abreast.partIf {c₁ c₂ : Prop} [Decidable c₁] [Decidable c₂] (h : Abreast ts₁ ts₂ n s₁ s₂)
    (hc : c₁ ↔ c₂) (part : PartRole) (role : LeafRole) :
    Abreast ts₁ ts₂ n (if c₁ then Grammar.node (.declarationPart part) (Grammar.take ts₁ role) s₁ else s₁)
      (if c₂ then Grammar.node (.declarationPart part) (Grammar.take ts₂ role) s₂ else s₂) :=
  .ite hc (fun _ => h.node fun _ _ h => h.take role) fun _ => h

lemma Abreast.eatIf (h : Abreast ts₁ ts₂ n s₁ s₂) (c : Prop) [Decidable c] (kind : TokenKind) :
    Abreast ts₁ ts₂ n (if c then Grammar.eat ts₁ kind s₁ else s₁)
      (if c then Grammar.eat ts₂ kind s₂ else s₂) :=
  .ite Iff.rfl (fun _ => h.eat kind) fun _ => h

lemma abreast_declaration (hg : Agree ts₁ ts₂ n g₁ g₂) (declared : Declared) (stop : Stop)
    (h : Abreast ts₁ ts₂ n s₁ s₂) :
    Abreast ts₁ ts₂ n (declaration ts₁ g₁ declared stop s₁) (declaration ts₂ g₂ declared stop s₂) := by
  refine .cond (h.hit_eq stop) (fun _ => h) fun _ => h.node fun s₁ s₂ h => .eatIf ?_ _ _
  refine .ite (by rw [h.atAny_eq]) (fun _ => h.node fun _ _ h => abreast_atomsUntil hg stop h)
    fun _ => abreast_partsAfterName hg declared stop ?_
  have hmode := h.partIf
    (show declared = .argument ∧ atAny ts₁ s₁ argumentModes ∧ (nth ts₁ s₁ 1).isName
      ↔ declared = .argument ∧ atAny ts₂ s₂ argumentModes ∧ (nth ts₂ s₂ 1).isName by
      rw [h.atAny_eq, h.nth_eq]) .mode .keyword
  exact hmode.partIf (by rw [startsWithName_eq hmode]) _ _

lemma abreast_declarationList (hg : Agree ts₁ ts₂ n g₁ g₂) (declared : Declared)
    (h : Abreast ts₁ ts₂ n s₁ s₂) :
    Abreast ts₁ ts₂ n (declarationList ts₁ g₁ declared s₁) (declarationList ts₂ g₂ declared s₂) := by
  refine .cond (by rw [h.at?_eq]) (fun _ => h.complain _) fun hparen => ?_
  rw [Bool.not_eq_true, Bool.not_eq_false'] at hparen
  obtain ⟨m, rfl⟩ := h.exists_succ (ne_eof_of_at? hparen nofun)
  refine h.nested (fun s₁ s₂ h => h.node fun s₁ s₂ h => .require ?_ _ _ _) m.le_succ
  have h := h.take .punctuation
  refine .cond (h.at?_eq _) (fun _ => h) fun _ => ?_
  refine (abreast_declaration hg _ _ h).repeatWhile (fun s₁ s₂ h => h.at?_eq _)
    fun m hm s₁ s₂ h _ => abreast_declaration (hg.mono hm) _ _ (h.take _)

/-! ### Routines and tables -/

lemma atRoutineDefinition_eq (h : Abreast ts₁ ts₂ n s₁ s₂) :
    atRoutineDefinition ts₁ s₁ = atRoutineDefinition ts₂ s₂ := by
  simp only [atRoutineDefinition, h.nth_eq]

lemma isTableModifier_eq (h : Abreast ts₁ ts₂ n s₁ s₂) (m : Nat) :
    isTableModifier ts₁ s₁ m = isTableModifier ts₂ s₂ m := by
  simp only [isTableModifier, h.nth_eq, h.nthIsWord_eq]

/-- Modifiers end where the words do, so that it does not matter how many more could be skipped. -/
lemma skipTableModifiers_eq (h : Abreast ts₁ ts₂ n s₁ s₂) (m : Nat) :
    skipTableModifiers ts₁ s₁ ts₁.size m = skipTableModifiers ts₂ s₂ ts₂.size m := by
  obtain ⟨k, hk, -, hpos₁, -⟩ := h.read
  have hstop {m : Nat} (hm : ts₁.wordCount ≤ k + m) : isTableModifier ts₁ s₁ m = false := by
    rw [isTableModifier, nth_eq_eof h.alike.closed₁ hk hpos₁ hm]
  have hlimits (limit₁ limit₂ m : Nat) (h₁ : ts₁.wordCount ≤ k + m + limit₁)
      (h₂ : ts₁.wordCount ≤ k + m + limit₂) :
      skipTableModifiers ts₁ s₁ limit₁ m = skipTableModifiers ts₂ s₂ limit₂ m := by
    induction limit₁ generalizing limit₂ m with
    | zero =>
      cases limit₂ with
      | zero => rfl
      | succ limit₂ => rw [skipTableModifiers, skipTableModifiers, ← isTableModifier_eq h, hstop h₁]; rfl
    | succ limit₁ ih =>
      cases limit₂ with
      | zero => rw [skipTableModifiers, skipTableModifiers, hstop h₂]; rfl
      | succ limit₂ =>
        rw [skipTableModifiers, skipTableModifiers, isTableModifier_eq h,
          ih limit₂ (m + 1) (by omega) (by omega)]
  have hsize₁ := wordCount_lt_size ts₁
  have hsize₂ := wordCount_lt_size ts₂
  rw [← h.alike.count] at hsize₂
  exact hlimits _ _ _ (by omega) (by omega)

lemma atTableDefinition_eq (h : Abreast ts₁ ts₂ n s₁ s₂) :
    atTableDefinition ts₁ s₁ = atTableDefinition ts₂ s₂ := by
  simp only [atTableDefinition, skipTableModifiers_eq h, furtherNames_eq h, h.nth_eq]

lemma abreast_qualifiedName (h : Abreast ts₁ ts₂ n s₁ s₂) :
    Abreast ts₁ ts₂ n (qualifiedName ts₁ s₁) (qualifiedName ts₂ s₂) := by
  refine .cond (by rw [h.current_eq]) (fun _ => h.complain _) fun _ => ?_
  refine (h.take _).repeatWhile (fun s₁ s₂ h => ?_) fun m hm s₁ s₂ h _ => (h.take _).take _
  rw [h.at?_eq, h.nth_eq]

lemma abreast_routineAttribute (hg : Agree ts₁ ts₂ n g₁ g₂) (h : Abreast ts₁ ts₂ n s₁ s₂) :
    Abreast ts₁ ts₂ n (routineAttribute ts₁ g₁ s₁) (routineAttribute ts₂ g₂ s₂) :=
  h.node fun _ _ h => abreast_expression hg _ _ (h.take _)

lemma abreast_returnsClause (hg : Agree ts₁ ts₂ n g₁ g₂) (h : Abreast ts₁ ts₂ n s₁ s₂) :
    Abreast ts₁ ts₂ n (returnsClause ts₁ g₁ s₁) (returnsClause ts₂ g₂ s₂) := by
  unfold returnsClause
  refine h.node fun s₁ s₂ h => ?_
  have h := h.take .keyword
  refine .cond (by rw [h.at?_eq, h.nth_eq]) (fun _ => abreast_declarationList hg _ (h.take _)) fun _ => ?_
  refine .cond (by rw [h.hit_eq, h.atOperator_eq]) (fun _ => h) fun _ => ?_
  exact h.node fun _ _ h => abreast_typeAtoms hg _ _ h

lemma abreast_routineBody (hg : Agree ts₁ ts₂ n g₁ g₂) (h : Abreast ts₁ ts₂ n s₁ s₂) :
    Abreast ts₁ ts₂ n (routineBody ts₁ g₁ s₁) (routineBody ts₂ g₂ s₂) := by
  unfold routineBody
  refine h.node fun s₁ s₂ h => ?_
  have h := h.takeIf (.keyword .AS) .keyword
  refine .cond (h.at?_eq _) (fun hbody => ?_) fun _ => ?_
  · obtain ⟨m, rfl⟩ := h.exists_succ (ne_eof_of_at? hbody nofun)
    exact ((abreast_statementList hg _ _ (h.takeWord _)).require _ _ _).succ
  · refine h.repeatWhile (fun s₁ s₂ h => by rw [h.hit_eq]) fun m hm s₁ s₂ h _ => ?_
    exact .cond (h.at?_eq _) (fun _ => h.rejectMalformed) fun _ => h.bump

lemma abreast_takeKeywordsThrough (p : TokenKind → Bool) (h : Abreast ts₁ ts₂ n s₁ s₂) :
    Abreast ts₁ ts₂ n (takeKeywordsThrough ts₁ p s₁) (takeKeywordsThrough ts₂ p s₂) := by
  have hbefore := h.repeatWhile
    (fun s₁ s₂ h => show (!atEnd ts₁ s₁ && !p (current ts₁ s₁)) = (!atEnd ts₂ s₂ && !p (current ts₂ s₂)) by
      rw [h.atEnd_eq, h.current_eq])
    fun m hm s₁ s₂ h _ => h.take .keyword
  exact .cond hbefore.atEnd_eq (fun _ => hbefore) fun _ => hbefore.take _

lemma abreast_routineDefinition (hg : Agree ts₁ ts₂ n g₁ g₂) (h : Abreast ts₁ ts₂ n s₁ s₂) :
    Abreast ts₁ ts₂ n (routineDefinition ts₁ g₁ s₁) (routineDefinition ts₂ g₂ s₂) := by
  unfold routineDefinition
  refine h.node fun s₁ s₂ h => .eat (.repeatWhile ?_ (fun s₁ s₂ h => by rw [h.atAny_eq]) ?_) _
  · have hname := abreast_qualifiedName (abreast_takeKeywordsThrough isRoutineWord h)
    exact .cond (hname.at?_eq _) (fun _ => abreast_declarationList hg _ hname) fun _ => hname.complain _
  · intro m hm s₁ s₂ h _
    rw [h.current_eq]
    split
    · exact abreast_routineBody (hg.mono hm) h
    · exact abreast_returnsClause (hg.mono hm) h
    · exact abreast_routineAttribute (hg.mono hm) h

lemma abreast_tableDefinition (hg : Agree ts₁ ts₂ n g₁ g₂) (h : Abreast ts₁ ts₂ n s₁ s₂) :
    Abreast ts₁ ts₂ n (tableDefinition ts₁ g₁ s₁) (tableDefinition ts₂ g₂ s₂) := by
  refine h.node fun s₁ s₂ h => .eat (abreast_clausesUntil hg _ _ (abreast_declarationList hg _
    (abreast_qualifiedName ?_))) _
  have hwords := abreast_takeKeywordsThrough (· == .keyword .TABLE) h
  exact .cond (hwords.at?_eq _) (fun _ => ((hwords.take _).take _).take _) fun _ => hwords

lemma abreast_doBlock (hg : Agree ts₁ ts₂ n g₁ g₂) (h : Abreast ts₁ ts₂ n s₁ s₂) :
    Abreast ts₁ ts₂ n (doBlock ts₁ g₁ s₁) (doBlock ts₂ g₂ s₂) := by
  have language {s₁ s₂ : State} (h : Abreast ts₁ ts₂ n s₁ s₂) : Abreast ts₁ ts₂ n
      (if at? ts₁ s₁ (.keyword .LANGUAGE) then routineAttribute ts₁ g₁ s₁ else s₁)
      (if at? ts₂ s₂ (.keyword .LANGUAGE) then routineAttribute ts₂ g₂ s₂ else s₂) :=
    .cond (h.at?_eq _) (fun _ => abreast_routineAttribute hg h) fun _ => h
  unfold doBlock
  refine h.node fun s₁ s₂ h => .eat (language ?_) _
  have h := language (h.take .keyword)
  dsimp only
  rw [h.current_eq]
  split
  · exact abreast_routineBody hg h
  · exact h.node fun _ _ h => h.take _
  · exact h.node fun _ _ h => h.take _
  · exact h.complain _

/-! ### Blocks -/

lemma atLabel_eq (h : Abreast ts₁ ts₂ n s₁ s₂) : atLabel ts₁ s₁ = atLabel ts₂ s₂ := by
  rw [atLabel, atLabel, h.atOperator_eq, h.nth_eq, h.nth_eq, h.nthText_eq]

lemma abreast_label (h : Abreast ts₁ ts₂ n s₁ s₂) :
    Abreast ts₁ ts₂ n (label ts₁ s₁) (label ts₂ s₂) :=
  .cond (atLabel_eq h) (fun _ => ((h.take _).take _).take _) fun _ => h

lemma abreast_endOfConstruct (h : Abreast ts₁ ts₂ n s₁ s₂) :
    Abreast ts₁ ts₂ n (endOfConstruct ts₁ s₁) (endOfConstruct ts₂ s₂) := by
  refine .eat ?_ _
  rw [h.current_eq]
  split
  · exact h.take _
  · exact h.take _
  · exact h

lemma abreast_endWith (word : Keyword) (cause : Complaint) (h : Abreast ts₁ ts₂ n s₁ s₂) :
    Abreast ts₁ ts₂ n (endWith ts₁ word cause s₁) (endWith ts₂ word cause s₂) :=
  .cond (h.at?_eq _) (fun _ => abreast_endOfConstruct ((h.take _).require _ _ _)) fun _ => h.complain _

lemma abreast_declareSection (hg : Agree ts₁ ts₂ n g₁ g₂) (h : Abreast ts₁ ts₂ n s₁ s₂) :
    Abreast ts₁ ts₂ n (declareSection ts₁ g₁ s₁) (declareSection ts₂ g₂ s₂) := by
  unfold declareSection
  refine h.node fun s₁ s₂ h => (h.take _).repeatWhile (fun s₁ s₂ h => by rw [h.atAny_eq])
    fun m hm s₁ s₂ h _ => ?_
  have ht := abreast_declaration (hg.mono hm) .variable {} h
  refine .ite (not_congr (h.nthIndex_eq_iff ht)) (fun _ => ht) fun _ => ?_
  exact .cond (ht.at?_eq _) (fun _ => ht.take _) fun _ => ht.rejectToken _

lemma abreast_exceptionSection (hg : Agree ts₁ ts₂ (n + 1) g₁ g₂) (h : Abreast ts₁ ts₂ n s₁ s₂) :
    Abreast ts₁ ts₂ n (exceptionSection ts₁ g₁ s₁) (exceptionSection ts₂ g₂ s₂) := by
  refine h.node fun s₁ s₂ h => (h.take _).repeatWhile (fun s₁ s₂ h => h.at?_eq _)
    fun m hm s₁ s₂ h _ => ?_
  have hg := hg.mono (Nat.succ_le_succ hm)
  exact abreast_whenBranch hg.pred (.inr hg) _ h

lemma abreast_blockBody (hg : Agree ts₁ ts₂ (n + 1) g₁ g₂) (h : Abreast ts₁ ts₂ n s₁ s₂) :
    Abreast ts₁ ts₂ n (blockBody ts₁ g₁ s₁) (blockBody ts₂ g₂ s₂) := by
  have hlist := abreast_statementList hg (.ofList [.keyword .EXCEPTION, .keyword .END]) none h
  have hhandlers : Abreast ts₁ ts₂ n _ _ := .cond (hlist.at?_eq (.keyword .EXCEPTION))
    (fun _ => abreast_exceptionSection hg hlist) fun _ => hlist
  exact .cond (hhandlers.at?_eq _) (fun _ => abreast_endOfConstruct (hhandlers.take _))
    fun _ => hhandlers.complain _

lemma abreast_block (hg : Agree ts₁ ts₂ (n + 1) g₁ g₂) (h : Abreast ts₁ ts₂ (n + 1) s₁ s₂) :
    Abreast ts₁ ts₂ (n + 1) (block ts₁ g₁ s₁) (block ts₂ g₂ s₂) := by
  refine h.nested (fun s₁ s₂ h => h.node fun s₁ s₂ h => ?_) n.le_succ
  have hlabel := abreast_label h
  have hvariables : Abreast ts₁ ts₂ (n + 1) _ _ := .cond (hlabel.at?_eq (.keyword .DECLARE))
    (fun _ => abreast_declareSection hg hlabel) fun _ => hlabel
  exact .cond (hvariables.at?_eq _) (fun _ => (abreast_blockBody hg (hvariables.takeWord _)).succ)
    fun _ => hvariables.complain _

/-! ### Conditionals and loops -/

lemma abreast_conditionalBranch (hg : Agree ts₁ ts₂ (n + 1) g₁ g₂) (h : Abreast ts₁ ts₂ (n + 1) s₁ s₂) :
    Abreast ts₁ ts₂ n (conditionalBranch ts₁ g₁ s₁) (conditionalBranch ts₂ g₂ s₂) := by
  refine h.node fun s₁ s₂ h => abreast_statementList hg _ _ ?_
  exact .cond (h.at?_eq _) (fun _ => h.takeWord _)
    fun _ => (abreast_expression hg.pred _ _ (h.takeWord _)).require _ _ _

lemma abreast_ifStatement (hg : Agree ts₁ ts₂ (n + 1) g₁ g₂) (h : Abreast ts₁ ts₂ (n + 1) s₁ s₂) :
    Abreast ts₁ ts₂ n (ifStatement ts₁ g₁ s₁) (ifStatement ts₂ g₂ s₂) := by
  refine h.nested (fun s₁ s₂ h => h.node fun s₁ s₂ h => ?_) (Nat.le_refl n)
  refine abreast_endWith _ _ ((abreast_conditionalBranch hg h).repeatWhile (fun s₁ s₂ h => ?_)
    fun m hm s₁ s₂ h hword => ?_)
  · rw [h.at?_eq, h.at?_eq]
  · have hne : nth ts₁ s₁ 0 ≠ .eof := by
      rcases Bool.or_eq_true_iff.1 hword with hword | hword
      · exact ne_eof_of_at? hword nofun
      · exact ne_eof_of_at? hword nofun
    obtain ⟨m, rfl⟩ := h.exists_succ hne
    exact (abreast_conditionalBranch (hg.mono (Nat.le_succ_of_le hm)) h).succ

lemma skipLoopTargets_eq (h : Abreast ts₁ ts₂ n s₁ s₂) (limit m : Nat) :
    skipLoopTargets ts₁ s₁ limit m = skipLoopTargets ts₂ s₂ limit m := by
  induction limit generalizing m with
  | zero => rfl
  | succ limit ih => rw [skipLoopTargets, skipLoopTargets, h.nth_eq, ih]

lemma atQueryLoop_eq (h : Abreast ts₁ ts₂ n s₁ s₂) : atQueryLoop ts₁ s₁ = atQueryLoop ts₂ s₂ := by
  simp only [atQueryLoop, skipLoopTargets_eq h, h.nth_eq]

lemma abreast_loopHead (hg : Agree ts₁ ts₂ n g₁ g₂) (h : Abreast ts₁ ts₂ n s₁ s₂) :
    Abreast ts₁ ts₂ n (loopHead ts₁ g₁ s₁) (loopHead ts₂ g₂ s₂) := by
  refine .cond (h.at?_eq _) (fun _ => h) fun _ => ?_
  have hword := h.take .keyword
  refine .cond (by rw [h.at?_eq, atQueryLoop_eq hword]) (fun _ => ?_)
    fun _ => abreast_expression hg _ _ hword
  exact abreast_embeddedQuery hg _ ((abreast_expression hg _ _ hword).take _)

lemma abreast_loopStatement (hg : Agree ts₁ ts₂ (n + 1) g₁ g₂) (h : Abreast ts₁ ts₂ (n + 1) s₁ s₂) :
    Abreast ts₁ ts₂ (n + 1) (loopStatement ts₁ g₁ s₁) (loopStatement ts₂ g₂ s₂) := by
  refine h.nested (fun s₁ s₂ h => h.node fun s₁ s₂ h => ?_) n.le_succ
  have hhead := abreast_loopHead hg (abreast_label h)
  refine .cond (hhead.at?_eq _) (fun _ => ?_) fun _ => hhead.complain _
  exact (abreast_endWith _ _ (abreast_statementList hg _ _ (hhead.takeWord _))).succ

/-! ### Statements -/

lemma abreast_bodyStatement (hg : Agree ts₁ ts₂ (n + 1) g₁ g₂) (h : Abreast ts₁ ts₂ (n + 1) s₁ s₂) :
    Abreast ts₁ ts₂ (n + 1) (bodyStatement ts₁ g₁ s₁) (bodyStatement ts₂ g₂ s₂) := by
  have hclauses := abreast_clauseStatement hg h
  unfold bodyStatement
  dsimp only
  rw [atLabel_eq h, h.nth_eq]
  split
  · exact abreast_block hg h
  · exact abreast_block hg h
  · exact abreast_loopStatement hg h
  · exact abreast_loopStatement hg h
  · exact abreast_loopStatement hg h
  · exact abreast_loopStatement hg h
  · exact .cond rfl (fun _ => hclauses) fun _ => (abreast_ifStatement hg h).succ
  · exact .cond rfl (fun _ => hclauses) fun _ => abreast_caseStatement hg h
  · exact hclauses

lemma atBodyStatement_eq (h : Abreast ts₁ ts₂ n s₁ s₂) :
    atBodyStatement ts₁ s₁ = atBodyStatement ts₂ s₂ := by
  simp only [atBodyStatement, h.current_eq, h.nth_eq, atLabel_eq h]

lemma abreast_otherStatement (hg : Agree ts₁ ts₂ (n + 1) g₁ g₂) (inBody : Bool)
    (h : Abreast ts₁ ts₂ (n + 1) s₁ s₂) :
    Abreast ts₁ ts₂ (n + 1) (otherStatement ts₁ g₁ inBody s₁) (otherStatement ts₂ g₂ inBody s₂) :=
  .cond (by rw [atBodyStatement_eq h]) (fun _ => abreast_bodyStatement hg h)
    fun _ => abreast_clauseStatement hg h

lemma abreast_statement (hg : Agree ts₁ ts₂ (n + 1) g₁ g₂) (inBody : Bool)
    (h : Abreast ts₁ ts₂ (n + 1) s₁ s₂) :
    Abreast ts₁ ts₂ (n + 1) (statement ts₁ g₁ inBody s₁) (statement ts₂ g₂ inBody s₂) := by
  have hother := abreast_otherStatement hg inBody h
  unfold statement
  rw [h.current_eq, h.nth_eq, atRoutineDefinition_eq h, atTableDefinition_eq h]
  split
  · exact .cond rfl (fun _ => abreast_routineDefinition hg h) fun _ =>
      .cond rfl (fun _ => abreast_tableDefinition hg h) fun _ => hother
  · exact .cond rfl (fun _ => abreast_doBlock hg h) fun _ => hother
  · exact .cond rfl (fun _ => hother) fun _ => h.rejectToken _
  · exact h.rejectToken _
  · exact h.rejectToken _
  · exact h.rejectMalformed
  · exact hother

/-! ### Whole runs -/

/-- At the end of input, an operand asks for a token that is not there, however deep rules are unfolded. -/
lemma atom_rules_of_eof (h : nth ts s 0 = .eof) (depth : Nat) (stop : Stop) :
    (rules ts depth).atom stop s = bump ts s := by
  have hname : TokenKind.eof.isName = false := rfl
  cases depth with
  | zero => rfl
  | succ depth => simp [rules, atom, callNames?, current, h, hname]

/-- Rules that are unfolded as often as words are left keep runs abreast, as groups read a word first. -/
theorem agree_rules {d₁ d₂ : Nat} (h₁ : n ≤ d₁) (h₂ : n ≤ d₂) :
    Agree ts₁ ts₂ n (rules ts₁ d₁) (rules ts₂ d₂) := by
  have atEof {d₁ d₂ m : Nat} (stop : Stop) {s₁ s₂ : State} (h : Abreast ts₁ ts₂ m s₁ s₂)
      (heof : nth ts₁ s₁ 0 = .eof) :
      Abreast ts₁ ts₂ m ((rules ts₁ d₁).atom stop s₁) ((rules ts₂ d₂).atom stop s₂) := by
    rw [atom_rules_of_eof heof, atom_rules_of_eof (h.nth_eq 0 ▸ heof)]
    exact h.bump
  induction n generalizing d₁ d₂ with
  | zero =>
    refine ⟨fun stop s₁ s₂ hm h => ?_, fun hm h hne => ?_, fun _ _ _ hm => absurd hm (Nat.not_lt_zero _)⟩
    · by_cases heof : nth ts₁ s₁ 0 = .eof
      · exact atEof stop h heof
      · obtain ⟨m, rfl⟩ := h.exists_succ heof
        exact absurd hm (Nat.not_succ_le_zero m)
    · obtain ⟨m, rfl⟩ := h.exists_succ hne
      exact absurd hm (Nat.not_succ_le_zero m)
  | succ n ih =>
    obtain ⟨d₁, rfl⟩ := Nat.exists_eq_add_of_le' h₁
    obtain ⟨d₂, rfl⟩ := Nat.exists_eq_add_of_le' h₂
    have ih := @ih (d₁ + n) (d₂ + n) (Nat.le_add_left ..) (Nat.le_add_left ..)
    refine ⟨fun stop s₁ s₂ hm h => ?_, fun hm h hne => ?_, fun inBody s₁ s₂ hm h hne => ?_⟩
    · by_cases heof : nth ts₁ s₁ 0 = .eof
      · exact atEof stop h heof
      · obtain ⟨m, rfl⟩ := h.exists_succ heof
        exact (abreast_atom (ih.mono (Nat.le_of_succ_le_succ hm)) stop h).succ
    · obtain ⟨m, rfl⟩ := h.exists_succ hne
      exact (abreast_parenthesized (ih.mono (Nat.le_of_succ_le_succ hm)) h).succ
    · obtain ⟨m, rfl⟩ := h.exists_succ hne
      exact abreast_statement (ih.mono (Nat.le_of_lt_succ hm)) inBody h

/-- Runs on alike streams record the same events, and ask for a token at the end of input alike. -/
theorem abreast_run (h : ts₁.Alike ts₂) : Abreast ts₁ ts₂ ts₁.wordCount (run ts₁) (run ts₂) := by
  have hstart : Abreast ts₁ ts₂ ts₁.wordCount {} {} :=
    ⟨h, ⟨0, Nat.zero_le _, by omega, rfl, rfl⟩, rfl, rfl, rfl⟩
  have hg : Agree ts₁ ts₂ (ts₁.wordCount + 1) (rules ts₁ (ts₁.size + 2)) (rules ts₂ (ts₂.size + 2)) := by
    have hsize₁ := wordCount_lt_size ts₁
    have hsize₂ := wordCount_lt_size ts₂
    rw [← h.count] at hsize₂
    exact agree_rules (by omega) (by omega)
  refine hstart.node fun s₁ s₂ h => h.repeatWhile (fun s₁ s₂ h => by rw [h.atEnd_eq])
    fun m hm s₁ s₂ h hend => ?_
  refine abreast_guardedStatement (hg.mono (Nat.succ_le_succ hm)) false h ?_
  simpa [atEnd, at?, current] using hend

end SqlLayout.Grammar
