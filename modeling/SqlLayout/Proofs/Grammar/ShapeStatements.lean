import SqlLayout.Proofs.Grammar.ShapeRules

/-!
# The shape of statements and of whole sources

What the rules of declarations, routines, blocks and loops put into the node around them, and from that
the shape of the forest of a run, `shaped_forest`. The recursive rules are good up to as many tokens as
they are unfolded, which is more than there are.
-/

namespace SqlLayout.Grammar

variable {ts : TokenStream} {g : Rules} {n : Nat} {s t u : State} {kind : NodeKind}

/-! ### Declarations -/

lemma begins_typeAtom (hc : ts.Closed) (hw : WellSpelled ts) (hg : Good ts g n) (hs : left ts s ≤ n)
    (h : nth ts s 0 ≠ .eof) (hkind : holdsAtoms kind = true) :
    Begins ts kind s (typeAtom ts g s) := by
  have word (herror : nth ts s 0 ≠ .error) : Begins ts kind s (take ts .dataType s) :=
    begins_take hc _ h (mayTake_of_ne herror)
  unfold typeAtom
  split
  · next hk =>
    exact begins_parenthesized hc hw hg (by omega) hk (mayHold_of_holdsAtoms hkind rfl)
      (mayHold_of_holdsAtoms hkind rfl)
  · next hk => exact begins_bracketed hc hg (by omega) hk hkind
  · next hk => exact word (by rw [← current, hk]; simp)
  · next hk => exact word (by rw [← current, hk]; simp)
  · next hk => exact word (by rw [← current, hk]; simp)
  · next hk => exact word (by rw [← current, hk]; simp)
  · next hk =>
    have herror : nth ts s 0 ≠ .error := by rw [← current, hk]; simp
    exact .ite (fun _ => word herror) fun _ => begins_bump hc h herror
  · exact begins_rejectMalformed hc h (mayHold_of_holdsAtoms hkind rfl)
  · next herror => exact begins_bump hc h herror

/-- Whether a type goes on. -/
def typeGoesOn (ts : TokenStream) (stop : Stop) (ends : KindSet) (s : State) : Bool :=
  !stop.hit ts s && !atAny ts s ends && !atOperator ts s "="

/-- A type that has a word. -/
lemma begins_typeAtoms (hc : ts.Closed) (hw : WellSpelled ts) (hg : Good ts g n) {stop : Stop}
    {ends : KindSet} (hs : left ts s ≤ n) (hgo : typeGoesOn ts stop ends s = true)
    (hkind : holdsAtoms kind = true) : Begins ts kind s (typeAtoms ts g stop ends s) := by
  refine begins_repeatWhile (fun s hs hgo => begins_typeAtom hc hw hg hs ?_ hkind) s hs hgo
  simp only [Bool.and_eq_true, Bool.not_eq_true'] at hgo
  exact ne_eof_of_not_hit hgo.1.1

lemma ne_error_of_atDefault (h : atDefault ts s = true) : nth ts s 0 ≠ .eof ∧ nth ts s 0 ≠ .error := by
  simp only [atDefault, atOperator, Bool.or_eq_true, Bool.and_eq_true, at?_iff] at h
  rcases h with (h | h) | ⟨h, -⟩ <;> rw [h] <;> simp

lemma beginsNodes_defaultParts (hc : ts.Closed) (hg : Good ts g n) (declared : Declared) (stop : Stop)
    (hs : left ts s ≤ n) (h : atDefault ts s = true) :
    BeginsNodes ts .declaration s (defaultParts ts g declared stop s) := by
  obtain ⟨hne, herror⟩ := ne_error_of_atDefault h
  refine BeginsNodes.andThen (beginsNodes_node hc ?_ rfl rfl) fun hle =>
    yieldsNo_expression hc hg (fun _ => rfl) _ _ (Nat.le_trans hle hs) rfl rfl
  exact leads_takeThen hc _ (by simpa using hne) (mayTake_of_ne (by simpa using herror)) rfl
    fun _ => .refl _

lemma beginsNodes_defaultOrConstraint (hc : ts.Closed) (hg : Good ts g n) (declared : Declared) (stop : Stop)
    (hs : left ts s ≤ n) (h : nth ts s 0 ≠ .eof) :
    BeginsNodes ts .declaration s (defaultOrConstraint ts g declared stop s) :=
  .ite (fun hdefault => beginsNodes_defaultParts hc hg declared stop hs hdefault)
    fun _ => beginsNodes_nonemptyExpression hc hg _ hs h rfl rfl

/-- Where neither a default value nor a constraint stands, a type does. -/
lemma typeGoesOn_of_not {stop : Stop} (hstop : stop.hit ts s = false)
    (h : (atDefault ts s || atAny ts s columnConstraintStart) = false) :
    typeGoesOn ts stop typeEnd s = true := by
  simp only [Bool.or_eq_false_iff, atDefault, at?, beq_eq_false_iff_ne] at h
  obtain ⟨⟨⟨hdefault, hassign⟩, hequals⟩, hconstraint⟩ := h
  have hends : atAny ts s typeEnd = false := by
    rw [atAny, typeEnd, KindSet.contains_union, show columnConstraintStart.contains (current ts s) = false
      from hconstraint, Bool.false_or, Bool.eq_false_iff, Ne, KindSet.contains_ofList_iff]
    simp [hdefault, hassign]
  simp [typeGoesOn, hstop, hends, hequals]

lemma beginsNodes_partsAfterName (hc : ts.Closed) (hw : WellSpelled ts) (hg : Good ts g n)
    (declared : Declared) {stop : Stop} (hs : left ts s ≤ n) (hstop : stop.hit ts s = false) :
    BeginsNodes ts .declaration s (partsAfterName ts g declared stop s) := by
  have further (s : State) (hs : left ts s ≤ n) (hstop : stop.hit ts s = false) :
      BeginsNodes ts .declaration s (defaultOrConstraint ts g declared stop s) :=
    beginsNodes_defaultOrConstraint hc hg declared stop hs (ne_eof_of_not_hit hstop)
  have before (s : State) (hs : left ts s ≤ n) (hgo : (!stop.hit ts s
      && (atDefault ts s || atAny ts s columnConstraintStart)) = true) :
      BeginsNodes ts .declaration s (defaultOrConstraint ts g declared stop s) := by
    rw [Bool.and_eq_true, Bool.not_eq_true'] at hgo
    exact further s hs hgo.1
  have after (s : State) (hs : left ts s ≤ n) (hstop : stop.hit ts s = false)
      (hnone : (atDefault ts s || atAny ts s columnConstraintStart) = false) :
      BeginsNodes ts .declaration s (repeatWhile ts (fun s => !stop.hit ts s)
        (defaultOrConstraint ts g declared stop)
        (node (.declarationPart .dataType) (typeAtoms ts g stop typeEnd) s)) := by
    have hgo := typeGoesOn_of_not hstop hnone
    refine BeginsNodes.andThen (beginsNodes_node hc (Begins.leads ?_ (fun _ => rfl) fun _ => rfl) rfl rfl)
      fun hle => yieldsNo_repeatWhile (n := n) (fun s hs hgo => ?_) _ (by omega)
    · exact begins_typeAtoms (s := s.opening _) hc hw hg hs hgo rfl
    · exact (further s hs (not_hit_of_not hgo)).noLeaf
  unfold partsAfterName
  dsimp only
  cases hnone : (atDefault ts s || atAny ts s columnConstraintStart) with
  | true =>
    have hgo : (!stop.hit ts s && (atDefault ts s || atAny ts s columnConstraintStart)) = true := by
      rw [hstop, hnone]
      rfl
    refine (beginsNodes_repeatWhile before s hs hgo).andThen fun hle => .ite (fun _ => .refl _) fun hmore => ?_
    -- After the repetition neither a default value nor a constraint is ahead.
    have hend := condition_repeatWhile_of_begins (by simp) (fun s hs hgo => (before s hs hgo).begins) s hs
    have hstop := Bool.eq_false_iff.2 hmore
    rw [hstop, Bool.not_false, Bool.true_and] at hend
    exact (after _ (by omega) hstop hend).noLeaf
  | false =>
    have hend : (!stop.hit ts s && (atDefault ts s || atAny ts s columnConstraintStart)) = false := by
      rw [hnone, Bool.and_false]
    rw [repeatWhile_of_false hend, if_neg (by rw [hstop]; simp)]
    exact after s hs hstop hnone

lemma noLeaf_partsAfterName (hc : ts.Closed) (hw : WellSpelled ts) (hg : Good ts g n)
    (declared : Declared) (stop : Stop) (s : State) (hs : left ts s ≤ n) :
    YieldsNo Item.isLeaf ts .declaration s (partsAfterName ts g declared stop s) := by
  cases hstop : stop.hit ts s with
  | false => exact (beginsNodes_partsAfterName hc hw hg declared hs hstop).noLeaf
  | true =>
    unfold partsAfterName
    dsimp only
    rw [repeatWhile_of_false (by rw [hstop]; rfl), if_pos hstop]
    exact .refl s

/-- The mode of an argument is read, or the state stays. -/
lemma mode_cases (hc : ts.Closed) (s : State) (declared : Declared) :
    BeginsNodes ts .declaration s
        (if declared = .argument ∧ atAny ts s argumentModes ∧ (nth ts s 1).isName then
          node (.declarationPart .mode) (take ts .keyword) s else s)
      ∨ (if declared = .argument ∧ atAny ts s argumentModes ∧ (nth ts s 1).isName then
          node (.declarationPart .mode) (take ts .keyword) s else s) = s := by
  split
  · next h =>
    have hmode := h.2.1
    rw [atAny, argumentModes, KindSet.contains_ofList_iff] at hmode
    have hne : nth ts s 0 ≠ .eof ∧ nth ts s 0 ≠ .error := by
      simp only [List.mem_cons, List.not_mem_nil, or_false, current] at hmode
      rcases hmode with h | h | h | h <;> rw [h] <;> simp
    refine .inl (beginsNodes_node hc ?_ rfl rfl)
    exact leads_takeThen hc .keyword (by simpa using hne.1) (mayTake_of_ne (by simpa using hne.2)) rfl
      fun _ => .refl _
  · exact .inr rfl

/-- The name of a declaration is read, or the state stays. -/
lemma declaredName_cases (hc : ts.Closed) (s : State) (declared : Declared) :
    BeginsNodes ts .declaration s (if startsWithName ts declared s then
        node (.declarationPart .name) (take ts .identifier) s else s)
      ∨ (if startsWithName ts declared s then
        node (.declarationPart .name) (take ts .identifier) s else s) = s := by
  split
  · next h =>
    have hname : (nth ts s 0).isName = true :=
      Bool.of_not_eq_false fun hname => by simp [startsWithName, current, hname] at h
    refine .inl (beginsNodes_node hc ?_ rfl rfl)
    exact leads_takeThen hc .identifier (by simpa using ne_eof_of_isName hname)
      (mayTake_of_ne (by simpa using ne_error_of_isName hname)) rfl fun _ => .refl _
  · exact .inr rfl

lemma yields_declaration (hc : ts.Closed) (hw : WellSpelled ts) (hg : Good ts g n) (declared : Declared)
    (stop : Stop) (s : State) (hs : left ts s ≤ n) (hhold : mayHold kind .declaration = true) :
    Yields ts kind s (declaration ts g declared stop s) := by
  have ending (s : State) : YieldsNo Item.isNode ts .declaration s
      (if declared = .variable then eat ts .semicolon s else s) :=
    .ite (fun _ => .ite (fun h => noNode_takeAt hc _ h (by simp)) fun _ => .refl s) fun _ => .refl s
  refine .ite (fun _ => .refl s) fun hmore => ?_
  apply Begins.yields
  apply begins_declarationNode hc
  case hending => exact ending _
  case hhold => exact hhold
  have hs : left ts (s.opening .declaration) ≤ n := hs
  have hstop : stop.hit ts (s.opening .declaration) = false := Bool.eq_false_iff.2 hmore
  generalize s.opening .declaration = s at hs hstop
  refine .ite (fun _ => ?_) fun _ => ?_
  · refine beginsNodes_node hc ?_ rfl rfl
    exact (begins_atomsUntil (s := s.opening _) hg rfl hs hstop).leads (fun _ => rfl) fun _ => rfl
  · dsimp only
    -- One of the mode, the name and the parts after it is there.
    rcases mode_cases hc s declared with hmode | hmode
    · refine hmode.andThen fun hle => ?_
      rcases declaredName_cases hc _ declared with hname | hname
      · refine hname.noLeaf.andThen fun hle' => ?_
        exact noLeaf_partsAfterName hc hw hg declared stop _ (by omega)
      · rw [hname]
        exact noLeaf_partsAfterName hc hw hg declared stop _ (by omega)
    · rw [hmode]
      rcases declaredName_cases hc s declared with hname | hname
      · refine hname.andThen fun hle => ?_
        exact noLeaf_partsAfterName hc hw hg declared stop _ (by omega)
      · rw [hname]
        exact beginsNodes_partsAfterName hc hw hg declared hs hstop

lemma yields_declarationList (hc : ts.Closed) (hw : WellSpelled ts) (hg : Good ts g n)
    (declared : Declared) (s : State) (hs : left ts s ≤ n) (hhold : mayHold kind .declarationList = true)
    (herror : mayHold kind (.error 0) = true) :
    Yields ts kind s (declarationList ts g declared s) := by
  have entry (s : State) (hs : left ts s ≤ n) :
      Yields ts .declarationList s (declaration ts g declared (.before [.comma]) s) :=
    yields_declaration hc hw hg declared (.before [.comma]) s hs rfl
  have entries (s : State) (hs : left ts s ≤ n) : Yields ts .declarationList s
      (if at? ts s .rParen then s else
        repeatWhile ts (at? ts · .comma)
          (fun s => declaration ts g declared (.before [.comma]) (take ts .punctuation s))
          (declaration ts g declared (.before [.comma]) s)) := by
    refine .ite (fun _ => .refl s) fun _ => (entry s hs).andThen fun _ => ?_
    refine yields_repeatWhile (n := n) (fun s hs hcomma => ?_) _ (by omega)
    exact (begins_takeAt hc .punctuation hcomma (by simp)).yields.andThen fun _ => entry _ (by omega)
  refine .ite (fun _ => yields_complain _ s) fun hopen => ?_
  have hparen : nth ts s 0 = .lParen := at?_iff.1 (by simpa using hopen)
  refine (begins_group hc (by simp [hparen]) ?_ hhold herror rfl rfl).yields
  refine leads_takeAt hc .punctuation (by simpa using hparen) (by simp) rfl fun hlt => ?_
  rw [left_opening, left_deeper] at hlt
  exact (entries _ (by omega)).andThen fun _ => yields_require hc _ _ _ (by simp)

/-! ### Routines -/

lemma yields_qualifiedName (hc : ts.Closed) (s : State) : Yields ts kind s (qualifiedName ts s) := by
  refine .ite (fun _ => yields_complain _ s) fun hname => ?_
  have hname : (nth ts s 0).isName = true := by simpa [current] using hname
  refine (begins_take hc .identifier (ne_eof_of_isName hname)
    (mayTake_of_ne (ne_error_of_isName hname))).yields.andThen fun _ => ?_
  refine yields_repeatWhile (n := left ts s) (fun s _ hs => ?_) _ (by omega)
  rw [Bool.and_eq_true] at hs
  have hdot := ne_eof_of_at hs.1 (by simp)
  refine (begins_takeAt hc .punctuation hs.1 (by simp)).yields.andThen fun _ => ?_
  have hnext : nth ts (take ts .punctuation s) 0 = nth ts s 1 := nth_take hdot .punctuation 0
  exact (begins_take hc .identifier (by rw [hnext]; exact ne_eof_of_isName hs.2)
    (mayTake_of_ne (by rw [hnext]; exact ne_error_of_isName hs.2))).yields

/-- The first token of an attribute is read as its keyword, whatever it is. -/
lemma begins_routineAttribute (hc : ts.Closed) (hg : Good ts g n) (hs : left ts s ≤ n)
    (h : nth ts s 0 ≠ .eof) (hhold : mayHold kind .clause = true) :
    Begins ts kind s (routineAttribute ts g s) := by
  refine begins_node hc ?_ hhold rfl
  refine leads_takeThen hc .keyword (by simpa using h) (by simp [mayTake]) rfl fun hlt => ?_
  rw [left_opening] at hlt
  exact yields_expression hc hg _ _ (by omega) rfl rfl

lemma begins_returnsClause (hc : ts.Closed) (hw : WellSpelled ts) (hg : Good ts g n)
    (hs : left ts s ≤ n) (h : nth ts s 0 = .keyword .RETURNS) (hhold : mayHold kind .clause = true) :
    Begins ts kind s (returnsClause ts g s) := by
  have result (s : State) (hs : left ts s ≤ n) : Yields ts .clause s
      (if at? ts s (.keyword .TABLE) && nth ts s 1 == .lParen then
        declarationList ts g .column (take ts .keyword s)
      else if (Stop.before attributeStart).hit ts s || atOperator ts s "=" then s
      else node .expression (typeAtoms ts g (.before attributeStart) .empty) s) := by
    refine .ite (fun h => ?_) fun _ => .ite (fun _ => .refl s) fun hmore => ?_
    · rw [Bool.and_eq_true] at h
      exact (begins_takeAt hc .keyword h.1 (by simp)).yields.andThen fun _ =>
        yields_declarationList hc hw hg _ _ (by omega) rfl rfl
    · rw [Bool.or_eq_true, not_or, Bool.not_eq_true, Bool.not_eq_true] at hmore
      have hgo : typeGoesOn ts (.before attributeStart) .empty (s.opening .expression) = true := by
        have hstop : (Stop.before attributeStart).hit ts (s.opening .expression) = false := hmore.1
        have hequals : atOperator ts (s.opening .expression) "=" = false := hmore.2
        simp [typeGoesOn, atAny, hstop, hequals]
      refine (begins_node hc (Begins.leads ?_ (fun _ => rfl) fun _ => rfl) rfl rfl).yields
      exact begins_typeAtoms hc hw hg hs hgo rfl
  unfold returnsClause
  refine begins_node hc ?_ hhold rfl
  refine leads_takeAt hc .keyword (by simpa using h) (by simp) rfl fun hlt => ?_
  rw [left_opening] at hlt
  exact result _ (by omega)

lemma begins_routineBody (hc : ts.Closed) (hg : Good ts g n) (hs : left ts s ≤ n)
    (h : nth ts s 0 = .keyword .AS ∨ nth ts s 0 = .bodyOpen)
    (hhold : mayHold kind .functionBody = true) : Begins ts kind s (routineBody ts g s) := by
  have statements (s : State) (hs : left ts s < n) : Yields ts .functionBody s
      (require ts .bodyClose .punctuation .expectedBodyEnd (statementList ts g .empty none s)) :=
    (yields_statementList hc hg _ _ s hs rfl).andThen fun _ => yields_require hc _ _ _ (by simp)
  have constants (s : State) : Yields ts .functionBody s
      (repeatWhile ts (fun s => !(Stop.before attributeStart).hit ts s)
        (fun s => if at? ts s .error then rejectMalformed ts s else bump ts s) s) := by
    refine yields_repeatWhile (n := left ts s) (fun s _ hs => ?_) s (Nat.le_refl _)
    have h := ne_eof_of_not_hit (not_hit_of_not hs)
    refine .ite (fun _ => (begins_rejectMalformed hc h rfl).yields) fun hno => ?_
    exact (begins_bump hc h (by simpa [at?_iff] using hno)).yields
  have content (s : State) (hs : left ts s ≤ n) : Yields ts .functionBody s
      (if at? ts s .bodyOpen then
        require ts .bodyClose .punctuation .expectedBodyEnd
          (statementList ts g .empty none (take ts .punctuation s))
      else repeatWhile ts (fun s => !(Stop.before attributeStart).hit ts s)
        (fun s => if at? ts s .error then rejectMalformed ts s else bump ts s) s) := by
    refine .ite (fun h => ?_) fun _ => constants s
    have hlt := left_take hc (ne_eof_of_at h (by simp)) .punctuation
    exact (begins_takeAt hc .punctuation h (by simp)).yields.andThen fun _ => statements _ (by omega)
  unfold routineBody
  refine begins_node hc ?_ hhold rfl
  dsimp only
  rcases h with has | hopen
  · have hat : at? ts (s.opening .functionBody) (.keyword .AS) = true := at?_iff.2 has
    simp only [if_pos hat]
    refine leads_takeAt hc .keyword (at?_iff.1 hat) (by simp) rfl fun hlt => ?_
    rw [left_opening] at hlt
    exact content _ (by omega)
  · have hat : at? ts (s.opening .functionBody) .bodyOpen = true := at?_iff.2 hopen
    have hno : ¬at? ts (s.opening .functionBody) (.keyword .AS) = true := by
      rw [at?_iff, at?_iff.1 hat]
      simp
    simp only [if_neg hno, if_pos hat]
    refine leads_takeAt hc .punctuation (at?_iff.1 hat) (by simp) rfl fun hlt => ?_
    rw [left_opening] at hlt
    exact statements _ (by omega)

/-- A keyword before the one that is looked for is read, and then those after it. -/
lemma takeKeywordsThrough_of_not (hc : ts.Closed) {p : TokenKind → Bool} (h : nth ts s 0 ≠ .eof)
    (hp : p (nth ts s 0) = false) :
    takeKeywordsThrough ts p s = takeKeywordsThrough ts p (take ts .keyword s) := by
  have hgo : (!atEnd ts s && !p (current ts s)) = true := by
    rw [atEnd_eq_false_iff.2 h, current, hp]
    rfl
  have hstep := repeatWhile.eq_def ts (fun s => !atEnd ts s && !p (current ts s)) (take ts .keyword) s
  rw [if_pos hgo] at hstep
  dsimp only at hstep
  rw [if_pos (remaining_take_lt hc h .keyword)] at hstep
  rw [takeKeywordsThrough, takeKeywordsThrough, hstep]

lemma takeKeywordsThrough_of {p : TokenKind → Bool} (h : nth ts s 0 ≠ .eof)
    (hp : p (nth ts s 0) = true) : takeKeywordsThrough ts p s = take ts .keyword s := by
  have hend := atEnd_eq_false_iff.2 h
  have hgo : (!atEnd ts s && !p (current ts s)) = false := by
    rw [current, hp, Bool.not_true, Bool.and_false]
  rw [takeKeywordsThrough, repeatWhile_of_false hgo, hend]
  rfl

lemma yields_takeKeywordsThrough (hc : ts.Closed) (p : TokenKind → Bool) (s : State)
    (htake : ∀ k, mayTake kind .keyword k = true) : Yields ts kind s (takeKeywordsThrough ts p s) := by
  have word (s : State) : Yields ts kind s (take ts .keyword s) := yields_take hc fun _ => htake _
  have last (s : State) : Yields ts kind s (if atEnd ts s then s else take ts .keyword s) :=
    .ite (fun _ => .refl s) fun _ => word s
  refine Yields.andThen ?_ fun _ => last _
  exact yields_repeatWhile (fun s _ _ => word s) s (Nat.le_refl _)

lemma ne_of_isRoutineWord {k : TokenKind} (h : isRoutineWord k = true) : k ≠ .eof ∧ k ≠ .error := by
  constructor <;> rintro rfl <;> exact absurd h (by decide)

/-- The keywords of a routine are those that have been seen. -/
lemma yields_routineWords (hc : ts.Closed)
    (h : isRoutineWord (nth ts s 0) = true ∨ nth ts s 0 = .keyword .OR
      ∧ nth ts s 1 = .keyword .REPLACE ∧ isRoutineWord (nth ts s 2) = true) :
    Yields ts kind s (takeKeywordsThrough ts isRoutineWord s) := by
  have word {s : State} (h : isRoutineWord (nth ts s 0) = true) :
      Yields ts kind s (takeKeywordsThrough ts isRoutineWord s) := by
    obtain ⟨hne, herror⟩ := ne_of_isRoutineWord h
    rw [takeKeywordsThrough_of hne h]
    exact (begins_take hc .keyword hne (mayTake_of_ne herror)).yields
  rcases h with h | ⟨hor, hreplace, h⟩
  · exact word h
  · have hne : nth ts s 0 ≠ .eof := by simp [hor]
    have hreplace : nth ts (take ts .keyword s) 0 = .keyword .REPLACE := (nth_take hne _ _).trans hreplace
    have hne' : nth ts (take ts .keyword s) 0 ≠ .eof := by simp [hreplace]
    rw [takeKeywordsThrough_of_not hc hne (by rw [hor]; rfl),
      takeKeywordsThrough_of_not hc hne' (by rw [hreplace]; rfl)]
    refine (begins_take hc .keyword hne (mayTake_of_ne (by simp [hor]))).yields.andThen fun _ => ?_
    refine (begins_take hc .keyword hne' (mayTake_of_ne (by simp [hreplace]))).yields.andThen fun _ => ?_
    exact word (by rw [nth_take hne', nth_take hne]; exact h)

lemma begins_routineDefinition (hc : ts.Closed) (hw : WellSpelled ts) (hg : Good ts g n)
    (hs : left ts s ≤ n) (hcreate : nth ts s 0 = .keyword .CREATE)
    (h : atRoutineDefinition ts s = true) (hhold : mayHold kind .functionDefinition = true) :
    Begins ts kind s (routineDefinition ts g s) := by
  have arguments (s : State) (hs : left ts s ≤ n) : Yields ts .functionDefinition s
      (if at? ts s .lParen then declarationList ts g .argument s
        else complain .expectedArguments s) :=
    .ite (fun _ => yields_declarationList hc hw hg _ s hs rfl rfl) fun _ => yields_complain _ s
  unfold routineDefinition
  refine begins_node hc ?_ hhold rfl
  have hs : left ts (s.opening .functionDefinition) ≤ n := hs
  have hcreate : nth ts (s.opening .functionDefinition) 0 = .keyword .CREATE := hcreate
  have hwords : isRoutineWord (nth ts (s.opening .functionDefinition) 1) = true
      ∨ nth ts (s.opening .functionDefinition) 1 = .keyword .OR
        ∧ nth ts (s.opening .functionDefinition) 2 = .keyword .REPLACE
        ∧ isRoutineWord (nth ts (s.opening .functionDefinition) 3) = true := by
    simp only [atRoutineDefinition, Bool.and_eq_true, beq_iff_eq] at h
    simp only [nth_opening]
    split at h
    · next hreplace => exact .inr ⟨hreplace.1, hreplace.2, h⟩
    · exact .inl h
  generalize s.opening .functionDefinition = s at hs hcreate hwords
  have hne : nth ts s 0 ≠ .eof := by simp [hcreate]
  dsimp only
  rw [takeKeywordsThrough_of_not hc hne (by rw [hcreate]; rfl)]
  refine leads_takeAt hc .keyword hcreate (by simp) rfl fun hlt => ?_
  refine (yields_routineWords hc ?_).andThen fun _ => (yields_qualifiedName hc _).andThen fun _ =>
    (arguments _ (by omega)).andThen fun _ => Yields.andThen ?_ fun _ => yields_eat hc _ (by simp)
  · rw [nth_take hne, nth_take hne, nth_take hne]
    exact hwords
  · refine yields_repeatWhile (n := n) (fun s hs hgo => ?_) _ (by omega)
    have hne : nth ts s 0 ≠ .eof := ne_eof_of_not_atAny contains_alwaysStop_eof (by simpa using hgo)
    split
    · next h => exact (begins_routineBody hc hg hs (.inl h) rfl).yields
    · next h => exact (begins_returnsClause hc hw hg hs h rfl).yields
    · exact (begins_routineAttribute hc hg hs hne rfl).yields

/-- The head of a table definition may hold any tokens, and starts with a leaf. -/
lemma begins_tableDefinition (hc : ts.Closed) (hw : WellSpelled ts) (hg : Good ts g n)
    (hs : left ts s ≤ n) (hcreate : nth ts s 0 = .keyword .CREATE)
    (hhold : mayHold kind .tableDefinition = true) : Begins ts kind s (tableDefinition ts g s) := by
  have word (s : State) : Yields ts .tableDefinition s (take ts .keyword s) :=
    yields_take hc fun _ => by simp [mayTake]
  have unlessExists (s : State) : Yields ts .tableDefinition s (if at? ts s (.keyword .IF) then
      take ts .keyword (take ts .keyword (take ts .keyword s)) else s) :=
    .ite (fun _ => (word s).andThen fun _ => (word _).andThen fun _ => word _) fun _ => .refl s
  unfold tableDefinition
  refine begins_node hc ?_ hhold rfl
  have hs : left ts (s.opening .tableDefinition) ≤ n := hs
  have hcreate : nth ts (s.opening .tableDefinition) 0 = .keyword .CREATE := hcreate
  generalize s.opening .tableDefinition = s at hs hcreate
  dsimp only
  rw [takeKeywordsThrough_of_not hc (by simp [hcreate]) (by rw [hcreate]; rfl)]
  refine leads_takeAt hc .keyword hcreate (by simp) rfl fun hlt => ?_
  refine (yields_takeKeywordsThrough hc (· == .keyword .TABLE) _ fun _ => by simp [mayTake]).andThen
    fun _ => ?_
  refine (unlessExists _).andThen fun _ => (yields_qualifiedName hc _).andThen fun _ => ?_
  refine (yields_declarationList hc hw hg .column _ (by omega) rfl rfl).andThen fun _ => ?_
  refine (yields_clausesUntil hc hw hg contains_alwaysStop_eof .atClause _ (by omega) rfl).andThen
    fun _ => yields_eat hc _ (by simp)

lemma yields_doBody (hc : ts.Closed) (hg : Good ts g n) (hs : left ts s ≤ n) : Yields ts .doBlock s
    (match current ts s with
      | .bodyOpen => routineBody ts g s
      | .string | .dollarString => node .functionBody (take ts .literal) s
      | _ => complain .expectedDoBody s) := by
  have literal {k : TokenKind} (h : nth ts s 0 = k) (hk : k ≠ .eof ∧ k ≠ .error)
      (hopen : mayOpen .functionBody k = true) :
      Yields ts .doBlock s (node .functionBody (take ts .literal) s) := by
    refine (begins_node hc ?_ rfl rfl).yields
    exact leads_takeAt hc .literal (by simpa using h) hk hopen fun _ => .refl _
  split
  · next h => exact (begins_routineBody hc hg hs (.inr h) rfl).yields
  · next h => exact literal h (by simp) rfl
  · next h => exact literal h (by simp) rfl
  · exact yields_complain _ s

lemma begins_doBlock (hc : ts.Closed) (hg : Good ts g n) (hs : left ts s ≤ n)
    (h : nth ts s 0 = .keyword .DO) (hhold : mayHold kind .doBlock = true) :
    Begins ts kind s (doBlock ts g s) := by
  have language (s : State) (hs : left ts s ≤ n) : Yields ts .doBlock s
      (if at? ts s (.keyword .LANGUAGE) then routineAttribute ts g s else s) :=
    .ite (fun h => (begins_routineAttribute hc hg hs (ne_eof_of_at h (by simp)) rfl).yields)
      fun _ => .refl s
  unfold doBlock
  refine begins_node hc ?_ hhold rfl
  refine leads_takeAt hc .keyword (by simpa using h) (by simp) rfl fun hlt => ?_
  rw [left_opening] at hlt
  refine (language _ (by omega)).andThen fun _ => (yields_doBody hc hg (by omega)).andThen fun _ => ?_
  exact (language _ (by omega)).andThen fun _ => yields_eat hc _ (by simp)

/-! ### Blocks and conditionals -/

lemma label_of_not (h : atLabel ts s = false) : label ts s = s := by
  rw [label, h]
  rfl

/-- A label is read as leaves. -/
lemma leads_label (hc : ts.Closed) (h : atLabel ts s = true) (hopen : mayOpen kind .operator = true) :
    Leads ts kind s (label ts s) := by
  rw [label, if_pos h]
  simp only [atLabel, atOperator, Bool.and_eq_true, beq_iff_eq] at h
  obtain ⟨⟨⟨⟨h0, -⟩, h1⟩, h2⟩, -⟩ := h
  have hne0 := ne_eof_of_at h0 (by simp)
  have hnext : nth ts (take ts .punctuation s) 0 = nth ts s 1 := nth_take hne0 _ 0
  have hne1 : nth ts (take ts .punctuation s) 0 ≠ .eof := by
    rw [hnext]
    exact ne_eof_of_isName h1
  have hlast : nth ts (take ts .identifier (take ts .punctuation s)) 0 = .operator := by
    rw [nth_take hne1, nth_take hne0, h2]
  refine leads_takeAt hc .punctuation (at?_iff.1 h0) (by simp) hopen fun _ => ?_
  refine (begins_take hc .identifier hne1 (mayTake_of_ne ?_)).yields.andThen fun _ => ?_
  · rw [hnext]
    exact ne_error_of_isName h1
  · exact (begins_takeAt hc .punctuation (at?_iff.2 hlast) (by simp)).yields

lemma yields_endOfConstruct (hc : ts.Closed) (s : State) : Yields ts kind s (endOfConstruct ts s) := by
  refine Yields.andThen ?_ fun _ => yields_eat hc _ (by simp)
  split
  · next h => exact (begins_takeAt hc _ (at?_iff.2 h) (by simp)).yields
  · next h => exact (begins_takeAt hc _ (at?_iff.2 h) (by simp)).yields
  · exact .refl s

lemma yields_endWith (hc : ts.Closed) (word : Keyword) (cause : Complaint) (s : State) :
    Yields ts kind s (endWith ts word cause s) := by
  refine .ite (fun h => ?_) fun _ => yields_complain _ s
  refine (begins_takeAt hc .keyword h (by simp)).yields.andThen fun _ => ?_
  exact (yields_require hc _ _ _ (by simp)).andThen fun _ => yields_endOfConstruct hc _

lemma leads_declareSection (hc : ts.Closed) (hw : WellSpelled ts) (hg : Good ts g n)
    (hs : left ts s ≤ n) (h : nth ts s 0 = .keyword .DECLARE) :
    Leads ts .block s (declareSection ts g s) := by
  have hstop : (KindSet.ofList [.keyword .BEGIN, .bodyClose, .eof]).contains .eof = true :=
    KindSet.contains_ofList_iff.2 (by simp)
  unfold declareSection
  refine leads_node hc ?_ rfl rfl rfl
  refine leads_takeAt hc .keyword (by simpa using h) (by simp) rfl fun hlt => ?_
  rw [left_opening] at hlt
  refine yields_repeatWhile (n := n) (fun s hs hgo => ?_) _ (by omega)
  refine (yields_declaration hc hw hg .variable {} s hs rfl).andThen fun _ => ?_
  refine .ite (fun _ => .refl _) fun hstuck => .ite (fun h => ?_) fun _ => ?_
  · exact (begins_takeAt hc _ h (by simp)).yields
  · refine (begins_rejectToken hc _ ?_ rfl).yields
    rw [nth, not_not.1 hstuck]
    exact ne_eof_of_not_atAny hstop (by simpa using hgo)

lemma begins_exceptionSection (hc : ts.Closed) (hg : Good ts g n) (hs : left ts s ≤ n)
    (h : nth ts s 0 = .keyword .EXCEPTION) (hhold : mayHold kind .exceptionSection = true) :
    Begins ts kind s (exceptionSection ts g s) := by
  unfold exceptionSection
  refine begins_node hc ?_ hhold rfl
  refine leads_takeAt hc .keyword (by simpa using h) (by simp) rfl fun hlt => ?_
  rw [left_opening] at hlt
  refine yields_repeatWhile (n := n) (fun s hs hwhen => ?_) _ (by omega)
  exact (begins_whenBranch hc hg _ _ hs (at?_iff.1 hwhen) rfl).yields

lemma yields_blockBody (hc : ts.Closed) (hg : Good ts g n) (s : State) (hs : left ts s < n) :
    Yields ts .block s (blockBody ts g s) := by
  have handlers (s : State) (hs : left ts s ≤ n) : Yields ts .block s
      (if at? ts s (.keyword .EXCEPTION) then exceptionSection ts g s else s) :=
    .ite (fun h => (begins_exceptionSection hc hg hs (at?_iff.1 h) rfl).yields) fun _ => .refl s
  have ending (s : State) : Yields ts .block s (if at? ts s (.keyword .END) then
      endOfConstruct ts (take ts .keyword s) else complain .expectedEnd s) :=
    .ite (fun h => (begins_takeAt hc .keyword h (by simp)).yields.andThen fun _ =>
      yields_endOfConstruct hc _) fun _ => yields_complain _ s
  refine (yields_statementList hc hg (.ofList [.keyword .EXCEPTION, .keyword .END]) none s hs
    rfl).andThen fun _ => ?_
  exact (handlers _ (by omega)).andThen fun _ => ending _

/-- A block starts with its label, its declarations or `BEGIN`. -/
lemma begins_block (hc : ts.Closed) (hw : WellSpelled ts) (hg : Good ts g n) (hs : left ts s ≤ n)
    (hne : nth ts s 0 ≠ .eof) (h : nth ts s (if atLabel ts s then 3 else 0) = .keyword .DECLARE
      ∨ nth ts s (if atLabel ts s then 3 else 0) = .keyword .BEGIN)
    (hhold : mayHold kind .block = true) (herror : mayHold kind (.error 0) = true) :
    Begins ts kind s (block ts g s) := by
  have declared (s : State) (hs : left ts s ≤ n) : Yields ts .block s
      (if at? ts s (.keyword .DECLARE) then declareSection ts g s else s) :=
    .ite (fun h => (leads_declareSection hc hw hg hs (at?_iff.1 h)).yields) fun _ => .refl s
  have body (s : State) (hs : left ts s ≤ n) : Yields ts .block s (if at? ts s (.keyword .BEGIN) then
      blockBody ts g (take ts .keyword s) else complain .expectedBegin s) := by
    refine .ite (fun h => ?_) fun _ => yields_complain _ s
    have hlt := left_take hc (ne_eof_of_at h (by simp)) .keyword
    exact (begins_takeAt hc .keyword h (by simp)).yields.andThen fun _ =>
      yields_blockBody hc hg _ (by omega)
  refine begins_group hc hne ?_ hhold herror rfl rfl
  have hs : left ts (s.deeper.opening .block) ≤ n := hs
  rw [← nth_deeper, ← nth_opening .block, atLabel_congr (s := s) (t := s.deeper.opening .block) rfl] at h
  generalize s.deeper.opening .block = s at hs h
  dsimp only
  cases hlabel : atLabel ts s with
  | true =>
    refine (leads_label hc hlabel rfl).andThen fun _ => ?_
    exact (declared _ (by omega)).andThen fun _ => body _ (by omega)
  | false =>
    rw [hlabel, if_neg (by simp)] at h
    rw [label_of_not hlabel]
    rcases h with hdeclare | hbegin
    · rw [if_pos (at?_iff.2 hdeclare)]
      exact (leads_declareSection hc hw hg hs hdeclare).andThen fun _ => body _ (by omega)
    · have hno : ¬at? ts s (.keyword .DECLARE) = true := by
        rw [at?_iff, hbegin]
        simp
      simp only [if_neg hno, if_pos (at?_iff.2 hbegin)]
      exact leads_takeAt hc .keyword hbegin (by simp) rfl fun hlt => yields_blockBody hc hg _ (by omega)

/-- A branch starts with its keyword. -/
lemma leads_conditionalBranch (hc : ts.Closed) (hg : Good ts g n) (hs : left ts s ≤ n)
    (hne : nth ts s 0 ≠ .eof) (herror : nth ts s 0 ≠ .error) :
    Leads ts .ifStatement s (conditionalBranch ts g s) := by
  have statements (s : State) (hs : left ts s < n) : Yields ts .conditionalBranch s
      (statementList ts g (.ofList [.keyword .ELSIF, .keyword .ELSE, .keyword .END]) none s) :=
    yields_statementList hc hg _ _ s hs rfl
  have condition (s : State) (hs : left ts s < n) : Yields ts .conditionalBranch s
      (require ts (.keyword .THEN) .keyword .expectedThen
        (expression ts g .expression (.before [.keyword .THEN]) s)) :=
    (yields_expression hc hg _ s (by omega) rfl rfl).andThen fun _ => yields_require hc _ _ _ (by simp)
  refine leads_node hc ?_ rfl rfl rfl
  refine leads_takeThen hc .keyword (by simpa using hne) (mayTake_of_ne (by simpa using herror)) rfl
    fun hlt => ?_
  rw [left_opening] at hlt
  dsimp only
  split
  · exact statements _ (by omega)
  · exact (condition _ (by omega)).andThen fun _ => statements _ (by omega)

lemma begins_ifStatement (hc : ts.Closed) (hg : Good ts g n) (hs : left ts s ≤ n)
    (h : nth ts s 0 = .keyword .IF) (hhold : mayHold kind .ifStatement = true)
    (herror : mayHold kind (.error 0) = true) : Begins ts kind s (ifStatement ts g s) := by
  refine begins_group hc (by simp [h]) ?_ hhold herror rfl rfl
  have hs : left ts (s.deeper.opening .ifStatement) ≤ n := hs
  have h : nth ts (s.deeper.opening .ifStatement) 0 = .keyword .IF := by simpa using h
  generalize s.deeper.opening .ifStatement = s at hs h
  refine (leads_conditionalBranch hc hg hs (by simp [h]) (by simp [h])).andThen fun _ => ?_
  refine Yields.andThen (yields_repeatWhile (n := n) (fun s hs hmore => ?_) _ (by omega)) fun _ =>
    yields_endWith hc _ _ _
  rw [Bool.or_eq_true, at?_iff, at?_iff] at hmore
  exact (leads_conditionalBranch hc hg hs (by rcases hmore with h | h <;> simp [h])
    (by rcases hmore with h | h <;> simp [h])).yields

/-! ### Loops -/

/-- The end of a loop starts with `LOOP` or with a complaint that it is missing. -/
lemma derives_loopRest (hc : ts.Closed) (hg : Good ts g n) (s : State) (hs : left ts s ≤ n) :
    ∃ xs, Derives ts .loopStatement s xs (if at? ts s (.keyword .LOOP) then
        endWith ts .LOOP .expectedEndLoop
          (statementList ts g (.ofList [.keyword .END]) none (take ts .keyword s))
        else complain .expectedLoop s)
      ∧ atLoop ts (ts.significantFrom s.pos) xs := by
  split
  · next h =>
    have hloop := at?_iff.1 h
    have hne : nth ts s 0 ≠ .eof := by simp [hloop]
    have hlt := left_take hc hne .keyword
    obtain ⟨ys, hys⟩ : Yields ts .loopStatement (take ts .keyword s) (endWith ts .LOOP .expectedEndLoop
        (statementList ts g (.ofList [.keyword .END]) none (take ts .keyword s))) :=
      (yields_statementList hc hg _ _ _ (by omega) rfl).andThen fun _ => yields_endWith hc _ _ _
    refine ⟨_, (derives_take hc .keyword hne (mayTake_of_ne (by simp [hloop]))).append hys, ?_⟩
    exact (headKind_significantFrom hc s).trans hloop
  · refine ⟨[.error .expectedLoop], ⟨.complain _ (.nil _ _ _), rfl, ?_⟩, trivial⟩
    simp [complain, Item.eventsOf, Item.events]

/-- A loop over a query, from its query on. The query may be empty. -/
lemma yields_queryLoop (hc : ts.Closed) (hw : WellSpelled ts) (hg : Good ts g n) (hs : left ts s ≤ n)
    (hrest : left ts (embeddedQuery ts g (.keyword .LOOP) s) ≤ left ts s →
      ∃ xs, Derives ts .loopStatement (embeddedQuery ts g (.keyword .LOOP) s) xs u
        ∧ atLoop ts (ts.significantFrom (embeddedQuery ts g (.keyword .LOOP) s).pos) xs) :
    Yields ts .loopStatement s u := by
  have hkinds : (alwaysStop.union (.ofList [.keyword .LOOP])).contains .eof = true := by
    rw [KindSet.contains_union, contains_alwaysStop_eof, Bool.true_or]
  cases hstop : atAny ts s (alwaysStop.union (.ofList [.keyword .LOOP])) with
  | false =>
    have hstop : atAny ts (s.opening .statement) (alwaysStop.union (.ofList [.keyword .LOOP])) = false :=
      hstop
    have hquery : Begins ts .statement (s.opening .statement) _ :=
      begins_clausesUntil hc hw hg hkinds (Stop.atClause.also [.keyword .LOOP]) hs hstop rfl
    have hnode : Begins ts .loopStatement s (embeddedQuery ts g (.keyword .LOOP) s) :=
      begins_node hc (hquery.leads (fun _ => rfl) fun _ => rfl) rfl rfl
    refine hnode.yields.andThen fun hle => ?_
    obtain ⟨xs, hxs, -⟩ := hrest hle
    exact ⟨xs, hxs⟩
  | true =>
    have hempty : embeddedQuery ts g (.keyword .LOOP) s = (s.opening .statement).closing := by
      rw [embeddedQuery, node_eq, clausesUntil, repeatWhile_of_false]
      rw [show atAny ts (s.opening .statement) (alwaysStop.union (.ofList [.keyword .LOOP])) = true
        from hstop]
      rfl
    obtain ⟨xs, hxs, hloop⟩ := hrest (by rw [hempty]; exact Nat.le_refl _)
    rw [hempty] at hxs hloop
    refine ⟨.node .statement [] :: xs, .query hloop hxs.shaped, hxs.depth, ?_⟩
    rw [hxs.events]
    simp [State.closing, State.opening, Item.eventsOf, Item.events]

/-- The token that is read for the `IN` of a loop is well formed. -/
lemma ne_error_of_hit {kinds : List TokenKind} (hkinds : .error ∉ kinds)
    (h : (Stop.before kinds).hit ts s = true) : nth ts s 0 ≠ .error := by
  intro herror
  simp only [Stop.hit, Stop.before, Bool.false_and, Bool.or_false, atAny, current, herror,
    KindSet.contains_union, Bool.or_eq_true, KindSet.contains_ofList_iff] at h
  exact h.elim hkinds (by simp [alwaysStop, KindSet.contains_ofList_iff])

lemma leads_loop (hc : ts.Closed) (hw : WellSpelled ts) (hg : Good ts g n) (hs : left ts s ≤ n)
    (h : at? ts s (.keyword .LOOP) = true ∨ nth ts s 0 ≠ .eof ∧ nth ts s 0 ≠ .error) :
    Leads ts .loopStatement s
      (if at? ts (loopHead ts g s) (.keyword .LOOP) then
        endWith ts .LOOP .expectedEndLoop
          (statementList ts g (.ofList [.keyword .END]) none (take ts .keyword (loopHead ts g s)))
      else complain .expectedLoop (loopHead ts g s)) := by
  have rest (s : State) (hs : left ts s ≤ n) := derives_loopRest hc hg s hs
  cases hloop : at? ts s (.keyword .LOOP) with
  | true =>
    have hhead : loopHead ts g s = s := by rw [loopHead, hloop]; rfl
    rw [hhead, if_pos hloop]
    refine leads_takeAt hc .keyword (at?_iff.1 hloop) (by simp) rfl fun hlt => ?_
    exact (yields_statementList hc hg _ _ _ (by omega) rfl).andThen fun _ => yields_endWith hc _ _ _
  | false =>
    obtain ⟨hne, herror⟩ := h.resolve_left (by simp [hloop])
    refine leads_takeThen hc .keyword hne (mayTake_of_ne herror) rfl fun hlt => ?_
    have expr (stop : Stop) : Yields ts .loopStatement (take ts .keyword s)
        (expression ts g .expression stop (take ts .keyword s)) :=
      yields_expression hc hg stop _ (by omega) rfl rfl
    unfold loopHead
    simp only [hloop, Bool.false_eq_true, if_false]
    split
    · next hquery =>
      -- The targets end where `IN` is, or where every expression ends.
      have hhit := hit_expression hg (.before [.keyword .IN]) (take ts .keyword s) (by omega)
      refine (expr (.before [.keyword .IN])).andThen fun _ => ?_
      refine Yields.andThen (yields_take hc fun _ => mayTake_of_ne (ne_error_of_hit (by simp) hhit))
        fun _ => yields_queryLoop hc hw hg (by omega) fun _ => rest _ (by omega)
    · obtain ⟨xs, hxs, -⟩ := rest (expression ts g .expression (.before [.keyword .LOOP])
        (take ts .keyword s)) (Nat.le_trans (expr _).left_le (by omega))
      exact (expr _).andThen fun _ => ⟨xs, hxs⟩

lemma begins_loopStatement (hc : ts.Closed) (hw : WellSpelled ts) (hg : Good ts g n) (hs : left ts s ≤ n)
    (hne : nth ts s 0 ≠ .eof) (h : nth ts s (if atLabel ts s then 3 else 0) ≠ .eof
      ∧ nth ts s (if atLabel ts s then 3 else 0) ≠ .error)
    (hhold : mayHold kind .loopStatement = true) (herror : mayHold kind (.error 0) = true) :
    Begins ts kind s (loopStatement ts g s) := by
  refine begins_group hc hne ?_ hhold herror rfl rfl
  have hs : left ts (s.deeper.opening .loopStatement) ≤ n := hs
  rw [← nth_deeper, ← nth_opening .loopStatement,
    atLabel_congr (s := s) (t := s.deeper.opening .loopStatement) rfl, ← nth_label] at h
  generalize s.deeper.opening .loopStatement = s at hs h
  dsimp only
  cases hlabel : atLabel ts s with
  | true =>
    refine (leads_label hc hlabel rfl).andThen fun _ => ?_
    exact (leads_loop hc hw hg (by omega) (.inr h)).yields
  | false =>
    rw [label_of_not hlabel] at h ⊢
    exact leads_loop hc hw hg hs (.inr h)

/-! ### Statements -/

/-- Statements may be of any kind, errors included. -/
lemma mayHold_of_isStatement {k : NodeKind} (hkind : kind = .root ∨ kind = .statementList)
    (hk : (k.isStatement || k.isError) = true) : mayHold kind k = true := by
  rcases hkind with rfl | rfl <;> exact hk

lemma begins_bodyStatement (hc : ts.Closed) (hw : WellSpelled ts) (hg : Good ts g n)
    (hs : left ts s ≤ n) (hne : nth ts s 0 ≠ .eof)
    (hstart : atAny ts s alwaysStop = false ∨ nth ts s 0 = .semicolon)
    (hkind : kind = .root ∨ kind = .statementList) : Begins ts kind s (bodyStatement ts g s) := by
  have hold {k : NodeKind} := @mayHold_of_isStatement kind k hkind
  have clauses := begins_clauseStatement hc hw hg hs hstart (hold rfl)
  have loop (k : Keyword) (hk : nth ts s (if atLabel ts s then 3 else 0) = .keyword k) :
      Begins ts kind s (loopStatement ts g s) :=
    begins_loopStatement hc hw hg hs hne (by rw [hk]; simp) (hold rfl) (hold rfl)
  unfold bodyStatement
  dsimp only
  split
  · next hk => exact begins_block hc hw hg hs hne (.inl hk) (hold rfl) (hold rfl)
  · next hk => exact begins_block hc hw hg hs hne (.inr hk) (hold rfl) (hold rfl)
  · next hk => exact loop _ hk
  · next hk => exact loop _ hk
  · next hk => exact loop _ hk
  · next hk => exact loop _ hk
  · next hk =>
    refine .ite (fun _ => clauses) fun hlabel => begins_ifStatement hc hg hs ?_ (hold rfl) (hold rfl)
    rwa [if_neg hlabel] at hk
  · next hk =>
    refine .ite (fun _ => clauses) fun hlabel => begins_caseStatement hc hg hs ?_ (hold rfl) (hold rfl)
    rwa [if_neg hlabel] at hk
  · exact clauses

lemma begins_otherStatement (hc : ts.Closed) (hw : WellSpelled ts) (hg : Good ts g n) (inBody : Bool)
    (hs : left ts s ≤ n) (hne : nth ts s 0 ≠ .eof) (hparen : nth ts s 0 ≠ .rParen)
    (hclose : nth ts s 0 ≠ .bodyClose) (hkind : kind = .root ∨ kind = .statementList) :
    Begins ts kind s (otherStatement ts g inBody s) := by
  have hstart : atAny ts s alwaysStop = false ∨ nth ts s 0 = .semicolon := by
    rw [or_iff_not_imp_left, Bool.not_eq_false, atAny, alwaysStop, KindSet.contains_ofList_iff]
    simp [current, hne, hparen, hclose]
  exact .ite (fun _ => begins_bodyStatement hc hw hg hs hne hstart hkind) fun _ =>
    begins_clauseStatement hc hw hg hs hstart (mayHold_of_isStatement hkind rfl)

/-- A statement reads a token, and makes a node of it that may stand among statements. -/
lemma begins_statement (hc : ts.Closed) (hw : WellSpelled ts) (hg : Good ts g n) (inBody : Bool)
    (hs : left ts s ≤ n) (hne : nth ts s 0 ≠ .eof) (hkind : kind = .root ∨ kind = .statementList) :
    Begins ts kind s (statement ts g inBody s) := by
  have hold {k : NodeKind} := @mayHold_of_isStatement kind k hkind
  have other (hparen : nth ts s 0 ≠ .rParen) (hclose : nth ts s 0 ≠ .bodyClose) :=
    begins_otherStatement hc hw hg inBody hs hne hparen hclose hkind
  unfold statement
  split
  · next hcreate =>
    have hcreate : nth ts s 0 = .keyword .CREATE := hcreate
    have other := other (by simp [hcreate]) (by simp [hcreate])
    exact .ite (fun h => begins_routineDefinition hc hw hg hs hcreate h (hold rfl)) fun _ =>
      .ite (fun _ => begins_tableDefinition hc hw hg hs hcreate (hold rfl)) fun _ => other
  · next hdo =>
    have hdo : nth ts s 0 = .keyword .DO := hdo
    exact .ite (fun _ => begins_doBlock hc hg hs hdo (hold rfl)) fun _ =>
      other (by simp [hdo]) (by simp [hdo])
  · next hend =>
    have hend : nth ts s 0 = .keyword .END := hend
    exact .ite (fun _ => other (by simp [hend]) (by simp [hend])) fun _ =>
      begins_rejectToken hc _ hne (hold rfl)
  · exact begins_rejectToken hc _ hne (hold rfl)
  · exact begins_rejectToken hc _ hne (hold rfl)
  · exact begins_rejectMalformed hc hne (hold rfl)
  · next hparen hclose _ => exact other hparen hclose

/-! ### The grammar as a whole -/

/-- The recursive rules are good for as many tokens as they are unfolded. -/
lemma good_rules (hc : ts.Closed) (hw : WellSpelled ts) (depth : Nat) :
    Good ts (rules ts depth) depth := by
  induction depth with
  | zero =>
    -- Below the last unfolding no tokens are left.
    refine ⟨fun kind stop s _ hne hs => ?_, fun s h hs => ?_, fun kind inBody s _ _ hs => ?_⟩
    · have := left_take hc hne .keyword
      omega
    · have := left_take hc (s := s) (by simp [h]) .keyword
      omega
    · omega
  | succ depth ih =>
    refine ⟨fun kind stop s hkind hne hs => ?_, fun s h hs => ?_, fun kind inBody s hkind hne hs => ?_⟩
    · exact begins_atom hc hw ih stop hs hne hkind
    · exact begins_parenthesized hc hw ih hs h rfl rfl
    · exact begins_statement hc hw ih inBody (by omega) hne hkind

/-- The forest of a run is a root of the shape that the grammar gives to roots. -/
theorem shaped_forest (hc : ts.Closed) (hw : WellSpelled ts) :
    ∃ items, forest ts = [.node .root items]
      ∧ Shaped ts .root 0 (ts.significantFrom 0) items (ts.significantFrom (run ts).pos) := by
  have hleft : left ts (State.opening .root {}) < ts.size + 2 := by
    have hfilter := List.length_filter_le (fun j => !(ts.kind j).isTrivia)
      (List.range' 0 (ts.lastIndex - 0))
    have hsize : ts.lastIndex < ts.size := ts.lastIndex_lt_size
    rw [List.length_range'] at hfilter
    change ((List.range' 0 (ts.lastIndex - 0)).filter fun j => !(ts.kind j).isTrivia).length < _
    omega
  obtain ⟨items, hitems⟩ : Yields ts .root (State.opening .root {})
      (repeatWhile ts (fun s => !atEnd ts s) (guardedStatement ts (rules ts (ts.size + 2)) false)
        (State.opening .root {})) := by
    refine yields_repeatWhile (n := ts.size + 1) (fun s hs hmore => ?_) _ (by omega)
    exact (begins_guardedStatement hc (good_rules hc hw _) false (by omega)
      (atEnd_eq_false_iff.1 (by simpa using hmore)) (.inl rfl)).yields
  refine ⟨items, ?_, hitems.shaped⟩
  have hevents : (run ts).events.reverse = Item.eventsOf [.node .root items] := by
    have hrun : (run ts).events = .close :: (repeatWhile ts (fun s => !atEnd ts s)
      (guardedStatement ts (rules ts (ts.size + 2)) false) (State.opening .root {})).events := rfl
    rw [hrun, hitems.events]
    simp [State.opening, Item.eventsOf, Item.events]
  rw [forest, hevents, Item.outline_eventsOf]

end SqlLayout.Grammar
