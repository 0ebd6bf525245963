import SqlLayout.Layout.Control
import SqlLayout.Layout.Statement
import SqlLayout.Proofs.Layout.Ensures

/-!
# Statements and blocks lose nothing

Statements, clauses, blocks, conditionals and loops show their children: each child is appended once, and
where it is appended without a separation, no line break is due.
-/

namespace SqlLayout.Sheet

variable {sh : Sheet} {render : Render} {id : Nat} {ctx : Context} {column : Nat} {children : List Nat}
  {buf : LineBuffer} {parts : Parts}

/-! ### Several statements -/

lemma Shows.statementGap (h : Shows sh buf parts) : Shows sh (sh.statementGap buf) parts :=
  .ite (h.newlineAt 0) ((h.newlineAt 0).newlineAt 0)

@[simp] lemma pendingBreak_statementGap (buf : LineBuffer) :
    (sh.statementGap buf).pendingBreak = false := by
  unfold statementGap
  split <;> rfl

lemma Shows.gapBeforeComment (h : Shows sh buf parts) (previous : TopEntry) (ownLine : Bool) :
    Shows sh (sh.gapBeforeComment previous ownLine buf) parts := by
  unfold Sheet.gapBeforeComment
  split
  · exact h.statementGap
  · exact h.newlineAt 0
  · exact h

lemma Shows.gapBeforeStatement (h : Shows sh buf parts) (previous : TopEntry) :
    Shows sh (sh.gapBeforeStatement previous buf) parts := by
  unfold Sheet.gapBeforeStatement
  split
  · exact h
  · exact h.statementGap
  · exact .ite (h.newlineAt 0) h.pushSpace

/-- A statement can be appended after its gap, if it can where nothing has been written. -/
lemma pendingBreak_gapBeforeStatement {previous : TopEntry}
    (h : previous = .nothing → buf.pendingBreak = false) :
    (sh.gapBeforeStatement previous buf).pendingBreak = false := by
  cases previous with
  | nothing => exact h rfl
  | statement => exact pendingBreak_statementGap buf
  | comment =>
    unfold gapBeforeStatement
    dsimp only
    split
    · rfl
    · next hbreak => simpa using hbreak

lemma ensures_appendTopEntries (hsh : sh.Clean) {previous : TopEntry}
    (hr : ∀ child ∈ children, Renders sh render child) (h : Shows sh buf parts)
    (hfirst : previous = .nothing → buf.pendingBreak = false) :
    Ensures (Keeps sh) (sh.appendTopEntries render previous children buf)
      (Shows sh · (parts ++ sh.contents children)) := by
  induction children generalizing previous buf parts with
  | nil => exact .pure (by simpa using h)
  | cons child rest ih =>
    have hchild := hr child (by simp)
    have ih {previous buf parts} := @ih previous buf parts fun c hc => hr c (by simp [hc])
    rw [appendTopEntries, contents_cons, ← Parts.append_assoc]
    refine .ite (fun hcomment => ?_) fun _ => ?_
    · have hkind : sh.tree.kind child = .comment := by simpa [isComment] using hcomment
      refine ih ((h.gapBeforeComment _ _).appendComment hsh hchild.1 hkind) fun hentry => ?_
      -- A comment is itself an entry where nothing stands before it.
      split_ifs at hentry with hown
      exact absurd (by simp [hentry]) hown
    · refine (ensures_appendHere hchild (.inl rfl) (h.gapBeforeStatement previous)
        (pendingBreak_gapBeforeStatement hfirst)).bind fun buf hbuf => ?_
      exact ih hbuf (by simp)

lemma ensures_root (hsh : sh.Clean) (hr : ∀ child ∈ sh.visibleChildren id, Renders sh render child) :
    Ensures (Keeps sh) (sh.root render id) (Shown sh · (sh.contents (sh.visibleChildren id))) :=
  (ensures_appendTopEntries hsh hr (shows_empty rfl) fun _ => rfl).bind fun _ hbuf => .pure hbuf

lemma ensures_statementList (hsh : sh.Clean)
    (hr : ∀ child ∈ sh.visibleChildren id, Renders sh render child) :
    Ensures (Keeps sh) (sh.statementList render id column) (Shown sh · (sh.contents (sh.visibleChildren id))) := by
  have hstart : Shows sh (LineBuffer.startingAt column) {} := shows_empty rfl
  unfold statementList
  refine (Ensures.foldlM Prod.fst (List.zipIdx_map_fst _ _) (fun x hx buf parts h => ?_) hstart).bind
    fun buf hbuf => .pure hbuf
  refine .ite (fun hcomment => .pure ?_) fun _ => ?_
  · exact h.appendComment hsh (hr x.1 hx).1 (by simpa [isComment] using hcomment)
  · refine ensures_appendHere (hr x.1 hx) (whole_indentedAt column) (.ite (h.newlineAt column) h) ?_
    split
    · rfl
    · next hbreak =>
      rw [Bool.not_eq_true, Bool.or_eq_false_iff] at hbreak
      exact hbreak.2

/-! ### Statements and clauses -/

lemma ensures_appendClauses (hsh : sh.Clean) (hr : ∀ child ∈ children, Renders sh render child)
    (seenClause : Bool) (h : Shows sh buf parts) :
    Ensures (Keeps sh) (sh.appendClauses render ctx column seenClause children buf)
      (Shows sh · (parts ++ sh.contents children)) := by
  induction children generalizing seenClause buf parts with
  | nil => exact .pure (by simpa using h)
  | cons child rest ih =>
    have ih {buf parts} seenClause := @ih buf parts (fun c hc => hr c (by simp [hc])) seenClause
    rw [appendClauses, contents_cons, ← Parts.append_assoc]
    refine (ensures_appendChild hsh .statement (hr child (by simp)) (whole_child column _)
      (.ite (h.newlineAt column) h)).bind fun buf hbuf => ?_
    exact ih _ hbuf

lemma ensures_statement (hsh : sh.Clean)
    (hr : ∀ child ∈ sh.visibleChildren id, Renders sh render child) :
    Ensures (Keeps sh) (sh.statement render id ctx column) (Shown sh · (sh.contents (sh.visibleChildren id))) :=
  ensures_onOneLineOr hsh hr (ensures_appendClauses hsh hr false (shows_empty rfl))

lemma Shows.startBody (h : Shows sh buf parts) (started : Bool) (ownLine : Option Nat) :
    Shows sh (match started, ownLine with
      | false, some start => buf.beginLineAt start
      | _, _ => buf) parts := by
  split
  · exact h.beginLineAt _
  · exact h

lemma ensures_appendClauseBody (hsh : sh.Clean) (hr : ∀ child ∈ children, Renders sh render child)
    (ownLine : Option Nat) (started : Bool) (h : Shows sh buf parts) :
    Ensures (Keeps sh) (sh.appendClauseBody render ctx column ownLine started children buf)
      (Shows sh · (parts ++ sh.contents children)) := by
  induction children generalizing started buf parts with
  | nil => exact .pure (by simpa using h)
  | cons child rest ih =>
    have hchild := hr child (by simp)
    have ih {buf parts} started := @ih buf parts (fun c hc => hr c (by simp [hc])) started
    unfold appendClauseBody
    rw [contents_cons, ← Parts.append_assoc]
    refine .ite (fun _ => ?_) fun _ => ?_
    · refine (ensures_appendChild hsh .clause hchild (whole_child column _) h).bind fun buf hbuf => ?_
      exact ih _ hbuf
    · refine (ensures_appendChild hsh .clause hchild (whole_child _ _)
        (h.startBody started ownLine)).bind fun buf hbuf => ?_
      exact ih _ hbuf

lemma ensures_appendClauseKeywords (hsh : sh.Clean) (hr : ∀ child ∈ children, Renders sh render child)
    (body : List Nat) (h : Shows sh buf parts) :
    Ensures (Keeps sh) (sh.appendClauseKeywords render ctx column body children buf)
      (Shows sh · (parts ++ sh.contents children)) := by
  induction children generalizing buf parts with
  | nil => exact .pure (by simpa using h)
  | cons child rest ih =>
    have ih {buf parts} := @ih buf parts fun c hc => hr c (by simp [hc])
    rw [appendClauseKeywords, contents_cons, ← Parts.append_assoc]
    exact (ensures_appendChild hsh .clause (hr child (by simp)) (whole_child column _) h).bind
      fun buf hbuf => ih hbuf

lemma ensures_clause (hsh : sh.Clean) (hr : ∀ child ∈ sh.visibleChildren id, Renders sh render child) :
    Ensures (Keeps sh) (sh.clause render id ctx column) (Shown sh · (sh.contents (sh.visibleChildren id))) := by
  refine ensures_onOneLineOr hsh hr ?_
  have hhead := List.takeWhile_prefix (l := sh.visibleChildren id) sh.isKeywordLeaf
  rw [← contents_of_isPrefix hhead]
  refine (ensures_appendClauseKeywords hsh (fun c hc => hr c (List.takeWhile_subset _ hc)) _
    (shows_empty rfl)).bind fun buf hbuf => ?_
  exact ensures_appendClauseBody hsh (fun c hc => hr c (List.mem_of_mem_drop hc)) _ _ hbuf

/-! ### Blocks, conditionals and loops -/

lemma ensures_appendControl (hsh : sh.Clean) (hr : ∀ child ∈ children, Renders sh render child)
    (kind : NodeKind) (afterLabel : Bool) (h : Shows sh buf parts) :
    Ensures (Keeps sh) (sh.appendControl render kind column afterLabel children buf)
      (Shows sh · (parts ++ sh.contents children)) := by
  induction children generalizing afterLabel buf parts with
  | nil => exact .pure (by simpa using h)
  | cons child rest ih =>
    have hchild := hr child (by simp)
    have ih {buf parts} afterLabel := @ih buf parts (fun c hc => hr c (by simp [hc])) afterLabel
    have hplaced : Shows sh (if afterLabel then buf.beginLineAt column else buf) parts :=
      .ite (h.beginLineAt column) h
    rw [appendControl, contents_cons, ← Parts.append_assoc]
    refine .ite (fun hkind => ?_) fun _ => .ite (fun _ => ?_) fun _ => .ite (fun _ => ?_) fun _ =>
      .ite (fun _ => ?_) fun _ => ?_
    · exact ih _ (h.appendComment hsh hchild.1 hkind)
    · refine (ensures_appendHere hchild (whole_indentedAt _) (hplaced.newlineAt _) rfl).bind
        fun buf hbuf => ?_
      exact ih _ hbuf
    · refine (ensures_appendHere hchild (whole_indentedAt column) (hplaced.beginLineAt column)
        (pendingBreak_beginLineAt _ _)).bind fun buf hbuf => ?_
      exact ih _ hbuf
    · refine (ensures_appendChild hsh kind hchild (whole_indentedAt column)
        (hplaced.beginLineAt column)).bind fun buf hbuf => ?_
      exact ih _ hbuf
    · refine (ensures_appendChild hsh kind hchild (whole_child column _) hplaced).bind
        fun buf hbuf => ?_
      exact ih _ hbuf

lemma ensures_control (hsh : sh.Clean) (hr : ∀ child ∈ sh.visibleChildren id, Renders sh render child) :
    Ensures (Keeps sh) (sh.control render id column) (Shown sh · (sh.contents (sh.visibleChildren id))) :=
  (ensures_appendControl hsh hr _ false (shows_empty rfl)).bind fun _ hbuf => .pure hbuf

lemma ensures_exceptionSection (hsh : sh.Clean)
    (hr : ∀ child ∈ sh.visibleChildren id, Renders sh render child) :
    Ensures (Keeps sh) (sh.exceptionSection render id column)
      (Shown sh · (sh.contents (sh.visibleChildren id))) := by
  refine (Ensures.foldlM (fun child => child) (List.map_id' _) (fun child hchild buf parts h => ?_)
    (shows_empty rfl)).bind fun buf hbuf => .pure hbuf
  refine .ite (fun _ => ?_) fun _ => ?_
  · exact ensures_appendHere (hr child hchild) (whole_indentedAt _) (h.newlineAt _) rfl
  · exact ensures_appendChild hsh .exceptionSection (hr child hchild) (whole_indentedAt column) h

end SqlLayout.Sheet
