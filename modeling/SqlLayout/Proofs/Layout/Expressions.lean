import SqlLayout.Layout.CaseOf
import SqlLayout.Layout.Expression
import SqlLayout.Proofs.Layout.Ensures

/-!
# Expressions and groups lose nothing

Leaves show themselves; expressions, calls, groups in brackets and `CASE` show their children. A group
is laid out twice where the narrower of two layouts is taken, and a branch of `CASE` once more up to its
`THEN` where these line up; only one of the layouts is appended.
-/

namespace SqlLayout.Sheet

variable {sh : Sheet} {render : Render} {id : Nat} {ctx : Context} {column : Nat} {children : List Nat}
  {buf : LineBuffer} {parts : Parts}

/-! ### Leaves -/

lemma shown_leaf (hsh : sh.Clean) {role : LeafRole} (hid : id < sh.tree.size)
    (hkind : sh.tree.kind id = .leaf role) : Shown sh (sh.leaf id role column) (sh.content id) := by
  have hsolid := hsh.solid_leaf hid hkind
  have htext : sh.pieceText id = Text.withoutReturns (sh.leafText id role) := by rw [pieceText, hkind]
  have hline : sh.isLineComment id = false := by simp [isLineComment, isComment, hkind]
  rw [hsh.content_leaf hid hkind]
  unfold leaf
  dsimp only
  split
  · refine Shows.setLast ?_ _
    refine (shows_empty rfl).piece (b := LineBuffer.startingAt column) rfl
      (htext ▸ hsolid.withoutReturns) ?_
      (by simp [hline])
    rw [LineBuffer.body_pushVerbatim, htext, Text.join_linesOf hsolid]
    rfl
  · next hfeed =>
    have hpiece : Written sh ([] ++ sh.pieceText id) ([] ++ [id]) (sh.isLineComment id) :=
      .piece (htext ▸ hsolid.withoutReturns) .nil
    rw [hline, htext, Text.withoutReturns_of_not_mem (by simpa using hfeed)] at hpiece
    exact ⟨[id], hpiece, rfl⟩

lemma shown_comment (hsh : sh.Clean) (hid : id < sh.tree.size) (hkind : sh.tree.kind id = .comment) :
    Shown sh (sh.comment id column) (sh.content id) :=
  Shows.appendComment hsh hid hkind (shows_empty rfl)

/-! ### Expressions and calls -/

lemma Shows.breakBeforeOperand (h : Shows sh buf parts) (parent : NodeKind) (children : List Nat)
    (continuation child trailing : Nat) :
    Shows sh (sh.breakBeforeOperand parent children continuation child trailing buf) parts :=
  .ite h.newline (.ite h.newline h)

lemma ensures_expression (hsh : sh.Clean)
    (hr : ∀ child ∈ sh.visibleChildren id, Renders sh render child) :
    Ensures (Keeps sh) (sh.expression render id ctx column)
      (Shown sh · (sh.contents (sh.visibleChildren id))) := by
  refine ensures_onOneLineOr hsh hr ?_
  refine .foldlM (Prod.fst ∘ Prod.fst) (map_withRest_zipIdx _) (fun x hx buf parts h => ?_)
    (shows_empty rfl)
  refine .ite (fun hcomment => .pure ?_) fun _ => ?_
  · exact h.appendComment hsh (hr _ hx).1 (by simpa [isComment] using hcomment)
  · exact ensures_appendChild hsh _ (hr _ hx) (whole_child _ _) (.ite (h.breakBeforeOperand _ _ _ _ _) h)

lemma ensures_functionCall (hsh : sh.Clean)
    (hr : ∀ child ∈ sh.visibleChildren id, Renders sh render child) :
    Ensures (Keeps sh) (sh.functionCall render id ctx column)
      (Shown sh · (sh.contents (sh.visibleChildren id))) := by
  refine ensures_onOneLineOr hsh hr ?_
  refine .foldlM Prod.fst (map_withRest _) (fun x hx buf parts h => ?_) (shows_empty rfl)
  exact ensures_appendChild hsh .functionCall (hr x.1 hx) (whole_child _ _) h

/-! ### Groups -/

/-- The opening bracket of a group, if there is one, is its first child. -/
lemma opening_isPrefix (p : Nat → Bool) (children : List Nat) :
    (children.take 1).filter p <+: children := by
  cases children with
  | nil => exact List.nil_prefix
  | cons child rest =>
    rw [List.take_succ_cons, List.take_zero, List.filter_cons]
    split
    · exact ⟨rest, rfl⟩
    · exact List.nil_prefix

lemma isLeafOf_unique {kind : TokenKind} (kind' : TokenKind)
    (h : sh.tree.isLeafOf id kind = true) (hne : kind ≠ kind') :
    sh.tree.isLeafOf id kind' = false := by
  unfold Tree.isLeafOf at h ⊢
  split at h
  · rw [beq_iff_eq] at h
    rw [h]
    exact beq_eq_false_iff_ne.2 hne
  · rfl

/-- What stands in a group after its opening bracket ends with the closing one. -/
lemma content_append_closing (hnodup : children.Nodup) :
    let closing := sh.closingParen? children
    let opening := (children.take 1).filter fun c => sh.tree.isLeafOf c .lParen
    let inner := children.drop opening.length
    (inner.filter fun c => some c != closing) ++ closing.toList = inner := by
  intro closing opening inner
  cases hclosing : closing with
  | none => simp
  | some close =>
    obtain ⟨hlast, hparen⟩ := Option.filter_eq_some_iff.1 hclosing
    obtain ⟨front, rfl⟩ := List.getLast?_eq_some_iff.1 hlast
    -- The closing bracket is not the opening one, so it stands behind it.
    have hlength : opening.length ≤ front.length := by
      cases front with
      | nil =>
        have hleft := isLeafOf_unique .lParen hparen (by decide)
        simp [opening, hleft]
      | cons child front =>
        have hone : opening.length ≤ 1 := (List.length_filter_le _ _).trans (by simp)
        simp only [List.length_cons]
        omega
    have hinner : inner = front.drop opening.length ++ [close] := List.drop_append_of_le_length hlength
    have hnew : ∀ c ∈ front.drop opening.length, (some c != some close) = true := by
      intro c hc
      have hne := (List.nodup_append.1 hnodup).2.2 c (List.mem_of_mem_drop hc) close (by simp)
      simpa using hne
    rw [hinner, List.filter_append, List.filter_eq_self.2 hnew]
    simp

lemma Shows.startContent (h : Shows sh buf parts) (isFirst : Bool) (content : Option Nat) :
    Shows sh (match isFirst, content with
      | true, some start => buf.beginLineAt start
      | _, _ => buf) parts := by
  split
  · exact h.beginLineAt _
  · exact h

lemma ensures_groupContent (hsh : sh.Clean) (hr : ∀ child ∈ children, Renders sh render child)
    (hctx : ctx.isMeasuring = false) (placement : Placement) (isFirst : Bool) (h : Shows sh buf parts) :
    Ensures (Keeps sh) (sh.groupContent render placement ctx isFirst children buf)
      (Shows sh · (parts ++ sh.contents children)) := by
  induction children generalizing isFirst buf parts with
  | nil => exact .pure (by simpa using h)
  | cons child rest ih =>
    have ih {buf parts} isFirst := @ih buf parts (fun c hc => hr c (by simp [hc])) isFirst
    unfold groupContent
    rw [contents_cons, ← Parts.append_assoc]
    refine (ensures_appendChild hsh .parenthesized (hr child (by simp)) (.inl hctx)
      (h.startContent isFirst placement.content)).bind fun buf hbuf => ?_
    exact ih _ hbuf

lemma ensures_groupClose (hr : Renders sh render id) (hparen : sh.tree.isLeafOf id .rParen = true)
    (placement : Placement) (h : Shows sh buf parts) :
    Ensures (Keeps sh) (groupClose render placement id ctx column buf) (Shows sh · (parts ++ sh.content id)) := by
  refine ensures_appendHere hr (whole_of_isLeafOf hparen) ?_ ?_
  · split
    · exact h.newlineAt _
    · exact .ite (h.newlineAt column) h
  · split
    · rfl
    · split
      · rfl
      · next hbreak => simpa using hbreak

lemma ensures_placedGroup (hsh : sh.Clean)
    (hr : ∀ child ∈ sh.visibleChildren id, Renders sh render child) (placement : Placement) :
    Ensures (Keeps sh) (sh.placedGroup render placement id ctx column)
      (Shows sh · (sh.contents (sh.visibleChildren id))) := by
  have hnodup : (sh.visibleChildren id).Nodup := (hsh.faithful.nodup id).filter _
  have hclosing := @content_append_closing sh _ hnodup
  dsimp only at hclosing
  rw [← contents_of_isPrefix (opening_isPrefix (sh.tree.isLeafOf · .lParen) (sh.visibleChildren id)),
    ← hclosing, contents_append, ← Parts.append_assoc]
  refine (ensures_appendChildren hsh .parenthesized (fun c hc => ?_) (fun c hc => ?_)
    (shows_empty rfl)).bind fun buf hopening => ?_
  · exact hr c (List.mem_of_mem_take (List.mem_of_mem_filter hc))
  · exact whole_of_isLeafOf (List.mem_filter.1 hc).2
  refine (ensures_groupContent hsh (fun c hc => ?_) rfl placement true hopening).bind
    fun buf hcontent => ?_
  · exact hr c (List.mem_of_mem_drop (List.mem_of_mem_filter hc))
  split
  · next close hclose =>
    obtain ⟨hlast, hparen⟩ := Option.filter_eq_some_iff.1 hclose
    have hchild := hr close (List.mem_of_getLast? hlast)
    rw [hclose] at hcontent ⊢
    simpa using ensures_groupClose hchild hparen placement hcontent
  · next hclose =>
    rw [hclose] at hcontent ⊢
    exact .pure (by simpa using hcontent)

lemma ensures_group (hsh : sh.Clean) (hr : ∀ child ∈ sh.visibleChildren id, Renders sh render child) :
    Ensures (Keeps sh) (sh.group render id ctx column) (Shown sh · (sh.contents (sh.visibleChildren id))) := by
  refine ensures_onOneLineOr hsh hr ?_
  unfold brokenGroup
  dsimp only
  split
  · exact ensures_placedGroup hsh hr _
  · refine (ensures_placedGroup hsh hr _).bind fun under hunder => ?_
    refine .ite (fun _ => .pure hunder) fun _ => ?_
    refine (ensures_placedGroup hsh hr _).bind fun indented hindented => .pure ?_
    exact .ite hindented hunder

/-! ### Branches of `CASE` -/

lemma any_measuring (ctx : Context) : (ctx.caseBranch?.any (·.1 = .measuring)) = ctx.isMeasuring := by
  unfold Context.caseBranch? Context.isMeasuring
  cases ctx.overlay with
  | none => rfl
  | declarations => rfl
  | caseBranch phase column => cases phase <;> rfl

lemma Shows.moveToThen (h : Shows sh buf parts) (branch : Option (CasePhase × Option Nat)) :
    Shows sh (sh.moveToThen branch column buf) parts := by
  unfold Sheet.moveToThen
  split
  · exact h.newlineAt _
  · exact .ite (h.padTo _) (h.separate true)
  · exact h.separate true

lemma pendingBreak_moveToThen (branch : Option (CasePhase × Option Nat)) (buf : LineBuffer) :
    (sh.moveToThen branch column buf).pendingBreak = false := by
  unfold moveToThen
  split
  · rfl
  · split
    · next hbreak =>
      rw [Bool.and_eq_true, Bool.not_eq_true'] at hbreak
      rw [pendingBreak_padTo]
      exact hbreak.2
    · exact pendingBreak_separate _ _
  · exact pendingBreak_separate _ _

lemma ensures_appendResult (hsh : sh.Clean) (hr : ∀ child ∈ children, Renders sh render child)
    (parent : NodeKind) (h : Shows sh buf parts) :
    Ensures (Keeps sh) (sh.appendResult render parent children ctx column buf)
      (Shows sh · (parts ++ sh.contents children)) := by
  refine .foldlM (fun child => child) (List.map_id' _) (fun child hchild buf parts h => ?_) h
  refine .ite (fun hkind => ?_) fun _ => ?_
  · exact ensures_appendHere (hr child hchild) (.inr (by simp [hkind])) (h.newlineAt _) rfl
  · exact ensures_appendChild hsh parent (hr child hchild) (whole_child _ _) h

/-- A branch shows its children unless it is only measured. -/
lemma ensures_brokenWhen (hsh : sh.Clean)
    (hr : ∀ child ∈ sh.visibleChildren id, Renders sh render child) :
    Ensures (Keeps sh) (sh.brokenWhen render id ctx column)
      fun buf => ctx.isMeasuring = false → Shows sh buf (sh.contents (sh.visibleChildren id)) := by
  have hhead := List.takeWhile_prefix (l := sh.visibleChildren id)
    fun child => !sh.tree.isLeafOf child (.keyword .THEN)
  rw [← contents_of_isPrefix hhead]
  refine (ensures_appendChildren hsh .whenBranch (fun c hc => hr c (List.takeWhile_subset _ hc))
    (fun c _ => whole_child _ _) (shows_empty rfl)).bind fun buf hbuf => ?_
  dsimp only
  split
  · next hrest =>
    rw [hrest]
    exact .pure fun _ => by simpa using hbuf
  · next keyword result hrest =>
    have hmem : ∀ c ∈ keyword :: result, Renders sh render c := by
      intro c hc
      rw [← hrest] at hc
      exact hr c (List.mem_of_mem_drop hc)
    rw [any_measuring, hrest]
    refine .ite (fun hmeasuring => .pure ?_) fun hwhole => ?_
    · simp [hmeasuring]
    · rw [contents_cons, ← Parts.append_assoc]
      refine (ensures_appendHere (hmem keyword (by simp)) (.inl (by simpa using hwhole))
        (hbuf.moveToThen _) (pendingBreak_moveToThen _ _)).bind fun buf hbuf => ?_
      refine (ensures_appendResult hsh (fun c hc => hmem c (by simp [hc])) .whenBranch hbuf).mono ?_
      exact fun buf hbuf _ => hbuf

lemma not_isMeasuring_of_whenMayInline (h : sh.whenMayInline ctx.caseBranch? = true) :
    ctx.isMeasuring = false := by
  rw [← any_measuring]
  unfold whenMayInline at h
  split at h
  · next hbranch => simp [hbranch]
  · next hbranch => simp [hbranch]
  · exact absurd h (by simp)
  · next hbranch => simp [hbranch]

lemma ensures_whenBranch (hsh : sh.Clean)
    (hr : ∀ child ∈ sh.visibleChildren id, Renders sh render child) :
    Ensures (Keeps sh) (sh.whenBranch render id ctx column) fun piece =>
      ctx.isMeasuring = false → Shown sh piece (sh.contents (sh.visibleChildren id)) := by
  have hbroken : Ensures (Keeps sh) (sh.brokenWhen render id ctx column) _ := ensures_brokenWhen hsh hr
  refine .ite (fun hinline => ?_) fun _ => ?_
  · have hwhole := not_isMeasuring_of_whenMayInline hinline
    refine (ensures_onOneLineOr hsh hr (hbroken.mono fun buf hbuf => hbuf hwhole)).mono ?_
    exact fun piece hpiece _ => hpiece
  · exact hbroken.bind fun buf hbuf => .pure hbuf

lemma ensures_elseBranch (hsh : sh.Clean)
    (hr : ∀ child ∈ sh.visibleChildren id, Renders sh render child) :
    Ensures (Keeps sh) (sh.elseBranch render id ctx column)
      (Shown sh · (sh.contents (sh.visibleChildren id))) :=
  ensures_onOneLineOr hsh hr (ensures_appendResult hsh hr .elseBranch (shows_empty rfl))

/-! ### The whole of `CASE` -/

/-- Measuring the branches only fills the cache. -/
lemma ensures_thenColumn (hr : ∀ child ∈ children, Renders sh render child) :
    Ensures (Keeps sh) (sh.thenColumn? render children column) fun _ => True := by
  refine (Ensures.loop (fun _ parts => parts = {}) (fun _ => []) (fun x hx _ _ hparts => ?_)
    rfl).bind fun _ _ => .pure trivial
  exact ((hr x (List.mem_of_mem_filter hx)).2 _ _).bind fun _ _ => .pure (by simp [hparts])

lemma Shows.moveToEnd (h : Shows sh buf parts) (isStatement : Bool) (whenColumn : Nat) :
    Shows sh (sh.moveToEnd isStatement column whenColumn buf) parts := by
  refine .ite (h.newlineAt column) ?_
  split
  · exact h.newlineAt column
  · exact h.newlineAt whenColumn
  · exact h.separate true

lemma pendingBreak_moveToEnd (isStatement : Bool) (whenColumn : Nat) (buf : LineBuffer) :
    (sh.moveToEnd isStatement column whenColumn buf).pendingBreak = false := by
  unfold moveToEnd
  split
  · rfl
  · split
    · rfl
    · rfl
    · exact pendingBreak_separate _ _

lemma ensures_appendBranch (hr : Renders sh render id) (frame : CaseFrame) (isFirst isLast : Bool)
    (h : Shows sh buf parts) :
    Ensures (Keeps sh) (sh.appendBranch render frame id isFirst isLast buf)
      (Shows sh · (parts ++ sh.content id)) := by
  refine ensures_appendHere hr (.inl rfl) (.ite (h.padTo _) (h.newlineAt _)) ?_
  split
  · next hstays =>
    rw [Bool.and_eq_true, Bool.not_eq_true'] at hstays
    rw [pendingBreak_padTo]
    exact hstays.2
  · rfl

lemma ensures_appendParts (hsh : sh.Clean) (hr : ∀ child ∈ children, Renders sh render child)
    (frame : CaseFrame) (isFirst ended : Bool) (h : Shows sh buf parts) :
    Ensures (Keeps sh) (sh.appendParts render frame isFirst ended children buf)
      (Shows sh · (parts ++ sh.contents children)) := by
  induction children generalizing isFirst ended buf parts with
  | nil => exact .pure (by simpa using h)
  | cons child rest ih =>
    have hchild := hr child (by simp)
    have ih {buf parts} isFirst ended := @ih buf parts (fun c hc => hr c (by simp [hc])) isFirst ended
    rw [appendParts, contents_cons, ← Parts.append_assoc]
    refine .ite (fun hend => ?_) fun _ => .ite (fun _ => ?_) fun _ => ?_
    · rw [Bool.and_eq_true] at hend
      refine (ensures_appendHere hchild (whole_of_isLeafOf hend.2) (h.moveToEnd _ _)
        (pendingBreak_moveToEnd _ _ _)).bind fun buf hbuf => ?_
      exact ih _ _ hbuf
    · refine (ensures_appendBranch hchild frame _ _ h).bind fun buf hbuf => ?_
      exact ih _ _ hbuf
    · refine (ensures_appendChild hsh .caseOf hchild (whole_child _ _) h).bind fun buf hbuf => ?_
      exact ih _ _ hbuf

lemma ensures_brokenCase (hsh : sh.Clean)
    (hr : ∀ child ∈ sh.visibleChildren id, Renders sh render child) :
    Ensures (Keeps sh) (sh.brokenCase render id ctx column)
      (Shows sh · (sh.contents (sh.visibleChildren id))) := by
  have hhead := List.takeWhile_prefix (l := sh.visibleChildren id)
    fun c => !(isBranch (sh.tree.kind c) || sh.isEnd c)
  have hparts (n : Nat) : ∀ child ∈ (sh.visibleChildren id).drop n, Renders sh render child :=
    fun c hc => hr c (List.mem_of_mem_drop hc)
  rw [← contents_of_isPrefix hhead]
  refine (ensures_appendChildren hsh .caseOf (fun c hc => hr c (List.takeWhile_subset _ hc))
    (fun c _ => whole_child _ _) (shows_empty rfl)).bind fun buf hbuf => ?_
  refine .ite (fun _ => ?_) fun _ => ?_
  · refine (ensures_thenColumn (hparts _)).bind fun thenColumn _ => ?_
    exact ensures_appendParts hsh (hparts _) _ true false hbuf
  · exact ensures_appendParts hsh (hparts _) _ true false hbuf

lemma ensures_caseOf (hsh : sh.Clean) (hr : ∀ child ∈ sh.visibleChildren id, Renders sh render child) :
    Ensures (Keeps sh) (sh.caseOf render id ctx column) (Shown sh · (sh.contents (sh.visibleChildren id))) := by
  have hbroken : Ensures (Keeps sh) (sh.brokenCase render id ctx column) _ := ensures_brokenCase hsh hr
  refine .ite (fun _ => ?_) fun _ => ?_
  · exact hbroken.bind fun buf hbuf => .pure hbuf
  · exact ensures_onOneLineOr hsh hr hbroken

end SqlLayout.Sheet
