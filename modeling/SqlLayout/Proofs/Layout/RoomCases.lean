import SqlLayout.Proofs.Layout.RoomExpressions

/-!
# `CASE` keeps within its room

The column of `THEN` is as far right as the widest condition gets, so the conditions of all branches have room
before it, and what comes from `THEN` on has room behind it.
-/

namespace SqlLayout.Sheet

variable {sh : Sheet} {I : Cache Policy → Prop} {render : RenderIn BoundedLayout}
  {id child : Nat} {children : List Nat} {ctx : Context} {b : LineBuffer}
  {start low high column r n : Nat}

/-! ### Branches of `CASE` -/

lemma widens_appendResult (hframe : sh.Frame low high) (hr : ∀ child ∈ children, sh.KeepsRoom I render child)
    (hindent : ctx.indent ≤ low) (hcolumn : column + sh.indent ≤ low) (parent : NodeKind) :
    Widens I start low high (sh.rooms children) (sh.appendResult render parent children ctx column) := by
  refine .foldlM (fun child => child) (List.map_id' _) fun child hchild b r n hlow hhigh hb =>
    .ite (fun hlist => ?_) fun _ => ?_
  · have hsuits : sh.Suits child ctx := suits_of_kind (by simp [hlist]) (by simp [hlist])
    exact (hr child hchild).appendOnLine hframe hsuits hlow (by omega) (by omega) hhigh hb
  · exact (hr child hchild).appendChild hframe (suits_of_none rfl) _ hlow
      (show column + sh.indent ≤ r + 4 by omega) hhigh (hb.further 3)

lemma inRoom_moveToThen {branch : Option (CasePhase × Option Nat)} (hcolumn : column + sh.indent ≤ r)
    (htarget : ∀ phase target, branch = some (phase, some target) → target ≤ r) (hb : b.InRoom start r n) :
    (sh.moveToThen branch column b).InRoom start (r + 1) n := by
  unfold moveToThen
  split
  · exact (hb.newlineAt hcolumn).further 1
  · next target _ =>
    split_ifs
    · exact (hb.padTo (htarget _ _ rfl)).further 1
    · exact hb.separate true
  · exact hb.separate true

/-- The columns that a branch starts from leave room for its condition, and for its result if that is laid out. -/
lemma HasRoom.frame_branch {right : Nat} (h : sh.HasRoom (sh.needs id ctx) id ctx column right)
    (ht : sh.tree.Ordered) (hkind : sh.tree.kind id = .whenBranch) :
    ∃ low, sh.Frame low right ∧ column + sh.indent ≤ low ∧ ctx.indent ≤ low
      ∧ low + sh.rooms ((sh.visibleChildren id).takeWhile sh.isNoThen) ≤ right
      ∧ (ctx.isMeasuring = false →
        low + sh.rooms ((sh.visibleChildren id).takeWhile sh.isNoThen)
            + sh.rooms ((sh.visibleChildren id).dropWhile sh.isNoThen) = right
          ∧ ∀ phase target, ctx.caseBranch? = some (phase, some target) →
            target ≤ low + sh.rooms ((sh.visibleChildren id).takeWhile sh.isNoThen)) := by
  have hsplit := headRoom_add_resultRoom hkind
  have hreach : sh.indent ≤ sh.reach := by
    rw [reach]
    omega
  obtain ⟨hline, hcolumn, hindent, hbound, hthen, -⟩ := h
  have hthen := hthen hkind
  have hneeds : sh.needs id ctx = if ctx.isMeasuring then sh.headRoom id else sh.pieceRoom id := by
    simp [needs, hkind]
  rw [hneeds] at hline hcolumn hindent
  rw [headRoom] at hsplit hline hcolumn hindent
  rw [resultRoom] at hsplit hthen
  cases hmeasuring : ctx.isMeasuring with
  | true =>
    rw [hmeasuring, if_pos rfl] at hline hcolumn hindent
    exact ⟨right - sh.rooms ((sh.visibleChildren id).takeWhile sh.isNoThen), ⟨ht, by omega, hbound⟩, by omega,
      by omega, by omega, fun hno => absurd hno.symm Bool.false_ne_true⟩
  | false =>
    rw [hmeasuring, if_neg Bool.false_ne_true] at hline hcolumn hindent
    refine ⟨right - sh.rooms ((sh.visibleChildren id).dropWhile sh.isNoThen)
      - sh.rooms ((sh.visibleChildren id).takeWhile sh.isNoThen), ⟨ht, by omega, hbound⟩, by omega, by omega,
      by omega, fun _ => ⟨by omega, fun phase target heq => ?_⟩⟩
    have htarget := hthen phase target heq
    omega

lemma drop_length_takeWhile (q : Nat → Bool) (ids : List Nat) :
    ids.drop (ids.takeWhile q).length = ids.dropWhile q := by
  have hsplit := List.prefix_iff_eq_append.1 (List.takeWhile_prefix (l := ids) q)
  exact List.append_cancel_left (hsplit.trans List.takeWhile_append_dropWhile.symm)

section Branches

variable {right : Nat} (ht : sh.tree.Ordered) (hr : ∀ child ∈ sh.visibleChildren id, sh.KeepsRoom I render child)

include ht hr

/-- A branch that is measured needs no room from its `THEN` on. -/
lemma succeeds_brokenWhen (hkind : sh.tree.kind id = .whenBranch)
    (h : sh.HasRoom (sh.needs id ctx) id ctx column right) :
    Succeeds I (sh.brokenWhen render id ctx column) (·.InRoom column right (sh.pieceRoom id)) := by
  have hown : sh.rooms (sh.visibleChildren id) ≤ sh.pieceRoom id := Nat.le_add_left _ _
  have hsplit : sh.rooms ((sh.visibleChildren id).takeWhile sh.isNoThen)
      + sh.rooms ((sh.visibleChildren id).dropWhile sh.isNoThen) = sh.rooms (sh.visibleChildren id) := by
    rw [← rooms_append, List.takeWhile_append_dropWhile]
  obtain ⟨low, hframe, hinner, hctx, hhigh, hwhole⟩ := h.frame_branch ht hkind
  have hcondition : ∀ c ∈ (sh.visibleChildren id).takeWhile sh.isNoThen, sh.KeepsRoom I render c := fun c hc =>
    hr c (List.takeWhile_subset _ hc)
  have hresult : ∀ c ∈ (sh.visibleChildren id).dropWhile sh.isNoThen, sh.KeepsRoom I render c := fun c hc =>
    hr c (List.dropWhile_subset _ hc)
  have hkeyword := List.head?_dropWhile_not sh.isNoThen (sh.visibleChildren id)
  unfold brokenWhen
  dsimp only
  rw [show (fun child => !sh.tree.isLeafOf child (.keyword .THEN)) = sh.isNoThen from rfl,
    drop_length_takeWhile, any_measuring]
  refine Succeeds.bind (widens_appendChildren hframe hcondition (fun c _ => suits_of_none rfl) hinner _ _ low 0
    (Nat.le_refl _) hhigh (.startingAt (by omega) hinner 0)) fun b hb => ?_
  generalize (sh.visibleChildren id).dropWhile sh.isNoThen = rest at *
  cases rest with
  | nil => exact .pure (hb.mono hhigh (by omega))
  | cons keyword result =>
    have hleaf : sh.tree.isLeafOf keyword (.keyword .THEN) = true := by simpa [isNoThen] using hkeyword
    refine .ite (fun _ => .pure (hb.mono hhigh (by omega))) fun hno => ?_
    obtain ⟨hright, htarget⟩ := hwhole (by simpa using hno)
    rw [rooms_cons] at hright hsplit
    have hmoved := inRoom_moveToThen (show column + sh.indent ≤ _ by omega) htarget hb
    refine Succeeds.bind ((hresult keyword (by simp)).appendHere hframe (suits_of_isLeafOf hleaf)
      (Nat.le_add_right low _) (by omega) (by omega) (hmoved.further 3)) fun b hb => ?_
    exact (widens_appendResult hframe (fun c hc => hresult c (by simp [hc])) hctx hinner _ b _ _ (by omega) (by omega)
      hb).mono fun b hb => hb.mono (by omega) (by omega)

lemma succeeds_whenBranch (hkind : sh.tree.kind id = .whenBranch)
    (h : sh.HasRoom (sh.needs id ctx) id ctx column right) :
    Succeeds I (sh.whenBranch render id ctx column) (·.New column right (sh.pieceRoom id)) := by
  have hbroken := succeeds_brokenWhen ht hr hkind h
  refine .ite (fun hinline => ?_) fun _ => ?_
  · rw [needs_of_whole (.inl (not_isMeasuring_of_whenMayInline hinline))] at h
    exact succeeds_onOneLineOr ht hr h hbroken
  · exact hbroken.bind fun b hb => .pure (hb.new h.bound)

lemma succeeds_elseBranch (h : sh.HasRoom (sh.pieceRoom id) id ctx column right) :
    Succeeds I (sh.elseBranch render id ctx column) (·.New column right (sh.pieceRoom id)) := by
  obtain ⟨low, hframe, hcolumn, hindent, hright⟩ := h.frame ht
  have hinner : column + sh.indent ≤ low := by
    rw [reach] at hcolumn
    omega
  exact succeeds_onOneLineOr ht hr h
    ((widens_appendResult hframe hr (by omega) hinner .elseBranch).run hcolumn hinner hright)

end Branches

/-! ### The whole of `CASE` -/

/-- Columns for the branches `WHEN` among children up to their `THEN`, and for a space after each. -/
def headsRoom (sh : Sheet) (ids : List Nat) : Nat :=
  (ids.map fun id => if sh.tree.kind id = .whenBranch then sh.headRoom id + 1 else 0).sum

/-- Columns for what comes after the column of `THEN`. -/
def partRoom (sh : Sheet) (id : Nat) : Nat :=
  if sh.tree.kind id = .whenBranch then sh.resultRoom id else sh.room id

/-- Columns for the parts of a `CASE` after the column of `THEN`. -/
def partsRoom (sh : Sheet) (ids : List Nat) : Nat :=
  (ids.map sh.partRoom).sum

lemma headsRoom_add_partsRoom_le (ht : sh.tree.Ordered) (ids : List Nat) :
    sh.headsRoom ids + sh.partsRoom ids ≤ sh.rooms ids := by
  induction ids with
  | nil => exact Nat.le_refl _
  | cons id ids ih =>
    have hroom := sh.pieceRoom_add_le_room ht id
    simp only [headsRoom, partsRoom, partRoom, List.map_cons, List.sum_cons, rooms_cons] at ih ⊢
    split
    · next hkind =>
      have hsplit := headRoom_add_resultRoom hkind
      omega
    · omega

lemma headRoom_lt_headsRoom {ids : List Nat} (hmem : id ∈ ids) (hkind : sh.tree.kind id = .whenBranch) :
    sh.headRoom id < sh.headsRoom ids := by
  induction ids with
  | nil => exact absurd hmem List.not_mem_nil
  | cons i ids ih =>
    rw [headsRoom, List.map_cons, List.sum_cons, ← headsRoom]
    rcases List.mem_cons.1 hmem with rfl | hmem
    · rw [if_pos hkind]
      omega
    · exact (ih hmem).trans_le (Nat.le_add_left _ _)

/-- The column of `THEN` is right of the branches that are measured. -/
lemma succeeds_thenColumn (hframe : sh.Frame low high) (hr : ∀ child ∈ children, sh.KeepsRoom I render child)
    (hcolumn : column ≤ low) (hhigh : low + sh.headsRoom children ≤ high) :
    Succeeds I (sh.thenColumn? render children column)
      fun then? => ∀ target, then? = some target → target ≤ low + sh.headsRoom children := by
  have hbound := hframe.bound
  have hline := hframe.line
  unfold thenColumn?
  dsimp only
  have hwidest : Succeeds I ((children.filter fun b => sh.tree.kind b == .whenBranch).foldlM
      (fun known branch => do
        let head ← render branch
          { Context.indentedAt column with overlay := .caseBranch .measuring none } column
        return if head.isSingleLine then widest known head.endColumn else known) none)
      fun known => ∀ c, known = some c → c < low + sh.headsRoom children := by
    refine Succeeds.steps (fun branch hbranch known hknown => ?_) fun c hc => absurd hc (Option.not_mem_none c)
    obtain ⟨hmem, hkind⟩ := List.mem_filter.1 hbranch
    have hkind : sh.tree.kind branch = .whenBranch := by simpa using hkind
    have hheads := headRoom_lt_headsRoom hmem hkind
    have hneeds (ctx : Context) (hctx : ctx.isMeasuring = true) : sh.needs branch ctx = sh.headRoom branch :=
      if_pos ⟨hkind, hctx⟩
    have hhas := hr branch hmem { Context.indentedAt column with overlay := .caseBranch .measuring none } column
      (low + sh.headRoom branch) (by
        rw [hneeds _ rfl]
        refine ⟨by omega, by omega, Nat.add_le_add_right hcolumn _, by omega, fun _ phase target heq => ?_,
          fun hno => absurd hno (by simp [hkind])⟩
        exact absurd heq (by simp [Context.caseBranch?]))
    refine hhas.bind fun piece hpiece => .pure ?_
    have hend := hpiece.endColumn_le
    split
    · intro c hc
      obtain rfl := Option.some.inj hc
      cases known with
      | none => exact (show piece.endColumn < _ by omega)
      | some known =>
        have hbefore := hknown known rfl
        exact (show max piece.endColumn known < _ by omega)
    · exact hknown
  refine hwidest.bind fun known hknown => .pure fun target htarget => ?_
  obtain ⟨c, hc, rfl⟩ := Option.map_eq_some_iff.1 htarget
  exact hknown c hc

/-- Columns of a frame that leave room for the branches: those of `WHEN` take `heads` up to their `THEN`. -/
structure FrameInRoom (sh : Sheet) (low heads : Nat) (frame : CaseFrame) : Prop where
  indent : frame.ctx.indent ≤ low
  column : frame.column ≤ low
  whenColumn : frame.whenColumn + sh.indent ≤ low
  thenColumn : ∀ target, frame.thenColumn = some target → target ≤ low + heads

lemma FrameInRoom.branchColumn_le {frame : CaseFrame} {heads : Nat} (h : sh.FrameInRoom low heads frame)
    (kind : NodeKind) :
    sh.branchColumn frame kind ≤ low + heads ∧ (kind = .whenBranch → sh.branchColumn frame kind ≤ low) := by
  obtain ⟨-, -, hwhen, hthen⟩ := h
  unfold branchColumn
  split
  · next helse =>
    refine ⟨?_, fun hno => absurd hno (by simp [helse.1])⟩
    cases heq : frame.thenColumn with
    | none => exact (show frame.whenColumn + sh.indent ≤ low + heads by omega)
    | some target => exact hthen target heq
  · exact ⟨by omega, fun _ => by omega⟩

/-- The condition of a branch takes the columns up to `THEN`, and its result those from there on. -/
lemma add_pieceRoom_le_partRoom {heads far : Nat} (ht : sh.tree.Ordered)
    (hheads : sh.tree.kind child = .whenBranch → sh.headRoom child ≤ heads) (hcolumn : column ≤ far)
    (hwhen : sh.tree.kind child = .whenBranch → column + heads ≤ far) :
    column + sh.pieceRoom child ≤ far + sh.partRoom child := by
  unfold partRoom
  split
  · next hkind =>
    have hwhen := hwhen hkind
    have hheads := hheads hkind
    have hsplit := headRoom_add_resultRoom hkind
    omega
  · have hroom := sh.pieceRoom_add_le_room ht child
    omega

/--
A branch gets past the column of `THEN` by its result only. Where it starts no line, it is the first, and
nothing has got that far right yet.
-/
lemma succeeds_appendBranch {frame : CaseFrame} {heads far : Nat} (hframe : sh.Frame low high)
    (hr : sh.KeepsRoom I render child) (hcase : sh.FrameInRoom low heads frame)
    (hheads : sh.tree.kind child = .whenBranch → sh.headRoom child ≤ heads)
    (hbranch : isBranch (sh.tree.kind child) = true) (isFirst isLast : Bool) (hlow : low ≤ r) (hle : r ≤ far)
    (hfar : low + heads ≤ far) (hfirst : isFirst = true → r + heads ≤ far)
    (hhigh : far + sh.partRoom child ≤ high) (hb : b.InRoom start r n) :
    Succeeds I (sh.appendBranch render frame child isFirst isLast b)
      (·.InRoom start (far + sh.partRoom child) (n + sh.room child)) := by
  have hroom := sh.pieceRoom_add_le_room hframe.ordered child
  have hline := hframe.line
  have hbound := hframe.bound
  obtain ⟨hcolumn, hcolumnWhen⟩ := hcase.branchColumn_le (sh.tree.kind child)
  obtain ⟨-, -, hwhen, hthen⟩ := hcase
  unfold appendBranch
  dsimp only
  generalize hplaced : (if isFirst && _ && _ && _ then b.padTo frame.whenColumn else b.newlineAt _) = placed
  have hinRoom : placed.InRoom start far n := by
    rw [← hplaced]
    split
    · exact (hb.padTo (by omega)).mono hle (Nat.le_refl _)
    · exact (hb.mono hle (Nat.le_refl _)).newlineAt (by omega)
  have hstarts : sh.tree.kind child = .whenBranch → placed.column + heads ≤ far := by
    intro hkind
    rw [← hplaced]
    split
    · next hstays =>
      simp only [Bool.and_eq_true] at hstays
      have hpadded : (b.padTo frame.whenColumn).column ≤ r := (hb.padTo (by omega)).column
      have hfirst := hfirst hstays.1.1.1
      omega
    · have hwhen := hcolumnWhen hkind
      exact (show sh.branchColumn frame (sh.tree.kind child) + heads ≤ far by omega)
  have hneed (c : Nat) (hc : c ≤ far) (hwhen : sh.tree.kind child = .whenBranch → c + heads ≤ far) :
      c + sh.pieceRoom child ≤ far + sh.partRoom child := add_pieceRoom_le_partRoom hframe.ordered hheads hc hwhen
  have hhas (ctx : Context) (hindent : ctx.indent = sh.branchColumn frame (sh.tree.kind child))
      (hoverlay : ctx.overlay = .caseBranch .normal frame.thenColumn) :
      sh.HasRoom (sh.needs child ctx) child ctx placed.column (far + sh.partRoom child) := by
    have hcase : ctx.caseBranch? = some (.normal, frame.thenColumn) := by simp [Context.caseBranch?, hoverlay]
    have hwhole : ctx.isMeasuring = false := by simp [Context.isMeasuring, hoverlay]
    rw [needs_of_whole (.inl hwhole)]
    refine ⟨hneed _ (by omega) fun _ => by omega, hneed _ hinRoom.column hstarts,
      hindent ▸ hneed _ (hcolumn.trans hfar) fun hkind => ?_, by omega, fun hkind phase target heq => ?_, fun hkind => ?_⟩
    · exact (Nat.add_le_add_right (hcolumnWhen hkind) heads).trans hfar
    · have htarget := hthen target (Prod.mk.inj (Option.some.inj (hcase.symm.trans heq))).2
      rw [partRoom, if_pos hkind]
      omega
    · rw [hkind] at hbranch
      contradiction
  exact (hr _ _ _ (hhas _ rfl rfl)).bind fun piece hpiece =>
    .pure ((hinRoom.append hpiece (by omega)).mono (Nat.le_refl _) (by omega))

lemma inRoom_moveToEnd {whenColumn : Nat} (hcolumn : column ≤ r) (hwhen : whenColumn ≤ r) (isStatement : Bool)
    (hb : b.InRoom start r n) : (sh.moveToEnd isStatement column whenColumn b).InRoom start (r + 1) n := by
  unfold moveToEnd
  split
  · exact (hb.newlineAt hcolumn).further 1
  · split
    · exact (hb.newlineAt hcolumn).further 1
    · exact (hb.newlineAt hwhen).further 1
    · exact hb.separate true

/-- The parts of a `CASE`; until the first branch the columns of all conditions are left. -/
lemma succeeds_appendParts {frame : CaseFrame} {heads spare : Nat} (hframe : sh.Frame low high)
    (hr : ∀ child ∈ children, sh.KeepsRoom I render child) (hcase : sh.FrameInRoom low heads frame)
    (hheads : ∀ child ∈ children, sh.tree.kind child = .whenBranch → sh.headRoom child ≤ heads)
    (isFirst ended : Bool) (hlow : low ≤ r) (hrest : isFirst = false → low + heads ≤ r)
    (hhigh : r + (if isFirst then heads else 0) + sh.partsRoom children ≤ high)
    (hspare : n + sh.rooms children ≤ spare) (hb : b.InRoom start r n) :
    Succeeds I (sh.appendParts render frame isFirst ended children b) (·.InRoom start high spare) := by
  induction children generalizing isFirst ended b r n with
  | nil => exact .pure (hb.mono (by omega) (by omega))
  | cons child rest ih =>
    have hchild := hr child (by simp)
    have hcons : sh.partsRoom (child :: rest) = sh.partRoom child + sh.partsRoom rest := rfl
    rw [hcons] at hhigh
    rw [rooms_cons] at hspare
    have ih {b : LineBuffer} {r : Nat} (isFirst ended : Bool) (hlow : low ≤ r)
        (hrest : isFirst = false → low + heads ≤ r)
        (hhigh : r + (if isFirst then heads else 0) + sh.partsRoom rest ≤ high)
        (hb : b.InRoom start r (n + sh.room child)) :=
      ih (fun c hc => hr c (by simp [hc])) (fun c hc => hheads c (by simp [hc])) isFirst ended hlow hrest hhigh
        (by omega) hb
    have hfar : low + heads ≤ r + if isFirst then heads else 0 := by
      cases isFirst with
      | true => exact Nat.add_le_add_right hlow heads
      | false => exact hrest rfl
    -- Any part but a branch goes on from where the one before it ended.
    have hplain (hkind : sh.tree.kind child ≠ .whenBranch) : sh.partRoom child = sh.room child := if_neg hkind
    rw [appendParts]
    refine .ite (fun hend => ?_) fun _ => .ite (fun hbranch => ?_) fun hbranch => ?_
    · rw [Bool.and_eq_true] at hend
      have hkind : sh.tree.kind child ≠ .whenBranch := by
        intro hkind
        have hleaf := hend.2
        rw [isEnd, Tree.isLeafOf, hkind] at hleaf
        contradiction
      rw [hplain hkind] at hhigh
      refine Succeeds.bind (hchild.appendHere hframe (suits_of_isLeafOf hend.2) hlow ?_ (by omega) ?_)
        fun b hb => ih isFirst true (by omega) (fun hno => (hrest hno).trans (Nat.le_add_right _ _)) (by omega) hb
      · have hindent := hcase.indent
        omega
      · have hcolumn := hcase.column
        have hwhen := hcase.whenColumn
        exact (inRoom_moveToEnd (by omega) (by omega) _ hb).further 3
    · have hfirst : isFirst = true → r + heads ≤ r + if isFirst then heads else 0 := by
        rintro rfl
        exact Nat.le_refl _
      refine Succeeds.bind (succeeds_appendBranch hframe hchild hcase (hheads child (by simp)) hbranch isFirst _ hlow
        (Nat.le_add_right _ _) hfar hfirst (by omega) hb) fun b hb => ih false ended (by omega) (fun _ => ?_) ?_ hb
      · omega
      · simp only [Bool.false_eq_true, if_false]
        omega
    · have hkind : sh.tree.kind child ≠ .whenBranch := by
        intro hkind
        rw [hkind] at hbranch
        exact hbranch rfl
      rw [hplain hkind] at hhigh
      have hcolumn := hcase.column
      exact Succeeds.bind (hchild.appendChild hframe (suits_of_none rfl) _ hlow
        (show frame.column ≤ r + 4 by omega) (by omega) (hb.further 3)) fun b hb =>
          ih isFirst ended (by omega) (fun hno => (hrest hno).trans (Nat.le_add_right _ _)) (by omega) hb

section Cases

variable {right : Nat} (ht : sh.tree.Ordered)
  (hr : ∀ child ∈ sh.visibleChildren id, sh.KeepsRoom I render child)
  (h : sh.HasRoom (sh.pieceRoom id) id ctx column right)

include ht hr h

lemma succeeds_brokenCase :
    Succeeds I (sh.brokenCase render id ctx column) (·.InRoom column right (sh.pieceRoom id)) := by
  obtain ⟨low, hframe, hcolumn, hindent, hright⟩ := h.frame ht
  have hown : sh.rooms (sh.visibleChildren id) ≤ sh.pieceRoom id := Nat.le_add_left _ _
  have hreach : 2 * sh.indent + 4 ≤ sh.reach := by
    rw [reach]
    omega
  have hhead := List.takeWhile_prefix (l := sh.visibleChildren id)
    fun c => !(isBranch (sh.tree.kind c) || sh.isEnd c)
  have hsplit := congrArg sh.rooms (List.prefix_iff_eq_append.1 hhead)
  rw [rooms_append] at hsplit
  have hparts : ∀ c ∈ (sh.visibleChildren id).drop ((sh.visibleChildren id).takeWhile
      fun c => !(isBranch (sh.tree.kind c) || sh.isEnd c)).length, sh.KeepsRoom I render c :=
    fun c hc => hr c (List.mem_of_mem_drop hc)
  unfold brokenCase
  dsimp only
  refine Succeeds.bind (widens_appendChildren hframe (fun c hc => hr c (List.takeWhile_subset _ hc))
    (fun c _ => suits_of_none rfl) (show column ≤ low by omega) _ _ low 0 (Nat.le_refl _) (by omega)
    (.startingAt (by omega) (by omega) 0)) fun b hb => ?_
  generalize (sh.visibleChildren id).takeWhile _ = head at *
  generalize (sh.visibleChildren id).drop head.length = parts at *
  have hheads := headsRoom_add_partsRoom_le ht parts
  have hwhen : sh.whenColumn column b + sh.indent ≤ low + sh.rooms head + sh.reach := by
    have hend := hb.column
    unfold whenColumn
    split
    · omega
    · omega
    · split <;> omega
  have hfar : sh.Frame (low + sh.rooms head + sh.reach) right :=
    ⟨ht, hframe.line.trans (by omega), hframe.bound⟩
  have hall (target? : Option Nat)
      (htarget : ∀ target, target? = some target → target ≤ low + sh.rooms head + sh.reach + sh.headsRoom parts) :
      Succeeds I (sh.appendParts render ⟨ctx, column, sh.whenColumn column b, target?,
        sh.tree.kind id == .caseStatement, parts.find? sh.isEnd⟩ true false parts b)
        (·.InRoom column right (sh.pieceRoom id)) :=
    succeeds_appendParts (n := sh.rooms head) hfar hparts
      ⟨show ctx.indent ≤ _ by omega, show column ≤ _ by omega, hwhen, htarget⟩
      (fun c hc hkind => (headRoom_lt_headsRoom hc hkind).le) true false (Nat.le_refl _)
      (fun hno => absurd hno.symm Bool.false_ne_true)
      (by simp only [if_true]; omega) (by omega) (hb.mono (by omega) (by omega))
  refine .ite (fun _ => ?_) fun _ => hall none fun c hc => absurd hc (Option.not_mem_none c)
  exact (succeeds_thenColumn hfar hparts (by omega) (by omega)).bind hall

lemma succeeds_caseOf : Succeeds I (sh.caseOf render id ctx column) (·.New column right (sh.pieceRoom id)) := by
  have hbroken := succeeds_brokenCase ht hr h
  refine .ite (fun _ => ?_) fun _ => succeeds_onOneLineOr ht hr h hbroken
  exact hbroken.bind fun b hb => .pure (hb.new h.bound)

end Cases

end SqlLayout.Sheet
