import SqlLayout.Proofs.Layout.KeepsRoom

/-!
# Expressions, groups and leaves keep within their room
-/

namespace SqlLayout

open Text (byteLength)

namespace Sheet

variable {sh : Sheet} {I : Cache Policy → Prop} {render : RenderIn BoundedLayout}
  {id child : Nat} {children : List Nat} {ctx : Context} {b : LineBuffer}
  {start low high column r n : Nat}

section Constructs

variable {right : Nat} {broken : BoundedLayout LineBuffer} (ht : sh.tree.Ordered)
  (hr : ∀ child ∈ sh.visibleChildren id, sh.KeepsRoom I render child)
  (h : sh.HasRoom (sh.pieceRoom id) id ctx column right)

include ht hr h

lemma succeeds_inline : Succeeds I (sh.inline render id ctx column) (·.New column right (sh.pieceRoom id)) := by
  unfold inline
  dsimp only
  obtain ⟨low, hframe, hcolumn, hindent, hright⟩ := h.frame ht
  refine Succeeds.bind ((Widens.foldlM Prod.fst (map_withRest _) fun x hx b r n hlow hhigh hb => ?_).run
    hcolumn (Nat.le_of_add_right_le hcolumn) hright) fun b hb => .pure (hb.new h.bound)
  refine (hr x.1 hx).appendChild hframe ⟨fun _ phase target => ?_, fun _ offsets heq => ?_⟩ _ hlow ?_ hhigh
    (hb.further 3)
  · dsimp only [Context.caseBranch?]
    split_ifs <;> simp
  · dsimp only [Context.offsets?] at heq
    split_ifs at heq
  · show ctx.indent ≤ r + 4
    omega

lemma succeeds_onOneLineOr (hbroken : Succeeds I broken (·.InRoom column right (sh.pieceRoom id))) :
    Succeeds I (sh.onOneLineOr render broken id ctx column) (·.New column right (sh.pieceRoom id)) := by
  have hsingle : Succeeds I (sh.singleLine? render id ctx column)
      (fun piece? => ∀ piece, piece? = some piece → piece.New column right (sh.pieceRoom id)) := by
    unfold singleLine?
    split
    · exact .pure fun piece hnone => absurd hnone (Option.not_mem_none piece)
    · refine .ite (fun _ => ?_) fun _ =>
        .pure fun piece hnone => absurd hnone (Option.not_mem_none piece)
      refine (succeeds_inline ht hr h).bind fun piece hpiece => .pure ?_
      split
      · intro piece' heq
        obtain rfl := Option.some.inj heq
        exact hpiece
      · exact fun piece hnone => absurd hnone (Option.not_mem_none piece)
  refine hsingle.bind fun piece? hpiece? => ?_
  cases piece? with
  | some piece => exact .pure (hpiece? piece rfl)
  | none => exact hbroken.bind fun b hb => .pure (hb.new h.bound)

/-! ### Expressions and calls -/

omit ht hr h in
lemma inRoom_breakBeforeOperand {parent : NodeKind} {continuation trailing : Nat} (hb : b.InRoom start r n) :
    (sh.breakBeforeOperand parent children continuation child trailing b).InRoom start r n := by
  unfold breakBeforeOperand
  split_ifs
  · exact hb.newline
  · exact hb.newline
  · exact hb

lemma succeeds_expression :
    Succeeds I (sh.expression render id ctx column) (·.New column right (sh.pieceRoom id)) := by
  obtain ⟨low, hframe, hcolumn, hindent, hright⟩ := h.frame ht
  refine succeeds_onOneLineOr ht hr h ((Widens.foldlM (fun x => x.1.1) (map_withRest_zipIdx _)
    fun x hx b r n hlow hhigh hb => ?_).run hcolumn (by rw [reach] at hindent; omega) hright)
  refine .ite (fun hcomment => ?_) fun _ => ?_
  · exact .pure (inRoom_appendComment_room hframe.ordered (by simpa [isComment] using hcomment)
      (hb.further 3))
  · refine (hr _ hx).appendChild hframe (suits_of_none rfl) _ hlow (show ctx.indent ≤ r + 4 by omega) hhigh ?_
    refine LineBuffer.InRoom.further ?_ 3
    split
    · exact inRoom_breakBeforeOperand hb
    · exact hb

lemma succeeds_functionCall :
    Succeeds I (sh.functionCall render id ctx column) (·.New column right (sh.pieceRoom id)) := by
  obtain ⟨low, hframe, hcolumn, hindent, hright⟩ := h.frame ht
  refine succeeds_onOneLineOr ht hr h ((Widens.foldlM Prod.fst (map_withRest _)
    fun x hx b r n hlow hhigh hb => ?_).run hcolumn (by rw [reach] at hindent; omega) hright)
  exact (hr x.1 hx).appendChild hframe (suits_of_none rfl) _ hlow (show ctx.indent ≤ r + 4 by omega) hhigh
    (hb.further 3)

end Constructs

/-! ### Groups -/

lemma widens_appendChildren (hframe : sh.Frame low high) (hr : ∀ child ∈ children, sh.KeepsRoom I render child)
    (hctx : ∀ child ∈ children, sh.Suits child ctx) (hindent : ctx.indent ≤ low) (parent : NodeKind) :
    Widens I start low high (sh.rooms children) (sh.appendChildren render parent children ctx) :=
  .foldlM (fun child => child) (List.map_id' _) fun child hchild _ _ _ hlow hhigh hb =>
    (hr child hchild).appendChild hframe (hctx child hchild) parent hlow (by omega) hhigh (hb.further 3)

lemma widens_groupContent {placement : Placement} (hframe : sh.Frame low high)
    (hr : ∀ child ∈ children, sh.KeepsRoom I render child) (hctx : ctx.overlay = .none)
    (hindent : ctx.indent ≤ low) (hcontent : ∀ c, placement.content = some c → c ≤ low) (isFirst : Bool) :
    Widens I start low high (sh.rooms children) (sh.groupContent render placement ctx isFirst children) := by
  induction children generalizing isFirst with
  | nil => exact .pure start low high
  | cons child rest ih =>
    intro b r n hlow hhigh hb
    rw [rooms_cons] at hhigh ⊢
    unfold groupContent
    refine ((hr child (by simp)).appendChild hframe (suits_of_none hctx) _ hlow (by omega) (by omega) ?_).bind
      fun b hb => (ih (fun c hc => hr c (by simp [hc])) false).after hlow hhigh hb
    refine LineBuffer.InRoom.further ?_ 3
    split
    · next c hplaced =>
      have hc := hcontent c hplaced
      exact hb.beginLineAt (by omega)
    · exact hb

lemma widens_groupClose {placement : Placement} {close : Nat} (hframe : sh.Frame low high)
    (hr : sh.KeepsRoom I render close) (hparen : sh.tree.isLeafOf close .rParen = true) (hindent : ctx.indent ≤ low)
    (hcolumn : column ≤ low) (hclose : ∀ c, placement.close = some c → c ≤ low) :
    Widens I start low high (sh.room close) (groupClose render placement close ctx column) := by
  intro b r n hlow hhigh hb
  refine hr.appendHere hframe (suits_of_isLeafOf hparen) hlow (by omega) hhigh (LineBuffer.InRoom.further ?_ 4)
  split
  · next c hplaced =>
    have hc := hclose c hplaced
    exact hb.newlineAt (by omega)
  · split_ifs
    · exact hb.newlineAt (by omega)
    · exact hb

/-- A member and those that are not equal to it. -/
lemma rooms_filter_ne_add_le (h : child ∈ children) :
    sh.rooms (children.filter fun c => some c != some child) + sh.room child ≤ sh.rooms children := by
  induction children with
  | nil => exact absurd h List.not_mem_nil
  | cons c children ih =>
    have hle : sh.rooms (children.filter fun c => some c != some child) ≤ sh.rooms children :=
      rooms_le_of_sublist List.filter_sublist
    by_cases hc : c = child
    · subst hc
      rw [List.filter_cons_of_neg (by simp), rooms_cons]
      omega
    · have hmem : child ∈ children := (List.mem_cons.1 h).resolve_left (Ne.symm hc)
      have ih := ih hmem
      rw [List.filter_cons_of_pos (by simpa using hc), rooms_cons, rooms_cons]
      omega

/-- The brackets of a group and what stands between them. -/
lemma rooms_group_le (children : List Nat) :
    let closing := sh.closingParen? children
    let opening := (children.take 1).filter fun c => sh.tree.isLeafOf c .lParen
    sh.rooms opening + (sh.rooms ((children.drop opening.length).filter fun c => some c != closing)
      + sh.rooms closing.toList) ≤ sh.rooms children := by
  intro closing opening
  have hall : sh.rooms opening + sh.rooms (children.drop opening.length) = sh.rooms children := by
    rw [← rooms_append, List.prefix_iff_eq_append.1 (opening_isPrefix _ _)]
  rw [← hall]
  refine Nat.add_le_add_left ?_ _
  cases hclosing : closing with
  | none => exact rooms_le_of_sublist List.filter_sublist
  | some close =>
    obtain ⟨hlast, hparen⟩ := Option.filter_eq_some_iff.1 hclosing
    -- The closing bracket is not the opening one, so it stands behind it.
    have hmem : close ∈ children.drop opening.length := by
      have hchild := List.mem_of_getLast? hlast
      rw [← List.prefix_iff_eq_append.1 (opening_isPrefix (sh.tree.isLeafOf · .lParen) children)] at hchild
      refine (List.mem_append.1 hchild).resolve_left fun hopening => ?_
      have hleft := isLeafOf_unique .lParen hparen (by decide)
      exact Bool.false_ne_true (hleft.symm.trans (List.mem_filter.1 hopening).2)
    simpa using rooms_filter_ne_add_le hmem

section Groups

variable {right : Nat} (ht : sh.tree.Ordered)
  (hr : ∀ child ∈ sh.visibleChildren id, sh.KeepsRoom I render child)
  (h : sh.HasRoom (sh.pieceRoom id) id ctx column right)

include ht hr h

lemma succeeds_placedGroup {placement : Placement}
    (hcontent : ∀ c, placement.content = some c → c ≤ max column ctx.indent + sh.reach)
    (hclose : ∀ c, placement.close = some c → c ≤ max column ctx.indent + sh.reach) :
    Succeeds I (sh.placedGroup render placement id ctx column) (·.InRoom column right (sh.pieceRoom id)) := by
  obtain ⟨low, hframe, hcolumn, hindent, hright⟩ := h.frame ht
  have hown : sh.rooms (sh.visibleChildren id) ≤ sh.pieceRoom id := Nat.le_add_left _ _
  have hsum := sh.rooms_group_le (sh.visibleChildren id)
  have hreach : 4 ≤ sh.reach := Nat.le_add_left _ _
  have hmax : max column ctx.indent + sh.reach ≤ low := by omega
  have hbase : placement.content.getD (column + 1) ≤ low := by
    cases heq : placement.content with
    | none => exact (show column + 1 ≤ low by omega)
    | some c => exact (hcontent c heq).trans hmax
  dsimp only at hsum
  unfold placedGroup
  dsimp only
  refine Succeeds.bind (widens_appendChildren hframe (fun c hc => ?_) (fun c hc => ?_) (by omega) _ _ low 0
    (Nat.le_refl _) (by omega) (.startingAt (by omega) hbase 0)) fun b hb => ?_
  · exact hr c (List.mem_of_mem_take (List.mem_of_mem_filter hc))
  · exact suits_of_isLeafOf (List.mem_filter.1 hc).2
  refine Succeeds.bind (widens_groupContent hframe (fun c hc => ?_) rfl hbase (fun c hc => (hcontent c hc).trans hmax)
    true b _ _ (by omega) (by omega) hb) fun b hb => ?_
  · exact hr c (List.mem_of_mem_drop (List.mem_of_mem_filter hc))
  split
  · next close hclosing =>
    obtain ⟨hlast, hparen⟩ := Option.filter_eq_some_iff.1 hclosing
    rw [hclosing] at hsum hb
    simp only [Option.toList_some, rooms_cons, rooms_nil, Nat.add_zero] at hsum
    exact (widens_groupClose hframe (hr close (List.mem_of_getLast? hlast)) hparen (by omega) (by omega)
      (fun c hc => (hclose c hc).trans hmax) b _ _ (by omega) (by omega) hb).mono
      fun b hb => hb.mono (by omega) (by omega)
  · exact .pure (hb.mono (by omega) (by omega))

lemma succeeds_group : Succeeds I (sh.group render id ctx column) (·.New column right (sh.pieceRoom id)) := by
  have hreach : 2 * sh.indent ≤ sh.reach := by
    rw [reach]
    omega
  refine succeeds_onOneLineOr ht hr h ?_
  unfold brokenGroup
  dsimp only
  split
  · refine succeeds_placedGroup ht hr h (fun c hc => ?_) fun c hc => ?_
    · obtain rfl := Option.some.inj hc
      omega
    · obtain rfl := Option.some.inj hc
      omega
  · refine Succeeds.bind (succeeds_placedGroup ht hr h
      (fun c hc => absurd hc (Option.not_mem_none c)) fun c hc => ?_) fun under hunder => ?_
    · dsimp only at hc
      split at hc
      · obtain rfl := Option.some.inj hc
        omega
      · contradiction
    refine .ite (fun _ => .pure hunder) fun _ => ?_
    refine Succeeds.bind (succeeds_placedGroup ht hr h (fun c hc => ?_) fun c hc => ?_) fun indented hindented =>
      .pure ?_
    · obtain rfl := Option.some.inj hc
      omega
    · dsimp only at hc
      split at hc
      · obtain rfl := Option.some.inj hc
        omega
      · contradiction
    · split
      · exact hindented
      · exact hunder

end Groups

/-! ### Leaves -/

lemma inRoom_empty (column : Nat) : LineBuffer.InRoom column column 0 (.startingAt column) :=
  .startingAt (Nat.le_refl _) (Nat.le_refl _) 0

section Leaves

variable {right : Nat} (h : sh.HasRoom (sh.pieceRoom id) id ctx column right)

include h

/-- The room of a node holds what it writes besides its children. -/
lemma HasRoom.ownText_le : column + 3 * byteLength (sh.ownText id) + 2 * sh.reach ≤ right
    ∧ byteLength (sh.ownText id) ≤ sh.pieceRoom id := by
  have hcolumn := h.column
  rw [pieceRoom, ownRoom] at hcolumn ⊢
  constructor <;> omega

lemma new_leaf {role : LeafRole} (hkind : sh.tree.kind id = .leaf role) :
    (sh.leaf id role column).New column right (sh.pieceRoom id) := by
  obtain ⟨hright, hspare⟩ := h.ownText_le
  rw [ownText, hkind] at hright hspare
  dsimp only at hright hspare
  unfold leaf
  dsimp only
  split
  · exact ((((inRoom_empty column).pushVerbatim _).setLast _).mono (by omega) (by omega)).new h.bound
  · have hwidth := Text.width_le (sh.leafText id role)
    exact ⟨.fragment (by omega) hspare, rfl⟩

lemma new_comment (hkind : sh.tree.kind id = .comment) :
    (sh.comment id column).New column right (sh.pieceRoom id) := by
  obtain ⟨hright, hspare⟩ := h.ownText_le
  have hreach : 4 ≤ sh.reach := Nat.le_add_left _ _
  exact ((inRoom_appendComment hkind (inRoom_empty column)).mono (by omega) (by omega)).new h.bound

lemma new_errorPiece {index : Nat} (hkind : sh.tree.kind id = .error index) :
    (sh.errorPiece id column).New column right (sh.pieceRoom id) := by
  obtain ⟨hright, hspare⟩ := h.ownText_le
  rw [ownText, hkind] at hright hspare
  dsimp only at hright hspare
  rw [Text.byteLength_append] at hright hspare
  unfold errorPiece
  dsimp only
  generalize hnoted : (if sh.isAnnotated id = true then LineBuffer.startingAt column else _) = noted
  have hinRoom : noted.InRoom column (column + 3 * byteLength (sh.errorNote id))
      (0 + byteLength (sh.errorNote id)) := by
    rw [← hnoted]
    split
    · exact (inRoom_empty column).mono (Nat.le_add_right _ _) (Nat.le_add_right _ _)
    · exact (inRoom_empty column).push (sh.errorNote id)
  exact (((hinRoom.pushVerbatim _).setLast _).mono (by omega) (by omega)).new h.bound

end Leaves

end Sheet
end SqlLayout
