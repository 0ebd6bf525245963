import SqlLayout.Layout.Control
import SqlLayout.Layout.Routine
import SqlLayout.Layout.Statement
import SqlLayout.Proofs.Layout.RoomExpressions

/-!
# Statements, routines and blocks keep within their room

Lines are begun at the column of a construct, of what surrounds it, or one or two indents further on.
-/

namespace SqlLayout.Sheet

variable {sh : Sheet} {I : Cache Policy → Prop} {render : RenderIn BoundedLayout} {id : Nat} {children : List Nat}
  {ctx : Context} {b : LineBuffer} {start low high column r n : Nat}

/-! ### Statements and clauses -/

lemma widens_appendClauses (hframe : sh.Frame low high) (hr : ∀ child ∈ children, sh.KeepsRoom I render child)
    (hcolumn : column ≤ low) (seenClause : Bool) :
    Widens I start low high (sh.rooms children) (sh.appendClauses render ctx column seenClause children) := by
  induction children generalizing seenClause with
  | nil => exact .pure start low high
  | cons child rest ih =>
    intro b r n hlow hhigh hb
    rw [rooms_cons] at hhigh ⊢
    unfold appendClauses
    refine Succeeds.bind ((hr child (by simp)).appendChild hframe (suits_of_none rfl) _ hlow
      (show column ≤ r + 4 by omega) (by omega) (LineBuffer.InRoom.further ?_ 3)) fun b hb =>
        (ih (fun c hc => hr c (by simp [hc])) _).after hlow hhigh hb
    split
    · exact hb.newlineAt (by omega)
    · exact hb

lemma widens_appendClauseBody {ownLine : Option Nat} (hframe : sh.Frame low high)
    (hr : ∀ child ∈ children, sh.KeepsRoom I render child) (hcolumn : column ≤ low)
    (hline : ∀ c, ownLine = some c → c ≤ low) (started : Bool) :
    Widens I start low high (sh.rooms children) (sh.appendClauseBody render ctx column ownLine started children) := by
  induction children generalizing started with
  | nil => exact .pure start low high
  | cons child rest ih =>
    intro b r n hlow hhigh hb
    rw [rooms_cons] at hhigh ⊢
    have hchild := hr child (by simp)
    have hrest (started : Bool) {b : LineBuffer} :=
      (ih (fun c hc => hr c (by simp [hc])) started).after (b := b) (n := n) hlow hhigh
    have hindent : ownLine.getD column ≤ low := by
      cases heq : ownLine with
      | none => exact hcolumn
      | some c => exact hline c heq
    unfold appendClauseBody
    refine .ite (fun _ => ?_) fun _ => ?_
    · exact Succeeds.bind (hchild.appendChild hframe (suits_of_none rfl) _ hlow (show column ≤ r + 4 by omega)
        (by omega) (hb.further 3)) fun b hb => hrest _ hb
    · refine Succeeds.bind (hchild.appendChild hframe (suits_of_none rfl) _ hlow
        (show ownLine.getD column ≤ r + 4 by omega) (by omega) (LineBuffer.InRoom.further ?_ 3))
        fun b hb => hrest _ hb
      split
      · next c =>
        have hc := hline c rfl
        exact hb.beginLineAt (by omega)
      · exact hb

lemma widens_appendClauseKeywords (hframe : sh.Frame low high)
    (hr : ∀ child ∈ children, sh.KeepsRoom I render child) (hcolumn : column ≤ low) (body : List Nat) :
    Widens I start low high (sh.rooms children) (sh.appendClauseKeywords render ctx column body children) := by
  induction children with
  | nil => exact .pure start low high
  | cons child rest ih =>
    intro b r n hlow hhigh hb
    rw [rooms_cons] at hhigh ⊢
    unfold appendClauseKeywords
    exact Succeeds.bind ((hr child (by simp)).appendChild hframe (suits_of_none rfl) _ hlow
      (show column ≤ r + 4 by omega) (by omega) (hb.further 3)) fun b hb =>
        (ih fun c hc => hr c (by simp [hc])).after hlow hhigh hb

/-! ### Blocks, conditionals and loops -/

lemma widens_appendControl {kind : NodeKind} (hframe : sh.Frame low high)
    (hr : ∀ child ∈ children, sh.KeepsRoom I render child) (hinner : column + sh.indent ≤ low)
    (afterLabel : Bool) :
    Widens I start low high (sh.rooms children) (sh.appendControl render kind column afterLabel children) := by
  induction children generalizing afterLabel with
  | nil => exact .pure start low high
  | cons child rest ih =>
    intro b r n hlow hhigh hb
    rw [rooms_cons] at hhigh ⊢
    have hchild := hr child (by simp)
    have hrest (afterLabel : Bool) {b : LineBuffer} :=
      (ih (fun c hc => hr c (by simp [hc])) afterLabel).after (b := b) (n := n) hlow hhigh
    have hcolumn : column ≤ r := by omega
    unfold appendControl
    refine .ite (fun hcomment => ?_) fun _ => ?_
    · exact hrest _ (inRoom_appendComment_room hframe.ordered hcomment (hb.further 3))
    · have hline : (if afterLabel then b.beginLineAt column else b).InRoom start r n := by
        split
        · exact hb.beginLineAt hcolumn
        · exact hb
      have hbegun := hline.beginLineAt hcolumn
      have hhere : (Context.indentedAt column).indent ≤ r + 4 := hcolumn.trans (Nat.le_add_right _ _)
      refine .ite (fun _ => ?_) fun _ => .ite (fun _ => ?_) fun _ => .ite (fun _ => ?_) fun _ => ?_
      · exact Succeeds.bind (hchild.appendOnLine hframe (suits_of_none rfl) hlow
          (show column + sh.indent ≤ r + 4 by omega) (by omega) (by omega) hline) fun b hb => hrest _ hb
      · exact Succeeds.bind (hchild.appendHere hframe (suits_of_none rfl) hlow hhere (by omega) (hbegun.further 4))
          fun b hb => hrest _ hb
      · exact Succeeds.bind (hchild.appendChild hframe (suits_of_none rfl) _ hlow hhere (by omega)
          (hbegun.further 3)) fun b hb => hrest _ hb
      · exact Succeeds.bind (hchild.appendChild hframe (suits_of_none rfl) _ hlow (show column ≤ r + 4 by omega)
          (by omega) (hline.further 3)) fun b hb => hrest _ hb

/-! ### Routines and tables -/

lemma widens_appendAttributes (hframe : sh.Frame low high) (hr : ∀ child ∈ children, sh.KeepsRoom I render child)
    (hinner : column + sh.indent ≤ low) (isInline afterBody : Bool) :
    Widens I start low high (sh.rooms children)
      (sh.appendAttributes render ctx column isInline afterBody children) := by
  induction children generalizing afterBody with
  | nil => exact .pure start low high
  | cons child rest ih =>
    intro b r n hlow hhigh hb
    rw [rooms_cons] at hhigh ⊢
    unfold appendAttributes
    refine Succeeds.bind ((hr child (by simp)).appendChild hframe (suits_of_none rfl) _ hlow ?_ (by omega)
      (LineBuffer.InRoom.further ?_ 3)) fun b hb => (ih (fun c hc => hr c (by simp [hc])) _).after hlow hhigh hb
    · dsimp only [Context.child]
      split <;> omega
    · split
      · exact hb.newlineAt (by omega)
      · exact hb

lemma widens_appendTableParts (hframe : sh.Frame low high) (hr : ∀ child ∈ children, sh.KeepsRoom I render child)
    (hinner : column + sh.indent ≤ low) (afterColumns : Bool) :
    Widens I start low high (sh.rooms children) (sh.appendTableParts render ctx column afterColumns children) := by
  induction children generalizing afterColumns with
  | nil => exact .pure start low high
  | cons child rest ih =>
    intro b r n hlow hhigh hb
    rw [rooms_cons] at hhigh ⊢
    unfold appendTableParts
    refine Succeeds.bind ((hr child (by simp)).appendChild hframe (suits_of_none rfl) _ hlow
      (show column ≤ r + 4 by omega) (by omega) (LineBuffer.InRoom.further ?_ 3)) fun b hb =>
        (ih (fun c hc => hr c (by simp [hc])) _).after hlow hhigh hb
    split
    · exact hb.newlineAt (by omega)
    · exact hb

/-! ### Constructs without declarations -/

section Constructs

variable {right : Nat} (ht : sh.tree.Ordered)
  (hr : ∀ child ∈ sh.visibleChildren id, sh.KeepsRoom I render child)
  (h : sh.HasRoom (sh.pieceRoom id) id ctx column right)

include ht hr h

lemma succeeds_statementList :
    Succeeds I (sh.statementList render id column) (·.New column right (sh.pieceRoom id)) := by
  obtain ⟨low, hframe, hcolumn, -, hright⟩ := h.frame ht
  unfold statementList
  refine Succeeds.bind ((Widens.foldlM Prod.fst (List.zipIdx_map_fst _ _) fun x hx b r n hlow hhigh hb => ?_).run
    hcolumn (Nat.le_of_add_right_le hcolumn) hright) fun b hb => .pure (hb.new h.bound)
  have hcolumn : column ≤ r := by omega
  refine .ite (fun hcomment => ?_) fun _ => ?_
  · exact .pure (inRoom_appendComment_room ht (by simpa [isComment] using hcomment) (hb.further 3))
  · refine (hr x.1 hx).appendHere hframe (suits_of_none rfl) hlow (show column ≤ r + 4 by omega) hhigh
      (LineBuffer.InRoom.further ?_ 4)
    split
    · exact hb.newlineAt hcolumn
    · exact hb

lemma succeeds_statement :
    Succeeds I (sh.statement render id ctx column) (·.New column right (sh.pieceRoom id)) := by
  obtain ⟨low, hframe, hcolumn, -, hright⟩ := h.frame ht
  exact succeeds_onOneLineOr ht hr h ((widens_appendClauses hframe hr (by omega) false).run hcolumn
    (Nat.le_of_add_right_le hcolumn) hright)

lemma succeeds_clause : Succeeds I (sh.clause render id ctx column) (·.New column right (sh.pieceRoom id)) := by
  obtain ⟨low, hframe, hcolumn, -, hright⟩ := h.frame ht
  have hinner : column + sh.indent ≤ low := by
    rw [reach] at hcolumn
    omega
  have hkeywords := List.takeWhile_prefix (l := sh.visibleChildren id) sh.isKeywordLeaf
  have hsplit := congrArg sh.rooms (List.prefix_iff_eq_append.1 hkeywords)
  rw [rooms_append] at hsplit
  have hown : sh.rooms (sh.visibleChildren id) ≤ sh.pieceRoom id := Nat.le_add_left _ _
  refine succeeds_onOneLineOr ht hr h ?_
  unfold brokenClause
  dsimp only
  refine Succeeds.bind (widens_appendClauseKeywords hframe (fun c hc => hr c (List.takeWhile_subset _ hc))
    (show column ≤ low by omega) _ _ low 0 (Nat.le_refl _) (by omega) (.startingAt (by omega) hinner 0))
    fun b hb => ?_
  refine (widens_appendClauseBody hframe (fun c hc => hr c (List.mem_of_mem_drop hc)) (show column ≤ low by omega)
    (fun c hc => ?_) false b _ _ (by omega) (by omega) hb).mono fun b hb => hb.mono (by omega) (by omega)
  split at hc
  · obtain rfl := Option.some.inj hc
    exact hinner
  · contradiction

lemma succeeds_control : Succeeds I (sh.control render id column) (·.New column right (sh.pieceRoom id)) := by
  obtain ⟨low, hframe, hcolumn, -, hright⟩ := h.frame ht
  have hinner : column + sh.indent ≤ low := by
    rw [reach] at hcolumn
    omega
  exact ((widens_appendControl hframe hr hinner false).run hcolumn hinner hright).bind fun b hb =>
    .pure (hb.new h.bound)

lemma succeeds_exceptionSection :
    Succeeds I (sh.exceptionSection render id column) (·.New column right (sh.pieceRoom id)) := by
  obtain ⟨low, hframe, hcolumn, -, hright⟩ := h.frame ht
  have hinner : column + sh.indent ≤ low := by
    rw [reach] at hcolumn
    omega
  unfold exceptionSection
  refine Succeeds.bind ((Widens.foldlM (fun child => child) (List.map_id' _) fun child hchild b r n hlow hhigh hb =>
    ?_).run hcolumn hinner hright) fun b hb => .pure (hb.new h.bound)
  refine .ite (fun _ => ?_) fun _ => ?_
  · exact (hr child hchild).appendOnLine hframe (suits_of_none rfl) hlow (show column + sh.indent ≤ r + 4 by omega)
      (by omega) hhigh hb
  · exact (hr child hchild).appendChild hframe (suits_of_none rfl) _ hlow (show column ≤ r + 4 by omega) hhigh
      (hb.further 3)

lemma succeeds_doBlock : Succeeds I (sh.doBlock render id ctx column) (·.New column right (sh.pieceRoom id)) := by
  obtain ⟨low, hframe, hcolumn, -, hright⟩ := h.frame ht
  have hinner : column + sh.indent ≤ low := by
    rw [reach] at hcolumn
    omega
  unfold doBlock appendGlued
  refine Succeeds.bind ((Widens.foldlM Prod.fst (map_withRest _) fun x hx b r n hlow hhigh hb => ?_).run
    hcolumn hinner hright) fun b hb => .pure (hb.new h.bound)
  exact (hr x.1 hx).appendChild hframe (suits_of_none rfl) _ hlow (show column ≤ r + 4 by omega) hhigh (hb.further 3)

lemma succeeds_routineBody :
    Succeeds I (sh.routineBody render id ctx column) (·.New column right (sh.pieceRoom id)) := by
  obtain ⟨low, hframe, hcolumn, hindent, hright⟩ := h.frame ht
  refine succeeds_onOneLineOr ht hr h ((Widens.foldlM Prod.fst (map_withRest _)
    fun x hx b r n hlow hhigh hb => ?_).run hcolumn (Nat.le_of_add_right_le hindent) hright)
  refine .ite (fun _ => ?_) fun _ => .ite (fun hclose => ?_) fun _ => ?_
  · exact (hr x.1 hx).appendOnLine hframe (suits_of_none rfl) hlow (show ctx.indent ≤ r + 4 by omega) (by omega)
      hhigh hb
  · exact (hr x.1 hx).appendOnLine hframe (suits_of_isLeafOf hclose) hlow (by omega) (by omega) hhigh hb
  · exact (hr x.1 hx).appendChild hframe (suits_of_none rfl) _ hlow (show ctx.indent ≤ r + 4 by omega) hhigh
      (hb.further 3)

lemma succeeds_routineDefinition :
    Succeeds I (sh.routineDefinition render id ctx column) (·.New column right (sh.pieceRoom id)) := by
  obtain ⟨low, hframe, hcolumn, -, hright⟩ := h.frame ht
  have hinner : column + sh.indent ≤ low := by
    rw [reach] at hcolumn
    omega
  have hheader := List.takeWhile_prefix (l := sh.visibleChildren id) fun c => !isAttribute (sh.tree.kind c)
  have hsplit := congrArg sh.rooms (List.prefix_iff_eq_append.1 hheader)
  rw [rooms_append] at hsplit
  have hown : sh.rooms (sh.visibleChildren id) ≤ sh.pieceRoom id := Nat.le_add_left _ _
  refine succeeds_onOneLineOr ht hr h ?_
  unfold brokenRoutine
  dsimp only
  refine Succeeds.bind (widens_appendChildren hframe (fun c hc => hr c (List.takeWhile_subset _ hc))
    (fun c _ => suits_of_none rfl) (show column ≤ low by omega) _ _ low 0 (Nat.le_refl _) (by omega)
    (.startingAt (by omega) hinner 0)) fun b hb => ?_
  exact (widens_appendAttributes hframe (fun c hc => hr c (List.mem_of_mem_drop hc)) hinner _ false b _ _ (by omega)
    (by omega) hb).mono fun b hb => hb.mono (by omega) (by omega)

lemma succeeds_tableDefinition :
    Succeeds I (sh.tableDefinition render id ctx column) (·.New column right (sh.pieceRoom id)) := by
  obtain ⟨low, hframe, hcolumn, -, hright⟩ := h.frame ht
  have hinner : column + sh.indent ≤ low := by
    rw [reach] at hcolumn
    omega
  exact succeeds_onOneLineOr ht hr h ((widens_appendTableParts hframe hr hinner false).run hcolumn hinner hright)

end Constructs

/-! ### The whole source -/

lemma inRoom_statementGap (hb : b.InRoom start r n) : (sh.statementGap b).InRoom start r n := by
  unfold statementGap
  dsimp only
  split
  · exact hb.newlineAt (Nat.zero_le _)
  · have hline : (b.newlineAt 0).InRoom start r n := hb.newlineAt (Nat.zero_le _)
    exact hline.newlineAt (Nat.zero_le _)

lemma inRoom_gapBeforeComment (hb : b.InRoom start r n) (previous : TopEntry) (ownLine : Bool) :
    (sh.gapBeforeComment previous ownLine b).InRoom start r n := by
  unfold gapBeforeComment
  split
  · exact inRoom_statementGap hb
  · exact hb.newlineAt (Nat.zero_le _)
  · exact hb

lemma inRoom_gapBeforeStatement (hb : b.InRoom start r n) (previous : TopEntry) :
    (sh.gapBeforeStatement previous b).InRoom start (r + 1) n := by
  unfold gapBeforeStatement
  split
  · exact hb.further 1
  · exact (inRoom_statementGap hb).further 1
  · split
    · exact (hb.newlineAt (Nat.zero_le _)).further 1
    · exact hb.pushSpace

lemma widens_appendTopEntries (hframe : sh.Frame low high) (hr : ∀ child ∈ children, sh.KeepsRoom I render child)
    (previous : TopEntry) :
    Widens I start low high (sh.rooms children) (sh.appendTopEntries render previous children) := by
  induction children generalizing previous with
  | nil => exact .pure start low high
  | cons child rest ih =>
    intro b r n hlow hhigh hb
    rw [rooms_cons] at hhigh ⊢
    have hrest (previous : TopEntry) {b : LineBuffer} :=
      (ih (fun c hc => hr c (by simp [hc])) previous).after (b := b) (n := n) hlow hhigh
    unfold appendTopEntries
    refine .ite (fun hcomment => ?_) fun _ => ?_
    · exact hrest _ (inRoom_appendComment_room hframe.ordered (by simpa [isComment] using hcomment)
        ((inRoom_gapBeforeComment hb _ _).further 3))
    · exact Succeeds.bind ((hr child (by simp)).appendHere hframe (suits_of_none rfl) hlow (Nat.zero_le _) (by omega)
        ((inRoom_gapBeforeStatement hb _).further 3)) fun b hb => hrest _ hb

/-- The whole source starts at the margin. -/
lemma succeeds_root {right : Nat} (ht : sh.tree.Ordered)
    (hr : ∀ child ∈ sh.visibleChildren id, sh.KeepsRoom I render child)
    (h : sh.HasRoom (sh.pieceRoom id) id ctx 0 right) :
    Succeeds I (sh.root render id) (·.New 0 right (sh.pieceRoom id)) := by
  obtain ⟨low, hframe, hcolumn, -, hright⟩ := h.frame ht
  exact ((widens_appendTopEntries hframe hr .nothing).run hcolumn (Nat.zero_le _) hright).bind fun b hb =>
    .pure (hb.new h.bound)

end SqlLayout.Sheet
