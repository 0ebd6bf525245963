import SqlLayout.Layout.CaseOf
import SqlLayout.Proofs.Layout.Related

/-!
# Expressions side by side

The layouts of leaves, expressions, groups and `CASE` in alike trees are related, if those of their
children are.
-/

namespace SqlLayout.Sheet

open LineBuffer (Like)

variable {m₁ m₂ : Type → Type} [Monad m₁] [Monad m₂] [Faulting m₁] [Faulting m₂]
  [MonadStateOf (Cache Policy) m₁] [MonadStateOf (Cache Policy) m₂] [Coupling m₁ m₂]
  {R : Correspondence} {C : Cache Policy → Cache Policy → Prop} {t₁ t₂ : Tree} {p : Policy} {k : LetterCases}
  {r₁ : RenderIn m₁} {r₂ : RenderIn m₂} {id : Nat} {ctx : Context} {column : Nat} {children : List Nat} {b₁ b₂ : LineBuffer}
  (ht : t₁.Alike R p k t₂)

include ht

/-! ### Leaves and expressions -/

lemma like_leaf (hid : id < t₁.size) (role : LeafRole) (column : Nat) :
    Piece.Like R (leaf ⟨t₁, p⟩ id role column) (leaf ⟨t₂, p.cased k⟩ id role column) := by
  have hfirst : Option.Rel R.token (some (t₁.firstToken id)) (some (t₂.firstToken id)) := .some (ht.first hid)
  have hstart : Like R (.startingAt column) (.startingAt column) := .of_none rfl
  have htext := ht.leaf role hid
  unfold leaf
  dsimp only
  rw [htext.contains_eq]
  split
  · exact .lines ((hstart.pushVerbatim htext).setLast hfirst)
  · exact .fragment column htext hfirst

lemma like_breakBeforeOperand (parent : NodeKind) (children : List Nat) (continuation : Nat)
    (hid : id < t₁.size) (trailing : Nat) (h : Like R b₁ b₂) :
    Like R (breakBeforeOperand ⟨t₁, p⟩ parent children continuation id trailing b₁)
      (breakBeforeOperand ⟨t₂, p.cased k⟩ parent children continuation id trailing b₂) := by
  unfold breakBeforeOperand
  refine .ite h.newline ?_ (.ite h.newline ?_ h)
  · simp only [isLogical, isBetween, isLeafOf_eq ht]
  · rw [spaceAfterLast_eq ht parent hid h, h.column_eq, measure_eq ht hid]
    dsimp only
    rw [ht.kind]
    exact Iff.rfl

section

variable (hid : id < t₁.size)
  (hr : ∀ child ∈ visibleChildren ⟨t₁, p⟩ id, RenderAlike C R t₁ r₁ r₂ child)

include hid hr

lemma related_expression :
    Related C (expression ⟨t₁, p⟩ r₁ id ctx column) (expression ⟨t₂, p.cased k⟩ r₂ id ctx column)
      (Piece.Like R) := by
  refine related_onOneLineOr ht hr hid ?_
  unfold brokenExpression
  dsimp only
  rw [← visibleChildren_eq ht, ← ht.kind]
  refine Related.foldlM (fun x hx b₁ b₂ h => ?_) (.of_none rfl)
  obtain ⟨hmem, hrest⟩ := mem_of_mem_withRest (List.fst_mem_of_mem_zipIdx hx)
  have hchild := hr x.1.1 hmem
  rw [gluedTrailing_eq ht _ _ hchild.lt fun c hc => (hr c (hrest c hc)).lt]
  refine .ite (by rw [isComment_eq ht]) (fun hcomment => .pure ?_) fun _ => ?_
  · exact like_appendComment ht hchild.lt (by simpa [isComment] using hcomment) h
  · refine related_appendChild ht _ hchild (.ite (like_breakBeforeOperand ht _ _ _ hchild.lt _ h) ?_ h)
    rw [h.fresh_eq, h.pendingBreak_eq]

lemma related_functionCall :
    Related C (functionCall ⟨t₁, p⟩ r₁ id ctx column) (functionCall ⟨t₂, p.cased k⟩ r₂ id ctx column)
      (Piece.Like R) := by
  refine related_onOneLineOr ht hr hid ?_
  unfold brokenCall
  rw [← visibleChildren_eq ht]
  refine Related.foldlM (fun x hx b₁ b₂ h => ?_) (.of_none rfl)
  exact related_appendChild ht _ (hr x.1 (mem_of_mem_withRest hx).1) h

end

/-! ### Groups -/

lemma related_groupContent (hr : ∀ child ∈ children, RenderAlike C R t₁ r₁ r₂ child)
    (placement : Placement) (isFirst : Bool) (h : Like R b₁ b₂) :
    Related C (groupContent ⟨t₁, p⟩ r₁ placement ctx isFirst children b₁)
      (groupContent ⟨t₂, p.cased k⟩ r₂ placement ctx isFirst children b₂) (Like R) := by
  induction children generalizing isFirst b₁ b₂ with
  | nil => exact .pure h
  | cons child rest ih =>
    unfold groupContent
    dsimp only
    refine (related_appendChild ht _ (hr child (by simp)) ?_).bind
      fun _ _ h => ih (fun c hc => hr c (by simp [hc])) _ h
    split
    · exact h.beginLineAt _
    · exact h

omit ht in
lemma related_groupClose {close : Nat} (hr : RenderAlike C R t₁ r₁ r₂ close) (placement : Placement)
    (h : Like R b₁ b₂) :
    Related C (groupClose r₁ placement close ctx column b₁) (groupClose r₂ placement close ctx column b₂)
      (Like R) := by
  refine related_appendHere hr ?_
  split
  · exact h.newlineAt _
  · exact .ite (h.newlineAt column) (by rw [h.pendingBreak_eq]) h

lemma related_placedGroup (hr : ∀ child ∈ visibleChildren ⟨t₁, p⟩ id, RenderAlike C R t₁ r₁ r₂ child)
    (placement : Placement) :
    Related C (placedGroup ⟨t₁, p⟩ r₁ placement id ctx column)
      (placedGroup ⟨t₂, p.cased k⟩ r₂ placement id ctx column) (Like R) := by
  unfold placedGroup closingParen?
  simp only [← visibleChildren_eq ht, ← isLeafOf_eq ht]
  refine (related_appendChildren ht _ (fun c hc => hr c (List.mem_of_mem_take (List.mem_of_mem_filter hc)))
    (.of_none rfl)).bind fun _ _ h => ?_
  refine (related_groupContent ht (fun c hc => hr c (List.mem_of_mem_drop (List.mem_of_mem_filter hc)))
    placement true h).bind fun _ _ h => ?_
  split
  · next close hclose =>
    have hlast := List.mem_of_getLast? (Option.filter_eq_some_iff.1 hclose).1
    exact related_groupClose (hr close hlast) placement h
  · exact .pure h

omit ht in
lemma isBetter_eq {c₁ c₂ : LineBuffer} (h : Like R b₁ b₂) (h' : Like R c₁ c₂) :
    isBetter b₁ c₁ = isBetter b₂ c₂ := by
  rw [isBetter, isBetter, h.height_eq, h.width_eq, h'.height_eq, h'.width_eq]

lemma related_group (hid : id < t₁.size)
    (hr : ∀ child ∈ visibleChildren ⟨t₁, p⟩ id, RenderAlike C R t₁ r₁ r₂ child) :
    Related C (group ⟨t₁, p⟩ r₁ id ctx column) (group ⟨t₂, p.cased k⟩ r₂ id ctx column) (Piece.Like R) := by
  refine related_onOneLineOr ht hr hid ?_
  unfold brokenGroup
  dsimp only
  rw [ht.parenLevel (ht.first hid)]
  split
  · exact related_placedGroup ht hr _
  · refine (related_placedGroup ht hr _).bind fun under₁ under₂ hunder => ?_
    refine .ite Iff.rfl (fun _ => .pure hunder) fun _ => ?_
    refine (related_placedGroup ht hr _).bind fun indented₁ indented₂ hindented => .pure ?_
    exact .ite hindented (by rw [isBetter_eq hindented hunder]) hunder

/-! ### `CASE` -/

omit ht in
lemma like_moveToThen (branch : Option (CasePhase × Option Nat)) (h : Like R b₁ b₂) :
    Like R (moveToThen ⟨t₁, p⟩ branch column b₁) (moveToThen ⟨t₂, p.cased k⟩ branch column b₂) := by
  unfold moveToThen
  dsimp only
  split
  · exact h.newlineAt _
  · exact .ite (h.padTo _) (by rw [h.column_eq, h.pendingBreak_eq]) (h.separate true)
  · exact h.separate true

lemma related_appendResult (hr : ∀ child ∈ children, RenderAlike C R t₁ r₁ r₂ child) (parent : NodeKind)
    (h : Like R b₁ b₂) :
    Related C (appendResult ⟨t₁, p⟩ r₁ parent children ctx column b₁)
      (appendResult ⟨t₂, p.cased k⟩ r₂ parent children ctx column b₂) (Like R) := by
  refine Related.foldlM (fun child hchild b₁ b₂ h => ?_) h
  refine .ite (by rw [ht.kind]) (fun _ => ?_) fun _ => related_appendChild ht _ (hr child hchild) h
  exact related_appendHere (hr child hchild) (h.newlineAt _)

lemma related_brokenWhen (hr : ∀ child ∈ visibleChildren ⟨t₁, p⟩ id, RenderAlike C R t₁ r₁ r₂ child) :
    Related C (brokenWhen ⟨t₁, p⟩ r₁ id ctx column) (brokenWhen ⟨t₂, p.cased k⟩ r₂ id ctx column) (Like R) := by
  unfold brokenWhen
  simp only [← visibleChildren_eq ht, ← isLeafOf_eq ht]
  refine (related_appendChildren ht _ (fun c hc => hr c (List.takeWhile_subset _ hc))
    (.of_none rfl)).bind fun b₁ b₂ h => ?_
  split
  · exact .pure h
  · next keyword result hdrop =>
    have hmem (c : Nat) (hc : c ∈ keyword :: result) := hr c (List.mem_of_mem_drop (hdrop ▸ hc))
    refine .ite Iff.rfl (fun _ => .pure h) fun _ => ?_
    refine (related_appendHere (hmem keyword (by simp)) (like_moveToThen _ h)).bind fun _ _ h => ?_
    exact related_appendResult ht (fun c hc => hmem c (by simp [hc])) _ h

lemma related_thenColumn? (hr : ∀ child ∈ children, RenderAlike C R t₁ r₁ r₂ child) :
    Related C (thenColumn? ⟨t₁, p⟩ r₁ children column) (thenColumn? ⟨t₂, p.cased k⟩ r₂ children column) Eq := by
  unfold thenColumn?
  simp only [← ht.kind]
  refine (Related.foldlM (fun branch hbranch known₁ known₂ hknown => ?_) rfl).bind
    fun _ _ h => .pure (by rw [h])
  subst hknown
  refine ((hr branch (List.mem_of_mem_filter hbranch)).related _ _).bind fun _ _ hhead => .pure ?_
  rw [hhead.isSingleLine_eq, hhead.endColumn_eq]

omit ht in
lemma like_moveToEnd (isStatement : Bool) (whenColumn : Nat) (h : Like R b₁ b₂) :
    Like R (moveToEnd ⟨t₁, p⟩ isStatement column whenColumn b₁)
      (moveToEnd ⟨t₂, p.cased k⟩ isStatement column whenColumn b₂) := by
  unfold moveToEnd
  refine .ite (h.newlineAt _) Iff.rfl ?_
  dsimp only
  split
  · exact h.newlineAt _
  · exact h.newlineAt _
  · exact h.separate true

lemma related_appendBranch {frame : CaseFrame} (hend : ∀ leaf, frame.endLeaf = some leaf → leaf < t₁.size)
    (hr : RenderAlike C R t₁ r₁ r₂ id) (isFirst isLast : Bool) (h : Like R b₁ b₂) :
    Related C (appendBranch ⟨t₁, p⟩ r₁ frame id isFirst isLast b₁)
      (appendBranch ⟨t₂, p.cased k⟩ r₂ frame id isFirst isLast b₂) (Like R) := by
  have htrailing : branchTrailing ⟨t₁, p⟩ frame isLast = branchTrailing ⟨t₂, p.cased k⟩ frame isLast := by
    unfold branchTrailing
    split
    · next leaf hleaf => rw [measured_eq ht (hend leaf hleaf)]
    · rfl
  unfold appendBranch
  dsimp only
  rw [ht.kind, htrailing, h.pendingBreak_eq]
  exact related_appendHere hr (.ite (h.padTo _) Iff.rfl (h.newlineAt _))

lemma related_appendParts {frame : CaseFrame} (hend : ∀ leaf, frame.endLeaf = some leaf → leaf < t₁.size)
    (hr : ∀ child ∈ children, RenderAlike C R t₁ r₁ r₂ child) (isFirst ended : Bool) (h : Like R b₁ b₂) :
    Related C (appendParts ⟨t₁, p⟩ r₁ frame isFirst ended children b₁)
      (appendParts ⟨t₂, p.cased k⟩ r₂ frame isFirst ended children b₂) (Like R) := by
  induction children generalizing isFirst ended b₁ b₂ with
  | nil => exact .pure h
  | cons child rest ih =>
    have hchild := hr child (by simp)
    have hrest : ∀ c ∈ rest, RenderAlike C R t₁ r₁ r₂ c := fun c hc => hr c (by simp [hc])
    rw [appendParts, appendParts]
    simp only [← ht.kind, isEnd, ← isLeafOf_eq ht]
    refine .ite Iff.rfl (fun _ => ?_) fun _ => .ite Iff.rfl (fun _ => ?_) fun _ => ?_
    · exact (related_appendHere hchild (like_moveToEnd _ _ h)).bind fun _ _ h => ih hrest _ _ h
    · exact (related_appendBranch ht hend hchild _ _ h).bind fun _ _ h => ih hrest _ _ h
    · exact (related_appendChild ht _ hchild h).bind fun _ _ h => ih hrest _ _ h

lemma related_brokenCase (hr : ∀ child ∈ visibleChildren ⟨t₁, p⟩ id, RenderAlike C R t₁ r₁ r₂ child) :
    Related C (brokenCase ⟨t₁, p⟩ r₁ id ctx column) (brokenCase ⟨t₂, p.cased k⟩ r₂ id ctx column) (Like R) := by
  have hisEnd : isEnd ⟨t₂, p.cased k⟩ = isEnd ⟨t₁, p⟩ := funext fun c => (isLeafOf_eq ht c _).symm
  unfold brokenCase
  simp only [← visibleChildren_eq ht, ← ht.kind, hisEnd]
  refine (related_appendChildren ht _ (fun c hc => hr c (List.takeWhile_subset _ hc))
    (.of_none rfl)).bind fun b₁ b₂ h => ?_
  have hwhen : whenColumn ⟨t₁, p⟩ column b₁ = whenColumn ⟨t₂, p.cased k⟩ column b₂ := by
    unfold whenColumn
    rw [h.pendingBreak_eq, h.column_eq]
    rfl
  rw [hwhen]
  generalize hdrop : (visibleChildren ⟨t₁, p⟩ id).drop _ = parts
  have hparts (c : Nat) (hc : c ∈ parts) := hr c (List.mem_of_mem_drop (hdrop ▸ hc))
  have hend : ∀ leaf, parts.find? (isEnd ⟨t₁, p⟩) = some leaf → leaf < t₁.size :=
    fun leaf hleaf => (hparts leaf (List.mem_of_find?_eq_some hleaf)).lt
  refine .ite Iff.rfl (fun _ => ?_) fun _ => ?_
  · refine (related_thenColumn? ht hparts).bind fun then₁ then₂ hthen => ?_
    subst hthen
    exact related_appendParts ht hend hparts true false h
  · exact (Related.pure rfl).bind fun then₁ then₂ (hthen : then₁ = then₂) =>
      hthen ▸ related_appendParts ht hend hparts true false h

section

variable (hid : id < t₁.size)
  (hr : ∀ child ∈ visibleChildren ⟨t₁, p⟩ id, RenderAlike C R t₁ r₁ r₂ child)

include hid hr

lemma related_whenBranch :
    Related C (whenBranch ⟨t₁, p⟩ r₁ id ctx column) (whenBranch ⟨t₂, p.cased k⟩ r₂ id ctx column)
      (Piece.Like R) := by
  refine .ite Iff.rfl (fun _ => related_onOneLineOr ht hr hid (related_brokenWhen ht hr)) fun _ => ?_
  exact (related_brokenWhen ht hr).bind fun _ _ h => .pure (.lines h)

lemma related_elseBranch :
    Related C (elseBranch ⟨t₁, p⟩ r₁ id ctx column) (elseBranch ⟨t₂, p.cased k⟩ r₂ id ctx column)
      (Piece.Like R) := by
  refine related_onOneLineOr ht hr hid ?_
  rw [← visibleChildren_eq ht]
  exact related_appendResult ht hr _ (.of_none rfl)

lemma related_caseOf :
    Related C (caseOf ⟨t₁, p⟩ r₁ id ctx column) (caseOf ⟨t₂, p.cased k⟩ r₂ id ctx column) (Piece.Like R) := by
  refine .ite (by rw [ht.kind]) (fun _ => ?_) fun _ =>
    related_onOneLineOr ht hr hid (related_brokenCase ht hr)
  exact (related_brokenCase ht hr).bind fun _ _ h => .pure (.lines h)

end

end SqlLayout.Sheet
