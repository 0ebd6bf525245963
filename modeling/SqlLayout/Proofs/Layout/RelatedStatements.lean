import SqlLayout.Layout.Control
import SqlLayout.Layout.Routine
import SqlLayout.Layout.Statement
import SqlLayout.Proofs.Layout.Related

/-!
# Statements and routines side by side

The layouts of statements, clauses, control structures and routines in alike trees are related, if those
of their children are.
-/

namespace SqlLayout.Sheet

open LineBuffer (Like)

variable {m₁ m₂ : Type → Type} [Monad m₁] [Monad m₂] [Faulting m₁] [Faulting m₂]
  [MonadStateOf (Cache Policy) m₁] [MonadStateOf (Cache Policy) m₂] [Coupling m₁ m₂]
  {R : Correspondence} {C : Cache Policy → Cache Policy → Prop} {t₁ t₂ : Tree} {p : Policy} {k : LetterCases}
  {r₁ : RenderIn m₁} {r₂ : RenderIn m₂} {id : Nat} {ctx : Context} {column : Nat} {children : List Nat} {b₁ b₂ : LineBuffer}

/-! ### Several statements -/

lemma like_statementGap (h : Like R b₁ b₂) :
    Like R (statementGap ⟨t₁, p⟩ b₁) (statementGap ⟨t₂, p.cased k⟩ b₂) :=
  .ite (h.newlineAt 0) Iff.rfl ((h.newlineAt 0).newlineAt 0)

lemma like_gapBeforeComment (previous : TopEntry) (ownLine : Bool) (h : Like R b₁ b₂) :
    Like R (gapBeforeComment ⟨t₁, p⟩ previous ownLine b₁) (gapBeforeComment ⟨t₂, p.cased k⟩ previous ownLine b₂) := by
  unfold gapBeforeComment
  split
  · exact like_statementGap h
  · exact h.newlineAt 0
  · exact h

lemma like_gapBeforeStatement (previous : TopEntry) (h : Like R b₁ b₂) :
    Like R (gapBeforeStatement ⟨t₁, p⟩ previous b₁) (gapBeforeStatement ⟨t₂, p.cased k⟩ previous b₂) := by
  cases previous with
  | nothing => exact h
  | statement => exact like_statementGap h
  | comment => exact .ite (h.newlineAt 0) (by rw [h.pendingBreak_eq]) h.pushSpace

/-! ### Widths that are looked at -/

section

variable (ht : t₁.Alike R p k t₂)

include ht

lemma controlTrailing_eq (kind : NodeKind) (hid : id < t₁.size)
    (hlt : ∀ child ∈ children, child < t₁.size) :
    controlTrailing ⟨t₁, p⟩ kind id children = controlTrailing ⟨t₂, p.cased k⟩ kind id children := by
  cases children with
  | nil => rfl
  | cons next rest =>
    simp only [controlTrailing, isKeywordLeaf_eq ht, measured_eq ht (hlt next (by simp)),
      gluedTrailing_eq ht kind 0 hid hlt]

lemma fitsAfter_eq (hid : id < t₁.size) (trailing : Nat) (h : Like R b₁ b₂) :
    fitsAfter ⟨t₁, p⟩ id trailing b₁ = fitsAfter ⟨t₂, p.cased k⟩ id trailing b₂ := by
  rw [fitsAfter, fitsAfter, measure_eq ht hid, h.column_eq]
  rfl

lemma bodyOpeningWidth?_eq (hlt : ∀ child ∈ children, child < t₁.size) (isFirst : Bool) :
    bodyOpeningWidth? ⟨t₁, p⟩ isFirst children = bodyOpeningWidth? ⟨t₂, p.cased k⟩ isFirst children := by
  induction children generalizing isFirst with
  | nil => rfl
  | cons child rest ih =>
    rw [bodyOpeningWidth?, bodyOpeningWidth?, ih fun c hc => hlt c (by simp [hc])]
    simp only [ht.kind, isLeaf_eq ht, treeLeafText_eq ht (hlt child (by simp))]

lemma attributesWidth?_eq {attributes : List Nat} (hlt : ∀ attr ∈ attributes, attr < t₁.size)
    (body : Option Nat) :
    attributesWidth? ⟨t₁, p⟩ attributes body = attributesWidth? ⟨t₂, p.cased k⟩ attributes body := by
  have hopening (body : Nat) : bodyOpeningWidth? ⟨t₁, p⟩ true (visibleChildren ⟨t₁, p⟩ body)
      = bodyOpeningWidth? ⟨t₂, p.cased k⟩ true (visibleChildren ⟨t₂, p.cased k⟩ body) := by
    rw [← visibleChildren_eq ht]
    exact bodyOpeningWidth?_eq ht (fun c hc => lt_of_mem_visibleChildren ht hc) true
  unfold attributesWidth?
  simp only [hopening]
  refine List.foldr_ext _ _ _ fun attr hattr total => ?_
  rw [measure_eq ht (hlt attr hattr)]

end

/-! ### Children one after the other -/

section

variable (ht : t₁.Alike R p k t₂) (hr : ∀ child ∈ children, RenderAlike C R t₁ r₁ r₂ child)

include ht hr

lemma related_appendTopEntries (previous : TopEntry) (h : Like R b₁ b₂) :
    Related C (appendTopEntries ⟨t₁, p⟩ r₁ previous children b₁)
      (appendTopEntries ⟨t₂, p.cased k⟩ r₂ previous children b₂) (Like R) := by
  induction children generalizing previous b₁ b₂ with
  | nil => exact .pure h
  | cons child rest ih =>
    have hchild := hr child (by simp)
    have ih {b₁ b₂} previous := @ih b₁ b₂ (fun c hc => hr c (by simp [hc])) previous
    rw [appendTopEntries, appendTopEntries]
    refine .ite (by rw [isComment_eq ht]) (fun hcomment => ?_) fun _ => ?_
    · have hkind : t₁.kind child = .comment := by simpa [isComment] using hcomment
      dsimp only
      rw [ht.startsLine hchild.lt hkind]
      exact ih _ (like_appendComment ht hchild.lt hkind (like_gapBeforeComment previous _ h))
    · exact (related_appendHere hchild (like_gapBeforeStatement previous h)).bind fun _ _ h => ih _ h

lemma related_appendClauses (seenClause : Bool) (h : Like R b₁ b₂) :
    Related C (appendClauses ⟨t₁, p⟩ r₁ ctx column seenClause children b₁)
      (appendClauses ⟨t₂, p.cased k⟩ r₂ ctx column seenClause children b₂) (Like R) := by
  induction children generalizing seenClause b₁ b₂ with
  | nil => exact .pure h
  | cons child rest ih =>
    have hchild := hr child (by simp)
    have hrest : ∀ c ∈ rest, RenderAlike C R t₁ r₁ r₂ c := fun c hc => hr c (by simp [hc])
    rw [appendClauses, appendClauses]
    dsimp only
    rw [ht.kind, gluedTrailing_eq ht _ _ hchild.lt fun c hc => (hrest c hc).lt]
    exact (related_appendChild ht _ hchild (.ite (h.newlineAt column) Iff.rfl h)).bind
      fun _ _ h => ih hrest _ h

lemma related_appendClauseBody (ownLine : Option Nat) (started : Bool) (h : Like R b₁ b₂) :
    Related C (appendClauseBody ⟨t₁, p⟩ r₁ ctx column ownLine started children b₁)
      (appendClauseBody ⟨t₂, p.cased k⟩ r₂ ctx column ownLine started children b₂) (Like R) := by
  induction children generalizing started b₁ b₂ with
  | nil => exact .pure h
  | cons child rest ih =>
    have hchild := hr child (by simp)
    have hrest : ∀ c ∈ rest, RenderAlike C R t₁ r₁ r₂ c := fun c hc => hr c (by simp [hc])
    unfold appendClauseBody
    dsimp only
    rw [gluedTrailing_eq ht _ _ hchild.lt fun c hc => (hrest c hc).lt]
    refine .ite (by rw [isComment_eq ht]) (fun _ => ?_) fun _ => ?_
    · exact (related_appendChild ht _ hchild h).bind fun _ _ h => ih hrest _ h
    · refine (related_appendChild ht _ hchild ?_).bind fun _ _ h => ih hrest _ h
      split
      · exact h.beginLineAt _
      · exact h

lemma related_appendClauseKeywords {body : List Nat} (hbody : ∀ child ∈ body, child < t₁.size)
    (h : Like R b₁ b₂) :
    Related C (appendClauseKeywords ⟨t₁, p⟩ r₁ ctx column body children b₁)
      (appendClauseKeywords ⟨t₂, p.cased k⟩ r₂ ctx column body children b₂) (Like R) := by
  induction children generalizing b₁ b₂ with
  | nil => exact .pure h
  | cons child rest ih =>
    have hchild := hr child (by simp)
    have hrest : ∀ c ∈ rest, RenderAlike C R t₁ r₁ r₂ c := fun c hc => hr c (by simp [hc])
    have hfollow : ∀ c ∈ rest ++ body, c < t₁.size := fun c hc =>
      (List.mem_append.1 hc).elim (fun hc => (hrest c hc).lt) (hbody c)
    rw [appendClauseKeywords, appendClauseKeywords, gluedTrailing_eq ht _ _ hchild.lt hfollow]
    exact (related_appendChild ht _ hchild h).bind fun _ _ h => ih hrest h

lemma related_appendControl (kind : NodeKind) (afterLabel : Bool) (h : Like R b₁ b₂) :
    Related C (appendControl ⟨t₁, p⟩ r₁ kind column afterLabel children b₁)
      (appendControl ⟨t₂, p.cased k⟩ r₂ kind column afterLabel children b₂) (Like R) := by
  induction children generalizing afterLabel b₁ b₂ with
  | nil => exact .pure h
  | cons child rest ih =>
    have hchild := hr child (by simp)
    have hrest : ∀ c ∈ rest, RenderAlike C R t₁ r₁ r₂ c := fun c hc => hr c (by simp [hc])
    have hlabel : Like R (if afterLabel then b₁.beginLineAt column else b₁)
        (if afterLabel then b₂.beginLineAt column else b₂) := .ite (h.beginLineAt column) Iff.rfl h
    have hclose := ht.labelClose (ht.first hchild.lt)
    rw [appendControl, appendControl]
    dsimp only
    refine .ite (by rw [ht.kind]) (fun hkind => ?_) fun _ => .ite (by rw [ht.kind]) (fun _ => ?_)
      fun _ => .ite (by rw [ht.kind]) (fun _ => ?_) fun _ =>
      .ite (by rw [isLeafOf_eq ht, isLeafOf_eq ht]) (fun _ => ?_) fun _ => ?_
    · exact ih hrest _ (like_appendComment ht hchild.lt hkind h)
    · exact (related_appendHere hchild (hlabel.newlineAt _)).bind fun _ _ h => ih hrest _ h
    · exact (related_appendHere hchild (hlabel.beginLineAt _)).bind fun _ _ h => ih hrest _ h
    · exact (related_appendChild ht _ hchild (hlabel.beginLineAt _)).bind fun _ _ h => ih hrest _ h
    · rw [controlTrailing_eq ht kind hchild.lt fun c hc => (hrest c hc).lt, hclose, isLeaf_eq ht]
      exact (related_appendChild ht _ hchild hlabel).bind fun _ _ h => ih hrest _ h

lemma related_appendGlued (parent : NodeKind) (indent : Nat) (h : Like R b₁ b₂) :
    Related C (appendGlued ⟨t₁, p⟩ r₁ parent ctx indent children b₁)
      (appendGlued ⟨t₂, p.cased k⟩ r₂ parent ctx indent children b₂) (Like R) := by
  refine Related.foldlM (fun x hx b₁ b₂ h => ?_) h
  obtain ⟨hchild, hrest⟩ := mem_of_mem_withRest hx
  dsimp only
  rw [gluedTrailing_eq ht _ _ (hr x.1 hchild).lt fun c hc => (hr c (hrest c hc)).lt]
  exact related_appendChild ht parent (hr x.1 hchild) h

lemma related_appendAttributes (isInline afterBody : Bool) (h : Like R b₁ b₂) :
    Related C (appendAttributes ⟨t₁, p⟩ r₁ ctx column isInline afterBody children b₁)
      (appendAttributes ⟨t₂, p.cased k⟩ r₂ ctx column isInline afterBody children b₂) (Like R) := by
  induction children generalizing afterBody b₁ b₂ with
  | nil => exact .pure h
  | cons child rest ih =>
    have hchild := hr child (by simp)
    have hrest : ∀ c ∈ rest, RenderAlike C R t₁ r₁ r₂ c := fun c hc => hr c (by simp [hc])
    rw [appendAttributes, appendAttributes]
    dsimp only
    rw [ht.kind, gluedTrailing_eq ht _ _ hchild.lt fun c hc => (hrest c hc).lt,
      fitsAfter_eq ht hchild.lt _ h]
    exact (related_appendChild ht _ hchild (.ite (h.newlineAt _) Iff.rfl h)).bind
      fun _ _ h => ih hrest _ h

lemma related_appendTableParts (afterColumns : Bool) (h : Like R b₁ b₂) :
    Related C (appendTableParts ⟨t₁, p⟩ r₁ ctx column afterColumns children b₁)
      (appendTableParts ⟨t₂, p.cased k⟩ r₂ ctx column afterColumns children b₂) (Like R) := by
  induction children generalizing afterColumns b₁ b₂ with
  | nil => exact .pure h
  | cons child rest ih =>
    have hchild := hr child (by simp)
    have hrest : ∀ c ∈ rest, RenderAlike C R t₁ r₁ r₂ c := fun c hc => hr c (by simp [hc])
    rw [appendTableParts, appendTableParts]
    dsimp only
    rw [ht.kind, gluedTrailing_eq ht _ _ hchild.lt fun c hc => (hrest c hc).lt,
      fitsAfter_eq ht hchild.lt _ h, h.pendingBreak_eq]
    exact (related_appendChild ht _ hchild (.ite (h.newlineAt _) Iff.rfl h)).bind
      fun _ _ h => ih hrest _ h

end

/-! ### Nodes -/

variable (ht : t₁.Alike R p k t₂) (hid : id < t₁.size)
  (hr : ∀ child ∈ visibleChildren ⟨t₁, p⟩ id, RenderAlike C R t₁ r₁ r₂ child)

include ht hr

lemma related_root : Related C (root ⟨t₁, p⟩ r₁ id) (root ⟨t₂, p.cased k⟩ r₂ id) (Piece.Like R) := by
  unfold root
  rw [← visibleChildren_eq ht]
  exact (related_appendTopEntries ht hr _ (.of_none rfl)).bind fun _ _ h => .pure (.lines h)

lemma related_statementList :
    Related C (statementList ⟨t₁, p⟩ r₁ id column) (statementList ⟨t₂, p.cased k⟩ r₂ id column)
      (Piece.Like R) := by
  unfold statementList
  rw [← visibleChildren_eq ht]
  refine (Related.foldlM (fun x hx b₁ b₂ h => ?_) (Like.of_none rfl)).bind fun _ _ h => .pure (.lines h)
  have hchild := hr x.1 (List.fst_mem_of_mem_zipIdx hx)
  refine .ite (by rw [isComment_eq ht]) (fun hcomment => .pure ?_) fun _ => ?_
  · exact like_appendComment ht hchild.lt (by simpa [isComment] using hcomment) h
  · refine related_appendHere hchild (.ite (h.newlineAt column) ?_ h)
    rw [h.pendingBreak_eq]

include hid

lemma related_statement :
    Related C (statement ⟨t₁, p⟩ r₁ id ctx column) (statement ⟨t₂, p.cased k⟩ r₂ id ctx column)
      (Piece.Like R) := by
  refine related_onOneLineOr ht hr hid ?_
  rw [← visibleChildren_eq ht]
  exact related_appendClauses ht hr false (.of_none rfl)

lemma related_clause :
    Related C (clause ⟨t₁, p⟩ r₁ id ctx column) (clause ⟨t₂, p.cased k⟩ r₂ id ctx column) (Piece.Like R) := by
  refine related_onOneLineOr ht hr hid ?_
  unfold brokenClause
  have hkeyword : isKeywordLeaf ⟨t₁, p⟩ = isKeywordLeaf ⟨t₂, p.cased k⟩ := funext (isKeywordLeaf_eq ht)
  have hcomment : isComment ⟨t₁, p⟩ = isComment ⟨t₂, p.cased k⟩ := funext (isComment_eq ht)
  dsimp only
  rw [← visibleChildren_eq ht, ← hkeyword, ← hcomment]
  have hbody {n : Nat} : ∀ c ∈ (visibleChildren ⟨t₁, p⟩ id).drop n, RenderAlike C R t₁ r₁ r₂ c :=
    fun c hc => hr c (List.mem_of_mem_drop hc)
  refine (related_appendClauseKeywords ht (fun c hc => hr c (List.takeWhile_subset _ hc))
    (fun c hc => (hbody c hc).lt) (.of_none rfl)).bind fun _ _ h => ?_
  exact related_appendClauseBody ht hbody _ _ h

omit hid in
lemma related_control :
    Related C (control ⟨t₁, p⟩ r₁ id column) (control ⟨t₂, p.cased k⟩ r₂ id column) (Piece.Like R) := by
  unfold control
  dsimp only
  rw [← visibleChildren_eq ht, ht.kind]
  exact (related_appendControl ht hr _ false (.of_none rfl)).bind fun _ _ h => .pure (.lines h)

omit hid in
lemma related_exceptionSection :
    Related C (exceptionSection ⟨t₁, p⟩ r₁ id column) (exceptionSection ⟨t₂, p.cased k⟩ r₂ id column)
      (Piece.Like R) := by
  unfold exceptionSection
  dsimp only
  rw [← visibleChildren_eq ht]
  refine (Related.foldlM (fun child hchild b₁ b₂ h => ?_) (Like.of_none rfl)).bind
    fun _ _ h => .pure (.lines h)
  refine .ite (by rw [ht.kind]) (fun _ => ?_) fun _ => related_appendChild ht _ (hr child hchild) h
  exact related_appendHere (hr child hchild) (h.newlineAt _)

lemma related_routineDefinition :
    Related C (routineDefinition ⟨t₁, p⟩ r₁ id ctx column) (routineDefinition ⟨t₂, p.cased k⟩ r₂ id ctx column)
      (Piece.Like R) := by
  refine related_onOneLineOr ht hr hid ?_
  unfold brokenRoutine
  simp only [← visibleChildren_eq ht, ← ht.kind]
  refine (related_appendChildren ht _ (fun c hc => hr c (List.takeWhile_subset _ hc))
    (.of_none rfl)).bind fun b₁ b₂ h => ?_
  rw [attributesWidth?_eq ht, h.pendingBreak_eq, h.column_eq]
  · exact related_appendAttributes ht (fun c hc => hr c (List.mem_of_mem_drop hc)) _ false h
  · intro attr hattr
    have hmem := List.takeWhile_subset _ (List.mem_of_mem_filter hattr)
    exact (hr attr (List.mem_of_mem_drop hmem)).lt

lemma related_routineBody :
    Related C (routineBody ⟨t₁, p⟩ r₁ id ctx column) (routineBody ⟨t₂, p.cased k⟩ r₂ id ctx column)
      (Piece.Like R) := by
  refine related_onOneLineOr ht hr hid ?_
  unfold brokenBody
  rw [← visibleChildren_eq ht]
  refine Related.foldlM (fun x hx b₁ b₂ h => ?_) (.of_none rfl)
  obtain ⟨hmem, hrest⟩ := mem_of_mem_withRest hx
  have hchild := hr x.1 hmem
  dsimp only
  rw [gluedTrailing_eq ht _ _ hchild.lt fun c hc => (hr c (hrest c hc)).lt]
  refine .ite (by rw [ht.kind]) (fun _ => ?_) fun _ => .ite (by rw [isLeafOf_eq ht]) (fun _ => ?_)
    fun _ => related_appendChild ht _ hchild h
  · exact related_appendHere hchild (h.newlineAt _)
  · exact related_appendHere hchild (h.newlineAt _)

omit hid in
lemma related_doBlock :
    Related C (doBlock ⟨t₁, p⟩ r₁ id ctx column) (doBlock ⟨t₂, p.cased k⟩ r₂ id ctx column) (Piece.Like R) := by
  unfold doBlock
  rw [← visibleChildren_eq ht]
  exact (related_appendGlued ht hr _ _ (.of_none rfl)).bind fun _ _ h => .pure (.lines h)

lemma related_tableDefinition :
    Related C (tableDefinition ⟨t₁, p⟩ r₁ id ctx column) (tableDefinition ⟨t₂, p.cased k⟩ r₂ id ctx column)
      (Piece.Like R) := by
  refine related_onOneLineOr ht hr hid ?_
  rw [← visibleChildren_eq ht]
  exact related_appendTableParts ht hr false (.of_none rfl)

end SqlLayout.Sheet
