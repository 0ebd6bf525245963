import SqlLayout.Proofs.Layout.Cached
import SqlLayout.Proofs.Layout.Expressions

/-!
# Layouts without comments

Only a comment can demand that a line ends behind it. Without comments, what follows the layout of a node
may stay on the line of its last token, whatever its kind; and a cache that is switched off stays as it is.
-/

namespace SqlLayout

/-- Whether what follows may stay on the line of what has been written. -/
def LineBuffer.GoesOn (b : LineBuffer) : Prop :=
  b.pendingBreak = false

/-- Whether what follows a piece may stay on its last line. -/
def Piece.GoesOn (piece : Piece) : Prop :=
  piece.pendingBreak = false

namespace LineBuffer

variable {b : LineBuffer}

lemma goesOn_startingAt (column indent : Nat) :
    GoesOn { startingAt column with indentBase := indent } := rfl

lemma goesOn_newlineAt (column : Nat) (b : LineBuffer) : (b.newlineAt column).GoesOn := rfl

lemma goesOn_separate (space : Bool) (b : LineBuffer) : (b.separate space).GoesOn :=
  Sheet.pendingBreak_separate space b

namespace GoesOn

variable (h : b.GoesOn)

include h

/-- A new line is started or not. -/
lemma ite_newlineAt (c : Prop) [Decidable c] (column : Nat) : (if c then b.newlineAt column else b).GoesOn := by
  split
  · exact goesOn_newlineAt column b
  · exact h

lemma beginLineAt (column : Nat) : (b.beginLineAt column).GoesOn := by
  rw [LineBuffer.beginLineAt]
  split
  · exact h
  · exact goesOn_newlineAt column b

lemma pushSpace : b.pushSpace.GoesOn := by
  rw [LineBuffer.pushSpace]
  split
  · exact h
  · exact h

lemma padTo (column : Nat) : (b.padTo column).GoesOn :=
  (Sheet.pendingBreak_padTo column b).trans h

lemma push (text : Text) : (b.push text).GoesOn := by
  rw [LineBuffer.push, h]
  exact h

lemma pushVerbatim (text : Text) : (b.pushVerbatim text).GoesOn := by
  have hlines (lines : List Text) {b : LineBuffer} (h : b.GoesOn) : (lines.foldl pushLine b).GoesOn := by
    induction lines generalizing b with
    | nil => exact h
    | cons line lines ih => exact ih h
  rw [LineBuffer.pushVerbatim]
  split
  · exact h
  · next first rest _ => exact hlines rest (h.push first)

/-- After a piece the line goes on as it does after the piece. -/
lemma append {piece : Piece} (hpiece : piece.GoesOn) : (b.append piece).GoesOn := by
  cases piece with
  | fragment start text last => exact h
  | lines other => exact hpiece

end GoesOn
end LineBuffer

namespace Sheet

open LineBuffer (goesOn_startingAt goesOn_newlineAt goesOn_separate)

variable {sh : Sheet} {I : Cache Policy → Prop} {render : Render} {id column : Nat} {children : List Nat}
  {ctx : Context} {b : LineBuffer}

/-! ### Leaves and errors -/

lemma goesOn_leaf (id : Nat) (role : LeafRole) (column : Nat) : (sh.leaf id role column).GoesOn := by
  unfold leaf
  dsimp only
  split
  · exact (goesOn_startingAt column column).pushVerbatim _
  · rfl

lemma goesOn_errorPiece (id column : Nat) : (sh.errorPiece id column).GoesOn := by
  unfold errorPiece
  dsimp only
  apply LineBuffer.GoesOn.pushVerbatim
  split
  · exact goesOn_startingAt column column
  · exact (goesOn_startingAt column column).push _

/-! ### Appending nodes -/

/-- Without comments, what is done for them does not matter. -/
lemma ensures_of_bare (hbare : ∀ i, sh.isComment i = false) {α : Type} {layout layout' : Layout α}
    {post : α → Prop} (h : Ensures I layout' post) :
    Ensures I (if sh.isComment id then layout else layout') post := by
  rw [hbare id]
  exact h

section

variable (hbare : ∀ i, sh.isComment i = false)
  (hr : ∀ id ctx column, Ensures I (render id ctx column) Piece.GoesOn)

include hr

lemma goesOn_appendHere (hb : b.GoesOn) : Ensures I (appendHere render id ctx b) LineBuffer.GoesOn :=
  (hr id ctx b.column).bind fun _ hpiece => .pure (hb.append hpiece)

include hbare

lemma goesOn_appendChild (parent : NodeKind) :
    Ensures I (sh.appendChild render parent id ctx b) LineBuffer.GoesOn := by
  rw [appendChild, hbare id]
  exact goesOn_appendHere hr (goesOn_separate _ b)

lemma goesOn_appendChildren (parent : NodeKind) (hb : b.GoesOn) :
    Ensures I (sh.appendChildren render parent children ctx b) LineBuffer.GoesOn :=
  .steps (fun _ _ _ _ => goesOn_appendChild hbare hr parent) hb

/-- A node goes on if it does where it is broken. -/
lemma goesOn_onOneLineOr {broken : Layout LineBuffer} (hbroken : Ensures I broken LineBuffer.GoesOn) :
    Ensures I (sh.onOneLineOr render broken id ctx column) Piece.GoesOn := by
  apply ensures_onOneLineOr_of _ hbroken
  unfold inline
  apply Ensures.bind (.steps (fun _ _ _ _ => goesOn_appendChild hbare hr _) (goesOn_startingAt column column))
  exact fun b hb => .pure hb

/-! ### Expressions, groups and lists -/

lemma goesOn_expression : Ensures I (sh.expression render id ctx column) Piece.GoesOn := by
  apply goesOn_onOneLineOr hbare hr
  apply Ensures.steps (fun x _ b hb => ?_) (goesOn_startingAt _ _)
  exact ensures_of_bare hbare (goesOn_appendChild hbare hr _)

lemma goesOn_functionCall : Ensures I (sh.functionCall render id ctx column) Piece.GoesOn := by
  apply goesOn_onOneLineOr hbare hr
  exact .steps (fun _ _ _ _ => goesOn_appendChild hbare hr _) (goesOn_startingAt _ _)

lemma goesOn_groupContent (placement : Placement) (isFirst : Bool) (hb : b.GoesOn) :
    Ensures I (sh.groupContent render placement ctx isFirst children b) LineBuffer.GoesOn := by
  induction children generalizing isFirst b with
  | nil => exact .pure hb
  | cons child rest ih => exact (goesOn_appendChild hbare hr _).bind fun b hb => ih _ hb

lemma goesOn_placedGroup (placement : Placement) :
    Ensures I (sh.placedGroup render placement id ctx column) LineBuffer.GoesOn := by
  unfold placedGroup
  apply (goesOn_appendChildren hbare hr _ (goesOn_startingAt _ _)).bind
  intro b hb
  apply (goesOn_groupContent hbare hr placement true hb).bind
  intro b hb
  cases sh.closingParen? (sh.visibleChildren id) with
  | none => exact .pure hb
  | some close =>
    apply goesOn_appendHere hr
    cases placement.close with
    | some column => exact goesOn_newlineAt column b
    | none => exact hb.ite_newlineAt _ column

lemma goesOn_group : Ensures I (sh.group render id ctx column) Piece.GoesOn := by
  apply goesOn_onOneLineOr hbare hr
  have hplaced (placement : Placement) :
      Ensures I (sh.placedGroup render placement id ctx column) LineBuffer.GoesOn :=
    goesOn_placedGroup hbare hr placement
  unfold brokenGroup
  dsimp only
  cases sh.policy.lists.parens with
  | ownLines => exact hplaced _
  | glued =>
    apply (hplaced _).bind
    intro under hunder
    refine .ite (fun _ => .pure hunder) fun _ => ?_
    apply (hplaced _).bind
    intro indented hindented
    apply Ensures.pure
    split
    · exact hindented
    · exact hunder

omit hr in
/-- No item of a list holds comments. -/
lemma comments_eq_nil {item : ListItem} (hitem : item.comments = []) :
    ∀ i ∈ sh.itemsFrom item children, i.comments = [] := by
  induction children generalizing item with
  | nil =>
    rw [itemsFrom]
    split
    · nofun
    · exact List.forall_mem_singleton.2 hitem
  | cons child rest ih =>
    rw [itemsFrom, hbare child]
    simp only [Bool.false_eq_true, if_false]
    split_ifs
    · exact List.forall_mem_cons.2 ⟨hitem, ih rfl⟩
    · exact ih hitem
    · exact List.forall_mem_cons.2 ⟨hitem, ih rfl⟩

lemma goesOn_appendComma (comma : Option Nat) (hb : b.GoesOn) :
    Ensures I (sh.appendComma render comma ctx b) LineBuffer.GoesOn := by
  cases comma with
  | none => exact .pure hb
  | some comma => exact goesOn_appendChild hbare hr _

lemma goesOn_placeItem {p : ListProgress} (hp : p.buf.GoesOn) (onePerLine : Bool) (item : ListItem)
    (trailing : Nat) :
    Ensures I (sh.placeItem render onePerLine column ctx item trailing p) fun p => p.buf.GoesOn := by
  unfold placeItem
  dsimp only
  refine .ite (fun _ => .pure hp) fun _ => .ite (fun _ => ?_) fun _ => .ite (fun _ => ?_) fun _ => ?_
  · exact (goesOn_appendComma hbare hr _ hp).bind fun b hb => .pure hb
  · exact (goesOn_appendComma hbare hr _ hp).bind fun b hb => .pure hb.pushSpace
  · suffices hstart : Ensures I (sh.startGroup render column p ctx) LineBuffer.GoesOn from
      hstart.bind fun b hb => .pure hb
    unfold startGroup
    split
    · exact (goesOn_appendHere hr (goesOn_newlineAt _ _)).bind fun b hb => .pure (hb.pushSpace.padTo column)
    · exact .pure (goesOn_newlineAt column _)

lemma goesOn_appendItem {p : ListProgress} (hp : p.buf.GoesOn) {item : ListItem}
    (hitem : item.comments = []) (onePerLine isLast : Bool) :
    Ensures I (sh.appendItem render onePerLine column ctx item isLast p) fun p => p.buf.GoesOn := by
  unfold appendItem
  rw [hitem]
  apply (goesOn_placeItem hbare hr hp onePerLine item _).bind
  intro p hp
  have helement : Ensures I (appendElement render item.element (sh.itemTrailing ctx item isLast) p.buf)
      fun result => result.1.GoesOn := by
    cases item.element with
    | none => exact .pure hp
    | some element => exact (hr _ _ _).bind fun piece hpiece => .pure (hp.append hpiece)
  apply helement.bind
  intro result hresult
  exact (goesOn_appendComma hbare hr _ hresult).bind fun b hb => .pure hb

lemma goesOn_commaList : Ensures I (sh.commaList render id ctx column) Piece.GoesOn := by
  apply goesOn_onOneLineOr hbare hr
  unfold brokenList
  have hitems : ∀ i ∈ sh.itemsFrom {} (sh.visibleChildren id), i.comments = [] := comments_eq_nil hbare rfl
  refine Ensures.bind (?_ : Ensures I _ fun p : ListProgress => p.buf.GoesOn) fun p hp => ?_
  · refine Ensures.steps (fun x hx p hp => ?_) (goesOn_startingAt column _)
    exact goesOn_appendItem hbare hr hp (hitems x.1 (mem_of_mem_withRest hx).1) _ _
  · exact goesOn_appendComma hbare hr _ hp

/-! ### `CASE` -/

lemma goesOn_appendResult (parent : NodeKind) (hb : b.GoesOn) :
    Ensures I (sh.appendResult render parent children ctx column b) LineBuffer.GoesOn := by
  apply Ensures.steps (fun child _ b _ => ?_) hb
  exact .ite (fun _ => goesOn_appendHere hr (goesOn_newlineAt _ b)) fun _ => goesOn_appendChild hbare hr _

lemma goesOn_appendCondition (hb : b.GoesOn) :
    Ensures I (sh.appendCondition render children column b) LineBuffer.GoesOn :=
  goesOn_appendChildren hbare hr _ hb

lemma goesOn_brokenWhen : Ensures I (sh.brokenWhen render id ctx column) LineBuffer.GoesOn := by
  unfold brokenWhen
  apply (goesOn_appendCondition hbare hr (goesOn_startingAt _ _)).bind
  intro b hb
  dsimp only
  split
  · exact .pure hb
  · refine .ite (fun _ => .pure hb) fun _ => ?_
    apply (goesOn_appendHere hr (pendingBreak_moveToThen _ b)).bind
    exact fun b hb => goesOn_appendResult hbare hr _ hb

lemma goesOn_whenBranch : Ensures I (sh.whenBranch render id ctx column) Piece.GoesOn :=
  .ite (fun _ => goesOn_onOneLineOr hbare hr (goesOn_brokenWhen hbare hr)) fun _ =>
    (goesOn_brokenWhen hbare hr).bind fun _ hb => .pure hb

lemma goesOn_elseBranch : Ensures I (sh.elseBranch render id ctx column) Piece.GoesOn :=
  goesOn_onOneLineOr hbare hr (goesOn_appendResult hbare hr _ (goesOn_startingAt _ _))

omit hbare hr in
lemma goesOn_moveToEnd (isStatement : Bool) (whenColumn : Nat) (b : LineBuffer) :
    (sh.moveToEnd isStatement column whenColumn b).GoesOn :=
  pendingBreak_moveToEnd isStatement whenColumn b

omit hbare in
lemma goesOn_appendBranch (frame : CaseFrame) (isFirst isLast : Bool) (hb : b.GoesOn) :
    Ensures I (sh.appendBranch render frame id isFirst isLast b) LineBuffer.GoesOn := by
  apply goesOn_appendHere hr
  split
  · exact hb.padTo _
  · exact goesOn_newlineAt _ b

lemma goesOn_appendParts (frame : CaseFrame) (isFirst ended : Bool) (hb : b.GoesOn) :
    Ensures I (sh.appendParts render frame isFirst ended children b) LineBuffer.GoesOn := by
  induction children generalizing isFirst ended b with
  | nil => exact .pure hb
  | cons child rest ih =>
    unfold appendParts
    refine .ite (fun _ => ?_) fun _ => .ite (fun _ => ?_) fun _ => ?_
    · exact (goesOn_appendHere hr (goesOn_moveToEnd _ _ b)).bind fun b hb => ih _ _ hb
    · exact (goesOn_appendBranch hr frame _ _ hb).bind fun b hb => ih _ _ hb
    · exact (goesOn_appendChild hbare hr _).bind fun b hb => ih _ _ hb

omit hbare in
lemma goesOn_thenColumn : Ensures I (sh.thenColumn? render children column) fun _ => True := by
  refine Ensures.bind (?_ : Ensures I _ fun _ => True) fun _ _ => .pure trivial
  exact .steps (fun _ _ _ _ => (hr _ _ _).bind fun _ _ => .pure trivial) trivial

lemma goesOn_brokenCase : Ensures I (sh.brokenCase render id ctx column) LineBuffer.GoesOn := by
  unfold brokenCase
  apply (goesOn_appendChildren hbare hr _ (goesOn_startingAt _ _)).bind
  intro b hb
  refine .ite (fun _ => ?_) fun _ => goesOn_appendParts hbare hr _ true false hb
  exact (goesOn_thenColumn hr).bind fun _ _ => goesOn_appendParts hbare hr _ true false hb

lemma goesOn_caseOf : Ensures I (sh.caseOf render id ctx column) Piece.GoesOn :=
  .ite (fun _ => (goesOn_brokenCase hbare hr).bind fun _ hb => .pure hb) fun _ =>
    goesOn_onOneLineOr hbare hr (goesOn_brokenCase hbare hr)

/-! ### Statements and blocks -/

lemma goesOn_appendTopEntries (previous : TopEntry) (hb : b.GoesOn) :
    Ensures I (sh.appendTopEntries render previous children b) LineBuffer.GoesOn := by
  induction children generalizing previous b with
  | nil => exact .pure hb
  | cons child rest ih =>
    unfold appendTopEntries
    rw [hbare child]
    apply (goesOn_appendHere hr _).bind fun b hb => ih _ hb
    cases previous with
    | nothing => exact hb
    | statement =>
      show (if sh.policy.noBlankLines then b.newlineAt 0 else (b.newlineAt 0).newlineAt 0).GoesOn
      split
      · exact goesOn_newlineAt 0 b
      · exact goesOn_newlineAt 0 _
    | comment =>
      show (if b.pendingBreak then b.newlineAt 0 else b.pushSpace).GoesOn
      split
      · exact goesOn_newlineAt 0 b
      · exact hb.pushSpace

lemma goesOn_root : Ensures I (sh.root render id) Piece.GoesOn :=
  (goesOn_appendTopEntries hbare hr .nothing (goesOn_startingAt 0 0)).bind fun _ hb => .pure hb

lemma goesOn_statementList : Ensures I (sh.statementList render id column) Piece.GoesOn := by
  unfold statementList
  apply Ensures.bind (.steps (fun x _ b hb => ?_) (goesOn_startingAt column column)) fun b hb => .pure hb
  exact ensures_of_bare hbare (goesOn_appendHere hr (hb.ite_newlineAt _ column))

lemma goesOn_appendClauses (seenClause : Bool) (hb : b.GoesOn) :
    Ensures I (sh.appendClauses render ctx column seenClause children b) LineBuffer.GoesOn := by
  induction children generalizing seenClause b with
  | nil => exact .pure hb
  | cons child rest ih => exact (goesOn_appendChild hbare hr _).bind fun b hb => ih _ hb

lemma goesOn_statement : Ensures I (sh.statement render id ctx column) Piece.GoesOn :=
  goesOn_onOneLineOr hbare hr (goesOn_appendClauses hbare hr false (goesOn_startingAt column column))

lemma goesOn_appendClauseBody (ownLine : Option Nat) (started : Bool) (hb : b.GoesOn) :
    Ensures I (sh.appendClauseBody render ctx column ownLine started children b) LineBuffer.GoesOn := by
  induction children generalizing started b with
  | nil => exact .pure hb
  | cons child rest ih =>
    unfold appendClauseBody
    rw [hbare child]
    exact (goesOn_appendChild hbare hr _).bind fun b hb => ih _ hb

lemma goesOn_appendClauseKeywords (body : List Nat) (hb : b.GoesOn) :
    Ensures I (sh.appendClauseKeywords render ctx column body children b) LineBuffer.GoesOn := by
  induction children generalizing b with
  | nil => exact .pure hb
  | cons child rest ih => exact (goesOn_appendChild hbare hr _).bind fun b hb => ih hb

lemma goesOn_clause : Ensures I (sh.clause render id ctx column) Piece.GoesOn := by
  apply goesOn_onOneLineOr hbare hr
  unfold brokenClause
  apply (goesOn_appendClauseKeywords hbare hr _ (goesOn_startingAt _ _)).bind
  exact fun b hb => goesOn_appendClauseBody hbare hr _ false hb

lemma goesOn_appendControl (kind : NodeKind) (afterLabel : Bool) (hb : b.GoesOn) :
    Ensures I (sh.appendControl render kind column afterLabel children b) LineBuffer.GoesOn := by
  induction children generalizing afterLabel b with
  | nil => exact .pure hb
  | cons child rest ih =>
    have hkind : sh.tree.kind child ≠ .comment := by simpa [isComment] using hbare child
    have hlabel : (if afterLabel then b.beginLineAt column else b).GoesOn := by
      split
      · exact hb.beginLineAt column
      · exact hb
    unfold appendControl
    dsimp only
    rw [if_neg hkind]
    refine .ite (fun _ => ?_) fun _ => .ite (fun _ => ?_) fun _ => .ite (fun _ => ?_) fun _ => ?_
    · exact (goesOn_appendHere hr (goesOn_newlineAt _ _)).bind fun b hb => ih _ hb
    · exact (goesOn_appendHere hr (hlabel.beginLineAt column)).bind fun b hb => ih _ hb
    · exact (goesOn_appendChild hbare hr _).bind fun b hb => ih _ hb
    · exact (goesOn_appendChild hbare hr _).bind fun b hb => ih _ hb

lemma goesOn_control : Ensures I (sh.control render id column) Piece.GoesOn :=
  (goesOn_appendControl hbare hr _ false (goesOn_startingAt _ _)).bind fun _ hb => .pure hb

lemma goesOn_exceptionSection : Ensures I (sh.exceptionSection render id column) Piece.GoesOn := by
  apply Ensures.bind (.steps (fun child _ b _ => ?_) (goesOn_startingAt _ _)) fun b hb => .pure hb
  exact .ite (fun _ => goesOn_appendHere hr (goesOn_newlineAt _ b)) fun _ => goesOn_appendChild hbare hr _

/-! ### Declarations and routines -/

omit hbare hr in
lemma goesOn_moveToPart (hb : b.GoesOn) (continuation child trailing : Nat) (target : Option Nat) :
    (sh.moveToPart continuation child trailing target b).GoesOn := by
  have hfollow (space : Bool) (c : Prop) [Decidable c] :
      (if c then b.newline else b.separate space).GoesOn := by
    split
    · exact goesOn_newlineAt _ b
    · exact goesOn_separate space b
  unfold moveToPart
  dsimp only
  cases target with
  | none => exact hfollow _ _
  | some column =>
    dsimp only
    split
    · split
      · exact goesOn_newlineAt _ b
      · exact hb.padTo column
    · exact hfollow _ _

lemma goesOn_brokenDeclaration (offsets : Option AlignmentOffsets) :
    Ensures I (sh.brokenDeclaration render offsets id ctx column) LineBuffer.GoesOn := by
  apply Ensures.steps (fun x _ b hb => ?_) (goesOn_startingAt _ _)
  apply ensures_of_bare hbare
  apply goesOn_appendHere hr
  split
  · exact goesOn_moveToPart hb _ _ _ _
  · exact goesOn_separate false b

lemma goesOn_declaration : Ensures I (sh.declaration render id ctx column) Piece.GoesOn :=
  .ite (fun _ => (goesOn_brokenDeclaration hbare hr _).bind fun _ hb => .pure hb) fun _ =>
    goesOn_onOneLineOr hbare hr (goesOn_brokenDeclaration hbare hr _)

omit hbare in
lemma goesOn_startDeclaration (comma : Option Nat) (inner : Nat) :
    Ensures I (startDeclaration render comma inner ctx b) LineBuffer.GoesOn := by
  cases comma with
  | none => exact .pure (goesOn_newlineAt inner b)
  | some comma =>
    exact (goesOn_appendHere hr (goesOn_newlineAt _ b)).bind fun b hb => .pure (hb.padTo inner)

lemma goesOn_appendDeclarations (declCtx : Context) (inner : Nat) (held : Option Nat) (hb : b.GoesOn) :
    Ensures I (sh.appendDeclarations render declCtx ctx inner held children b) LineBuffer.GoesOn := by
  induction children generalizing held b with
  | nil => exact .pure hb
  | cons child rest ih =>
    unfold appendDeclarations
    rw [hbare child]
    refine .ite (fun _ => ?_) fun _ => .ite (fun _ => .ite (fun _ => ih _ hb) fun _ => ?_) fun _ => ?_
    · exact (goesOn_appendHere hr (goesOn_newlineAt _ b)).bind fun b hb => ih _ hb
    · exact (goesOn_appendChild hbare hr _).bind fun b hb => ih _ hb
    · apply (goesOn_startDeclaration hr held inner).bind
      intro b hb
      exact (goesOn_appendHere hr hb).bind fun b hb => ih _ hb

lemma goesOn_declarationList : Ensures I (sh.declarationList render id ctx column) Piece.GoesOn := by
  apply goesOn_onOneLineOr hbare hr
  apply (goesOn_appendChildren hbare hr _ (goesOn_startingAt _ _)).bind
  exact fun b hb => goesOn_appendDeclarations hbare hr _ _ none hb

lemma goesOn_declareSection : Ensures I (sh.declareSection render id column) Piece.GoesOn := by
  apply Ensures.bind (.steps (fun child _ b _ => ?_) (goesOn_startingAt _ _)) fun b hb => .pure hb
  exact .ite (fun _ => goesOn_appendHere hr (goesOn_newlineAt _ b)) fun _ => goesOn_appendChild hbare hr _

lemma goesOn_appendAttributes (isInline afterBody : Bool) (hb : b.GoesOn) :
    Ensures I (sh.appendAttributes render ctx column isInline afterBody children b) LineBuffer.GoesOn := by
  induction children generalizing afterBody b with
  | nil => exact .pure hb
  | cons child rest ih => exact (goesOn_appendChild hbare hr _).bind fun b hb => ih _ hb

lemma goesOn_routineDefinition : Ensures I (sh.routineDefinition render id ctx column) Piece.GoesOn := by
  apply goesOn_onOneLineOr hbare hr
  apply (goesOn_appendChildren hbare hr _ (goesOn_startingAt _ _)).bind
  exact fun b hb => goesOn_appendAttributes hbare hr _ false hb

lemma goesOn_routineBody : Ensures I (sh.routineBody render id ctx column) Piece.GoesOn := by
  apply goesOn_onOneLineOr hbare hr
  apply Ensures.steps (fun x _ b _ => ?_) (goesOn_startingAt _ _)
  refine .ite (fun _ => ?_) fun _ => .ite (fun _ => ?_) fun _ => goesOn_appendChild hbare hr _
  · exact goesOn_appendHere hr (goesOn_newlineAt _ b)
  · exact goesOn_appendHere hr (goesOn_newlineAt _ b)

lemma goesOn_doBlock : Ensures I (sh.doBlock render id ctx column) Piece.GoesOn :=
  Ensures.bind (.steps (fun _ _ _ _ => goesOn_appendChild hbare hr _) (goesOn_startingAt _ _)) fun _ hb =>
    .pure hb

lemma goesOn_appendTableParts (afterColumns : Bool) (hb : b.GoesOn) :
    Ensures I (sh.appendTableParts render ctx column afterColumns children b) LineBuffer.GoesOn := by
  induction children generalizing afterColumns b with
  | nil => exact .pure hb
  | cons child rest ih => exact (goesOn_appendChild hbare hr _).bind fun b hb => ih _ hb

lemma goesOn_tableDefinition : Ensures I (sh.tableDefinition render id ctx column) Piece.GoesOn :=
  goesOn_onOneLineOr hbare hr (goesOn_appendTableParts hbare hr false (goesOn_startingAt _ _))

/-! ### Nodes of every kind -/

lemma goesOn_layoutNode (id : Nat) (ctx : Context) (column : Nat) :
    Ensures I (sh.layoutNode render id ctx column) Piece.GoesOn := by
  unfold layoutNode
  cases hkind : sh.tree.kind id with
  | root => exact goesOn_root hbare hr
  | statementList => exact goesOn_statementList hbare hr
  | statement => exact goesOn_statement hbare hr
  | clause => exact goesOn_clause hbare hr
  | commaList => exact goesOn_commaList hbare hr
  | listElement | expression | declarationPart => exact goesOn_expression hbare hr
  | parenthesized => exact goesOn_group hbare hr
  | functionCall => exact goesOn_functionCall hbare hr
  | caseOf | caseStatement => exact goesOn_caseOf hbare hr
  | whenBranch => exact goesOn_whenBranch hbare hr
  | elseBranch => exact goesOn_elseBranch hbare hr
  | functionDefinition => exact goesOn_routineDefinition hbare hr
  | tableDefinition => exact goesOn_tableDefinition hbare hr
  | doBlock => exact goesOn_doBlock hbare hr
  | functionBody => exact goesOn_routineBody hbare hr
  | declarationList => exact goesOn_declarationList hbare hr
  | declaration => exact goesOn_declaration hbare hr
  | declareSection => exact goesOn_declareSection hbare hr
  | exceptionSection => exact goesOn_exceptionSection hbare hr
  | block | ifStatement | conditionalBranch | loopStatement => exact goesOn_control hbare hr
  | leaf role => exact .pure (goesOn_leaf id role column)
  | comment => exact absurd (hbare id) (by simp [isComment, hkind])
  | error index => exact .pure (goesOn_errorPiece id column)

end

/-! ### Caches that are switched off -/

variable {cache : Cache Policy}

/-- A cache that is switched off answers nothing. -/
lemma cached_of_off (sh : Sheet) (hoff : cache.enabled = false) (layout : Render) (id : Nat) (ctx : Context)
    (column : Nat) :
    ∃ cache', sh.cached layout id ctx column cache = ((layout id ctx column cache).1, cache')
      ∧ ((layout id ctx column cache).2 = cache → cache' = cache) := by
  have hget : cache.get id ctx column sh.policy sh.lineWidth = (none, cache) := by
    rw [Cache.get, hoff]
    rfl
  rw [cached_eq, hget]
  refine ⟨_, rfl, fun hkept => ?_⟩
  dsimp only
  rw [hkept, Cache.insert, hoff]
  rfl

/-- Without comments and without a cache, the layout of every node goes on and leaves no trace. -/
lemma goesOn_renderTo (hbare : ∀ i, sh.isComment i = false) (hoff : cache.enabled = false) (depth id : Nat)
    (ctx : Context) (column : Nat) :
    Ensures (· = cache) (sh.renderTo depth id ctx column) Piece.GoesOn := by
  induction depth generalizing id ctx column with
  | zero => exact .pure rfl
  | succ depth ih =>
    rintro _ rfl
    obtain ⟨hpiece, hkept⟩ := goesOn_layoutNode hbare ih id ctx column _ rfl
    obtain ⟨cache', heq, hcache⟩ := sh.cached_of_off hoff (sh.layoutNode (sh.renderTo depth)) id ctx column
    rw [renderTo, renderToIn, heq]
    exact ⟨hpiece, hcache hkept⟩

end Sheet
end SqlLayout
