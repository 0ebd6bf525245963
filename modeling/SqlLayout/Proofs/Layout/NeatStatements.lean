import SqlLayout.Layout.Control
import SqlLayout.Layout.Declaration
import SqlLayout.Layout.Routine
import SqlLayout.Layout.Statement
import SqlLayout.Proofs.Layout.NeatExpressions
import SqlLayout.Proofs.Tree.Formed

/-!
# Statements, routines and declarations are neat

Lines are begun for clauses, statements and declarations, which none of these constructs starts with
unless its buffer is at the start of the right line. A loop may hold a query without text, but starts
with a keyword.
-/

namespace SqlLayout.Sheet

variable {sh : Sheet} {I : Cache Policy → Prop} {render : Render} {id first : Nat} {rest children : List Nat}
  {ctx : Context} {column : Nat} {b : LineBuffer}

/-! ### Statements and clauses -/

lemma neat_appendClauses (hr : ∀ child ∈ children, sh.Lays I render child) (seenClause : Bool) (hb : b.Neat) :
    Ensures I (sh.appendClauses render ctx column seenClause children b) LineBuffer.Neat := by
  induction children generalizing seenClause b with
  | nil => exact .pure hb
  | cons child rest ih =>
    unfold appendClauses
    refine Ensures.bind ((hr child (by simp)).appendChild _ ?_) fun b hb =>
      ih (fun c hc => hr c (by simp [hc])) _ hb
    split
    · exact .inr (hb.newlineAt _)
    · exact .inl hb

lemma neat_appendClauseBody (hr : ∀ child ∈ children, sh.Lays I render child) (ownLine : Option Nat)
    (started : Bool) (hb : b.Neat) :
    Ensures I (sh.appendClauseBody render ctx column ownLine started children b) LineBuffer.Neat := by
  induction children generalizing started b with
  | nil => exact .pure hb
  | cons child rest ih =>
    have ih {b : LineBuffer} started (hb : b.Neat) := ih (fun c hc => hr c (by simp [hc])) started hb
    have hchild := hr child (by simp)
    unfold appendClauseBody
    refine .ite (fun _ => ?_) fun _ => ?_
    · exact Ensures.bind (hchild.appendChild _ (.inl hb)) fun b hb => ih _ hb
    · refine Ensures.bind (hchild.appendChild _ ?_) fun b hb => ih _ hb
      split
      · rw [hb.beginLineAt]
        exact .inr (hb.newlineAt _)
      · exact .inl hb

lemma neat_appendClauseKeywords (hr : ∀ child ∈ children, sh.Lays I render child) (body : List Nat)
    (hb : b.Neat) :
    Ensures I (sh.appendClauseKeywords render ctx column body children b) LineBuffer.Neat := by
  induction children generalizing b with
  | nil => exact .pure hb
  | cons child rest ih =>
    unfold appendClauseKeywords
    exact Ensures.bind ((hr child (by simp)).appendChild _ (.inl hb)) fun b hb =>
      ih (fun c hc => hr c (by simp [hc])) hb

section Statements

variable (hchildren : sh.visibleChildren id = first :: rest)
  (hr : ∀ child ∈ first :: rest, sh.Lays I render child)

include hchildren hr

lemma neat_statementList (hfirst : sh.tree.kind first ≠ .comment) :
    Ensures I (sh.statementList render id column) Piece.Neat := by
  unfold statementList
  rw [hchildren, List.zipIdx_cons, List.foldlM_cons]
  refine Ensures.bind (Ensures.bind ?_ fun b hb => .steps (fun x hx b hb => ?_) hb) fun b hb => .pure hb
  · refine .ite (fun hcomment => absurd (by simpa [isComment] using hcomment) hfirst) fun _ => ?_
    exact (hr first (by simp)).appendHere hfirst (.inr (.startingAt _ _))
  · have hlays := hr x.1 (by simp [List.fst_mem_of_mem_zipIdx hx])
    refine .ite (fun hcomment => ?_) fun hcomment => ?_
    · exact .pure (hlays.appendComment (by simpa [isComment] using hcomment) (.inl hb))
    · refine hlays.appendHere (by simpa [isComment] using hcomment) ?_
      split
      · exact .inr (hb.newlineAt _)
      · exact .inl hb

lemma neat_statement : Ensures I (sh.statement render id ctx column) Piece.Neat := by
  refine neat_onOneLineOr hchildren hr ?_
  rw [hchildren]
  unfold appendClauses
  simp only [Bool.and_false, Bool.false_eq_true, if_false]
  exact Ensures.bind ((hr first (by simp)).appendChild _ (.inr (.startingAt _ _))) fun b hb =>
    neat_appendClauses (fun c hc => hr c (by simp [hc])) _ hb

lemma neat_clause (hfirst : sh.tree.kind first ≠ .comment) :
    Ensures I (sh.clause render id ctx column) Piece.Neat := by
  refine neat_onOneLineOr hchildren hr ?_
  unfold brokenClause
  dsimp only
  rw [hchildren, List.takeWhile_cons]
  split
  · -- The body starts a line only after a keyword.
    have hkeywords : ∀ child ∈ rest.takeWhile sh.isKeywordLeaf, sh.Lays I render child :=
      fun child hchild => hr child (by simp [List.takeWhile_subset _ hchild])
    unfold appendClauseKeywords
    refine Ensures.bind (Ensures.bind ((hr first (by simp)).appendChild _ (.inr (.startingAt _ _)))
      fun b hb => neat_appendClauseKeywords hkeywords _ hb) fun b hb => ?_
    exact neat_appendClauseBody (fun child hchild => hr child (List.mem_of_mem_drop hchild)) _ _ hb
  · rw [appendClauseKeywords, pure_bind]
    simp only [List.isEmpty_nil, Bool.not_true, Bool.and_false, Bool.false_and, Bool.false_eq_true, if_false,
      List.length_nil, List.drop_zero]
    unfold appendClauseBody
    refine .ite (fun hcomment => absurd (by simpa [isComment] using hcomment) hfirst) fun _ => ?_
    exact Ensures.bind ((hr first (by simp)).appendChild _ (.inr (.startingAt _ _))) fun b hb =>
      neat_appendClauseBody (fun c hc => hr c (by simp [hc])) _ _ hb

end Statements

/-! ### Blocks, conditionals and loops -/

/--
Children of a construct: nodes with ink, and queries without text, which `LOOP` follows.
-/
inductive Controls (sh : Sheet) (I : Cache Policy → Prop) (render : Render) : List Nat → Prop where
  | nil : Controls sh I render []
  | node {child : Nat} {rest : List Nat} :
    sh.Lays I render child →
    Controls sh I render rest →
    Controls sh I render (child :: rest)
  | query {child : Nat} {rest : List Nat} :
    sh.tree.kind child = .statement →
    (∀ ctx column, Ensures I (render child ctx column) Piece.Hollow) →
    (sh.tree.firstPlain? rest).any (sh.tree.isLeafOf · (.keyword .LOOP)) = true →
    Controls sh I render rest →
    Controls sh I render (child :: rest)

/-- A buffer to which children of a construct are appended: after a query it may be at the start of a line. -/
def Awaits (sh : Sheet) (children : List Nat) (afterLabel : Bool) (b : LineBuffer) : Prop :=
  b.Neat ∨ b.Blank ∧ afterLabel = false
    ∧ (sh.tree.firstPlain? children).any (sh.tree.isLeafOf · (.keyword .LOOP)) = true

lemma exists_role_of_isLeafOf {kind : TokenKind} (h : sh.tree.isLeafOf id kind = true) :
    ∃ role, sh.tree.kind id = .leaf role := by
  rw [Tree.isLeafOf] at h
  split at h
  · next role hrole => exact ⟨role, hrole⟩
  · contradiction

lemma startsControlLine_leaf (role : LeafRole) : startsControlLine (.leaf role) = false := rfl

lemma neat_appendControl {kind : NodeKind} (hr : sh.Controls I render children) (afterLabel : Bool)
    (hb : sh.Awaits children afterLabel b) :
    Ensures I (sh.appendControl render kind column afterLabel children b) LineBuffer.Neat := by
  induction hr generalizing afterLabel b with
  | nil =>
    obtain hb | ⟨-, -, hloop⟩ := hb
    · exact .pure hb
    · contradiction
  | @node child rest hchild _ ih =>
    unfold appendControl
    have hready : b.Ready := hb.imp_right (·.1)
    refine .ite (fun hcomment => ih _ (.inl (hchild.appendComment hcomment hready))) fun hcomment => ?_
    obtain hb | ⟨hb, rfl, hloop⟩ := hb
    · -- After a label a line is begun, which is left empty before statements.
      have hline : (if afterLabel then b.beginLineAt column else b).Ready
          ∧ ((if afterLabel then b.beginLineAt column else b).beginLineAt column).Ready
          ∧ ∀ inner, ((if afterLabel then b.beginLineAt column else b).newlineAt inner).Ready := by
        rw [hb.beginLineAt]
        split
        · rw [LineBuffer.beginLineAt_newlineAt]
          exact ⟨.inr (hb.newlineAt _), .inr (hb.newlineAt _), fun _ => .inr (hb.newlineAt_newlineAt _ _)⟩
        · rw [hb.beginLineAt]
          exact ⟨.inl hb, .inr (hb.newlineAt _), fun _ => .inr (hb.newlineAt _)⟩
      refine .ite (fun _ => ?_) fun _ => .ite (fun _ => ?_) fun _ => .ite (fun _ => ?_) fun _ => ?_
      · exact Ensures.bind (hchild.appendHere hcomment (hline.2.2 _)) fun b hb => ih _ (.inl hb)
      · exact Ensures.bind (hchild.appendHere hcomment hline.2.1) fun b hb => ih _ (.inl hb)
      · exact Ensures.bind (hchild.appendChild _ hline.2.1) fun b hb => ih _ (.inl hb)
      · exact Ensures.bind (hchild.appendChild _ hline.1) fun b hb => ih _ (.inl hb)
    · -- What comes next is `LOOP`, which goes where the buffer is.
      have hleaf : sh.tree.isLeafOf child (.keyword .LOOP) = true := by
        rw [Tree.firstPlain?, List.find?_cons_of_pos (by simpa using hcomment)] at hloop
        exact hloop
      obtain ⟨role, hrole⟩ := exists_role_of_isLeafOf hleaf
      have hbegin := isLeafOf_unique (.keyword .BEGIN) hleaf (by decide)
      have hend := isLeafOf_unique (.keyword .END) hleaf (by decide)
      simp only [hrole, reduceCtorEq, if_false, hbegin, hend, Bool.or_self, Bool.false_eq_true,
        startsControlLine_leaf]
      exact Ensures.bind (hchild.appendChild _ (.inr hb)) fun b hb => ih _ (.inl hb)
  | @query child rest hkind hchild hloop _ ih =>
    obtain hb | ⟨-, -, hno⟩ := hb
    · have hleaf (k : TokenKind) : sh.tree.isLeafOf child k = false := by
        rw [Tree.isLeafOf, hkind]
      have hready : (if afterLabel then b.beginLineAt column else b).Ready := by
        rw [hb.beginLineAt]
        split
        · exact .inr (hb.newlineAt _)
        · exact .inl hb
      unfold appendControl
      simp only [hkind, reduceCtorEq, if_false, hleaf, Bool.or_self, Bool.false_eq_true,
        show startsControlLine .statement = false from rfl, appendChild, isComment, isLeaf, Bool.false_and,
        show (NodeKind.statement == .comment) = false from rfl]
      refine Ensures.bind (Ensures.bind (hchild _ _) fun piece hpiece => .pure
        ((hready.separate _).1.append_hollow hpiece)) fun b hb => ih _ ?_
      exact hb.imp_right fun hb => ⟨hb, rfl, hloop⟩
    · rw [Tree.firstPlain?, List.find?_cons_of_pos (by simp [hkind]), Option.any_some, Tree.isLeafOf, hkind] at hno
      contradiction

/-- A construct starts with a keyword, with declarations or with a branch. -/
lemma neat_control (hchildren : sh.visibleChildren id = first :: rest) (hfirst : sh.Lays I render first)
    (hcomment : sh.tree.kind first ≠ .comment) (hlist : sh.tree.kind first ≠ .statementList)
    (hr : sh.Controls I render rest) : Ensures I (sh.control render id column) Piece.Neat := by
  unfold control
  rw [hchildren]
  unfold appendControl
  have hstart (indent : Nat) : LineBuffer.beginLineAt column
      { LineBuffer.startingAt column with indentBase := indent }
        = { LineBuffer.startingAt column with indentBase := indent } := by
    simp [LineBuffer.beginLineAt, LineBuffer.startingAt]
  simp only [hcomment, hlist, if_false, Bool.false_eq_true, hstart]
  have hready : LineBuffer.Ready { LineBuffer.startingAt column with indentBase := column + sh.indent } :=
    .inr (.startingAt _ _)
  refine Ensures.bind (.ite (fun _ => ?_) fun _ => .ite (fun _ => ?_) fun _ => ?_) fun b hb => .pure hb
  · exact Ensures.bind (hfirst.appendHere hcomment hready) fun b hb => neat_appendControl hr _ (.inl hb)
  · exact Ensures.bind (hfirst.appendChild _ hready) fun b hb => neat_appendControl hr _ (.inl hb)
  · exact Ensures.bind (hfirst.appendChild _ hready) fun b hb => neat_appendControl hr _ (.inl hb)

section Sections

variable (hchildren : sh.visibleChildren id = first :: rest)
  (hr : ∀ child ∈ first :: rest, sh.Lays I render child)

include hchildren hr

lemma neat_exceptionSection (hfirst : sh.tree.kind first ≠ .whenBranch) :
    Ensures I (sh.exceptionSection render id column) Piece.Neat := by
  unfold exceptionSection
  dsimp only
  rw [hchildren, List.foldlM_cons, if_neg hfirst]
  refine Ensures.bind (Ensures.bind ((hr first (by simp)).appendChild _ (.inr (.startingAt _ _)))
    fun b hb => .steps (fun child hchild b hb => ?_) hb) fun b hb => .pure hb
  have hlays := hr child (by simp [hchild])
  refine .ite (fun hkind => ?_) fun _ => hlays.appendChild _ (.inl hb)
  exact hlays.appendHere (by simp [hkind]) (.inr (hb.newlineAt _))

/-! ### Declarations -/

lemma neat_declareSection (hfirst : sh.tree.kind first ≠ .declaration) :
    Ensures I (sh.declareSection render id column) Piece.Neat := by
  unfold declareSection
  dsimp only
  rw [stopFor_bind, hchildren, List.foldlM_cons, if_neg hfirst]
  refine Ensures.bind (Ensures.bind ((hr first (by simp)).appendChild _ (.inr (.startingAt _ _)))
    fun b hb => .steps (fun child hchild b hb => ?_) hb) fun b hb => .pure hb
  have hlays := hr child (by simp [hchild])
  refine .ite (fun hkind => ?_) fun _ => hlays.appendChild _ (.inl hb)
  exact hlays.appendHere (by simp [hkind]) (.inr (hb.newlineAt _))

end Sections

lemma neat_moveToPart (hb : b.Neat) (continuation child trailing : Nat) (target : Option Nat) :
    (sh.moveToPart continuation child trailing target b).Ready := by
  have hfollow (space : Bool) (c : Prop) [Decidable c] : (if c then b.newline else b.separate space).Ready := by
    split
    · exact .inr (hb.newlineAt _)
    · exact hb.separate space
  unfold moveToPart
  dsimp only
  split
  · split
    · split
      · exact .inr (hb.newlineAt _)
      · exact .inl (hb.padTo _)
    · exact hfollow _ _
  · exact hfollow _ _

section Declarations

variable (hchildren : sh.visibleChildren id = first :: rest)
  (hr : ∀ child ∈ first :: rest, sh.Lays I render child)

include hchildren hr

lemma neat_declaration (hfirst : sh.tree.kind first ≠ .comment) :
    Ensures I (sh.declaration render id ctx column) Piece.Neat := by
  have hbroken (offsets : Option AlignmentOffsets) :
      Ensures I (sh.brokenDeclaration render offsets id ctx column) LineBuffer.Neat := by
    unfold brokenDeclaration
    rw [hchildren]
    refine neat_withRest_zipIdx ?_ fun child hchild rest' i b hb => ?_
    · refine .ite (fun hcomment => absurd (by simpa [isComment] using hcomment) hfirst) fun _ => ?_
      exact (hr first (by simp)).appendHere hfirst (LineBuffer.Ready.separate (.inr (.startingAt _ _)) false).1
    · have hlays := hr child (by simp [hchild])
      refine .ite (fun hcomment => ?_) fun hcomment => ?_
      · exact .pure (hlays.appendComment (by simpa [isComment] using hcomment) (.inl hb))
      · refine hlays.appendHere (by simpa [isComment] using hcomment) ?_
        split
        · exact neat_moveToPart hb _ _ _ _
        · exact hb.separate false
  refine .ite (fun _ => (hbroken _).bind fun b hb => .pure hb) fun _ => ?_
  exact neat_onOneLineOr hchildren hr (hbroken _)

end Declarations

lemma neat_appendDeclarations (hcomma : sh.policy.lists.comma = .after)
    (hr : ∀ child ∈ children, sh.Lays I render child) (declCtx : Context) (inner : Nat) (hb : b.Neat) :
    Ensures I (sh.appendDeclarations render declCtx ctx inner none children b) LineBuffer.Neat := by
  induction children generalizing b with
  | nil => exact .pure hb
  | cons child rest ih =>
    have hchild := hr child (by simp)
    have ih {b : LineBuffer} (hb : b.Neat) := ih (fun c hc => hr c (by simp [hc])) hb
    unfold appendDeclarations
    simp only [hcomma, show (CommaPosition.after == .before) = false from rfl, Bool.false_eq_true, if_false]
    refine .ite (fun hparen => ?_) fun _ => .ite (fun _ => ?_) fun _ => .ite (fun hcomment => ?_) fun hcomment => ?_
    · exact Ensures.bind (hchild.appendHere (ne_comment_of_isLeafOf hparen) (.inr (hb.newlineAt _)))
        fun b hb => ih hb
    · exact Ensures.bind (hchild.appendChild _ (.inl hb)) fun b hb => ih hb
    · exact ih (hchild.appendComment (by simpa [isComment] using hcomment) (.inl hb))
    · rw [startDeclaration, pure_bind]
      exact Ensures.bind (hchild.appendHere (by simpa [isComment] using hcomment) (.inr (hb.newlineAt _)))
        fun b hb => ih hb

lemma neat_declarationList (hcomma : sh.policy.lists.comma = .after)
    (hchildren : sh.visibleChildren id = first :: rest)
    (hr : ∀ child ∈ first :: rest, sh.Lays I render child)
    (hfirst : sh.tree.isLeafOf first .lParen = true) :
    Ensures I (sh.declarationList render id ctx column) Piece.Neat := by
  refine neat_onOneLineOr hchildren hr ?_
  have hopening : ((first :: rest).take 1).filter (fun c => sh.tree.isLeafOf c .lParen) = [first] := by
    simp [hfirst]
  unfold brokenDeclarationList
  dsimp only
  rw [stopFor_bind, hchildren, hopening]
  refine Ensures.bind (neat_appendChildren_cons ?_ _ (.inr (.startingAt _ _))) fun b hb => ?_
  · simpa using hr first (by simp)
  · exact neat_appendDeclarations hcomma (fun child hchild => hr child (List.mem_of_mem_drop hchild)) _ _ hb

/-! ### Routines and tables -/

lemma neat_appendAttributes (hr : ∀ child ∈ children, sh.Lays I render child) (isInline afterBody : Bool)
    (hb : b.Neat) :
    Ensures I (sh.appendAttributes render ctx column isInline afterBody children b) LineBuffer.Neat := by
  induction children generalizing afterBody b with
  | nil => exact .pure hb
  | cons child rest ih =>
    unfold appendAttributes
    refine Ensures.bind ((hr child (by simp)).appendChild _ ?_) fun b hb =>
      ih (fun c hc => hr c (by simp [hc])) _ hb
    split
    · exact .inr (hb.newlineAt _)
    · exact .inl hb

lemma neat_appendTableParts (hr : ∀ child ∈ children, sh.Lays I render child) (afterColumns : Bool)
    (hb : b.Neat) :
    Ensures I (sh.appendTableParts render ctx column afterColumns children b) LineBuffer.Neat := by
  induction children generalizing afterColumns b with
  | nil => exact .pure hb
  | cons child rest ih =>
    unfold appendTableParts
    refine Ensures.bind ((hr child (by simp)).appendChild _ ?_) fun b hb =>
      ih (fun c hc => hr c (by simp [hc])) _ hb
    split
    · exact .inr (hb.newlineAt _)
    · exact .inl hb

section Routines

variable (hchildren : sh.visibleChildren id = first :: rest)
  (hr : ∀ child ∈ first :: rest, sh.Lays I render child)

include hchildren hr

lemma neat_routineDefinition (hfirst : isAttribute (sh.tree.kind first) = false) :
    Ensures I (sh.routineDefinition render id ctx column) Piece.Neat := by
  refine neat_onOneLineOr hchildren hr ?_
  unfold brokenRoutine
  dsimp only
  rw [hchildren, List.takeWhile_cons, if_pos (by simp [hfirst])]
  refine Ensures.bind (neat_appendChildren_cons (fun child hchild => hr child ?_) _ (.inr (.startingAt _ _)))
    fun b hb => ?_
  · rcases List.mem_cons.1 hchild with rfl | hchild
    · simp
    · exact List.mem_cons_of_mem _ (List.takeWhile_subset _ hchild)
  · exact neat_appendAttributes (fun child hchild => hr child (List.mem_of_mem_drop hchild)) _ _ hb

lemma neat_routineBody (hlist : sh.tree.kind first ≠ .statementList)
    (hclose : sh.tree.isLeafOf first .bodyClose = false) :
    Ensures I (sh.routineBody render id ctx column) Piece.Neat := by
  refine neat_onOneLineOr hchildren hr ?_
  unfold brokenBody
  rw [hchildren]
  refine neat_withRest ?_ fun child hchild rest' b hb => ?_
  · refine .ite (fun h => absurd h hlist) fun _ => .ite (fun h => ?_) fun _ => ?_
    · rw [hclose] at h
      exact absurd h nofun
    · exact (hr first (by simp)).appendChild _ (.inr (.startingAt _ _))
  · have hlays := hr child (by simp [hchild])
    refine .ite (fun hkind => ?_) fun _ => .ite (fun hleaf => ?_) fun _ => hlays.appendChild _ (.inl hb)
    · exact hlays.appendHere (by simp [hkind]) (.inr (hb.newlineAt _))
    · exact hlays.appendHere (ne_comment_of_isLeafOf hleaf) (.inr (hb.newlineAt _))

lemma neat_doBlock : Ensures I (sh.doBlock render id ctx column) Piece.Neat := by
  unfold doBlock appendGlued
  rw [hchildren]
  refine Ensures.bind (neat_withRest ?_ fun child hchild rest' b hb => ?_) fun b hb => .pure hb
  · exact (hr first (by simp)).appendChild _ (.inr (.startingAt _ _))
  · exact (hr child (by simp [hchild])).appendChild _ (.inl hb)

lemma neat_tableDefinition : Ensures I (sh.tableDefinition render id ctx column) Piece.Neat := by
  refine neat_onOneLineOr hchildren hr ?_
  rw [hchildren]
  unfold appendTableParts
  simp only [Bool.false_and, Bool.false_eq_true, if_false]
  exact Ensures.bind ((hr first (by simp)).appendChild _ (.inr (.startingAt _ _))) fun b hb =>
    neat_appendTableParts (fun c hc => hr c (by simp [hc])) _ hb

end Routines

/-! ### The whole source -/

lemma neat_statementGap (hb : b.Neat) : (sh.statementGap b).Ready := by
  unfold statementGap
  dsimp only
  split
  · exact .inr (hb.newlineAt _)
  · exact .inr (hb.newlineAt_newlineAt _ _)

lemma neat_gapBeforeComment (hb : b.Neat) (previous : TopEntry) (ownLine : Bool) :
    (sh.gapBeforeComment previous ownLine b).Ready := by
  unfold gapBeforeComment
  split
  · exact neat_statementGap hb
  · exact .inr (hb.newlineAt _)
  · exact .inl hb

lemma neat_gapBeforeStatement (hb : b.Neat) (previous : TopEntry) :
    (sh.gapBeforeStatement previous b).Ready := by
  unfold gapBeforeStatement
  split
  · exact .inl hb
  · exact neat_statementGap hb
  · split
    · exact .inr (hb.newlineAt _)
    · exact .inl hb.pushSpace

lemma neat_appendTopEntries (hr : ∀ child ∈ children, sh.Lays I render child) (previous : TopEntry)
    (hb : b.Neat) : Ensures I (sh.appendTopEntries render previous children b) LineBuffer.Neat := by
  induction children generalizing previous b with
  | nil => exact .pure hb
  | cons child rest ih =>
    have hchild := hr child (by simp)
    have ih {b : LineBuffer} previous (hb : b.Neat) := ih (fun c hc => hr c (by simp [hc])) previous hb
    unfold appendTopEntries
    refine .ite (fun hcomment => ?_) fun hcomment => ?_
    · exact ih _ (hchild.appendComment (by simpa [isComment] using hcomment) (neat_gapBeforeComment hb _ _))
    · exact Ensures.bind (hchild.appendHere (by simpa [isComment] using hcomment)
        (neat_gapBeforeStatement hb _)) fun b hb => ih _ hb

/-- A source with something to lay out starts with ink. -/
lemma neat_appendTopEntries_cons (hr : ∀ child ∈ first :: rest, sh.Lays I render child) :
    Ensures I (sh.appendTopEntries render .nothing (first :: rest) (.startingAt 0)) LineBuffer.Neat := by
  have hrest : ∀ child ∈ rest, sh.Lays I render child := fun child hchild => hr child (by simp [hchild])
  have hready : (LineBuffer.startingAt 0).Ready := .inr (.startingAt 0 0)
  unfold appendTopEntries
  refine .ite (fun hcomment => ?_) fun hcomment => ?_
  · exact neat_appendTopEntries hrest _
      ((hr first (by simp)).appendComment (by simpa [isComment] using hcomment) hready)
  · exact Ensures.bind ((hr first (by simp)).appendHere (by simpa [isComment] using hcomment) hready)
      fun b hb => neat_appendTopEntries hrest _ hb

end SqlLayout.Sheet
