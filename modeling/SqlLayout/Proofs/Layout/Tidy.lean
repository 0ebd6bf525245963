import SqlLayout.Proofs.Content
import SqlLayout.Proofs.Layout.Format
import SqlLayout.Proofs.Layout.NeatStatements
import SqlLayout.Proofs.Token.Languages

/-!
# Formatted texts are tidy

Every node of a tree starts with a child that has ink, and so does its layout; only the query of a loop may
have no text. The whole text is then made of lines with ink and single lines without, and what is left to
the end is a line feed.
-/

namespace SqlLayout

open Text (Firm Opens Stacked)
open SqlLayout.Tree (IsChild Formed)

/-! ### Firm tokens -/

namespace TokenStream

variable {source : Text} {i : Nat}

lemma opens_text (h : i < (ofText source).lastIndex) (hspace : ((ofText source).kind i).isWhitespace = false)
    (hkind : (ofText source).kind i ≠ .error) : Opens ((ofText source).text i) := by
  obtain ⟨s, first, more, -, hfront, htext, -⟩ := exists_front h
  rw [htext]
  refine ⟨first, _, rfl, Lexeme.not_isBlank_front s first more ?_ ?_⟩
  · rw [hfront]
    exact hspace
  · rw [hfront]
    exact hkind

end TokenStream

/-! ### Pieces that are kept -/

namespace Piece

variable {piece moved : Piece} {column : Nat}

lemma Neat.rebase (h : piece.Neat) (hmoved : piece.rebase? column = some moved) : moved.Neat := by
  cases piece with
  | fragment start text last =>
    obtain rfl := Option.some.inj hmoved
    exact h
  | lines b =>
    have hb : b.Neat := h
    rw [rebase?] at hmoved
    split at hmoved
    · obtain rfl := Option.some.inj hmoved
      unfold LineBuffer.shifted
      split <;> exact ⟨hb.above, hb.ink, hb.line, hb.opens, hb.fresh⟩
    · contradiction

lemma Hollow.rebase (h : piece.Hollow) (hmoved : piece.rebase? column = some moved) : moved.Hollow := by
  cases piece with
  | fragment => exact h.elim
  | lines b =>
    obtain ⟨hb, hnil⟩ : b.Blank ∧ b.finished = [] := h
    rw [rebase?] at hmoved
    split at hmoved
    · obtain rfl := Option.some.inj hmoved
      unfold LineBuffer.shifted
      split <;> exact ⟨⟨hb.above, hb.current, hb.start, hb.fresh, hb.pendingBreak⟩, hnil⟩
    · contradiction

end Piece

namespace Sheet

variable {sh : Sheet} {I : Cache Policy → Prop} {render : Render} {id first : Nat} {rest : List Nat}
  {ctx : Context} {column : Nat}

/-- A sheet of a source without errors on whose leaves and comments no line ends, with commas last. -/
structure Regular (sh : Sheet) : Prop where
  faithful : sh.tree.Faithful
  errors : sh.tree.errors.size = 0
  comma : sh.policy.lists.comma = .after
  firm_leaf {id : Nat} {role : LeafRole} : id < sh.tree.size → sh.tree.kind id = .leaf role →
    Firm (sh.leafText id role)
  firm_comment {id : Nat} : id < sh.tree.size → sh.tree.kind id = .comment →
    Firm (Text.trimEnd (sh.tree.tokens.text (sh.tree.firstToken id)))
  root_eq : sh.tree.root = 0
  kind_root : sh.tree.kind sh.tree.root = .root
  child {id : Nat} : id < sh.tree.size → id ≠ sh.tree.root → ∃ kind depth, IsChild sh.tree kind depth id
  formed : Formed sh.tree .root 0 (sh.tree.children sh.tree.root)

/-- A query without text. -/
def IsVoid (sh : Sheet) (id : Nat) : Prop :=
  sh.tree.kind id = .statement ∧ sh.tree.children id = []

/-- The piece of a node: one with ink, unless it is a query without text. -/
def Laid (sh : Sheet) (id : Nat) (piece : Piece) : Prop :=
  (sh.IsVoid id → piece.Hollow) ∧ (¬sh.IsVoid id → piece.Neat)

lemma Laid.of_neat (h : ¬sh.IsVoid id) {piece : Piece} (hpiece : piece.Neat) : sh.Laid id piece :=
  ⟨fun hvoid => absurd hvoid h, fun _ => hpiece⟩

/-! ### First children -/

/-- Whether a node takes part in the layout. -/
def isVisible (sh : Sheet) (id : Nat) : Bool :=
  !(sh.policy.removeComments && sh.isComment id)

lemma exists_visibleChildren_eq_cons (h : sh.tree.Framed id) :
    ∃ first rest, sh.visibleChildren id = first :: rest
      ∧ sh.tree.mayComeFirst (sh.tree.kind id) first = true := by
  have hfirst := h.first
  cases hchildren : sh.tree.children id with
  | nil => simp [hchildren] at hfirst
  | cons first rest =>
    have hfirst : sh.tree.mayComeFirst (sh.tree.kind id) first = true := by simpa [hchildren] using hfirst
    have hvisible : sh.isComment first = false := by
      rw [isComment, beq_eq_false_iff_ne]
      intro hkind
      rw [Tree.mayComeFirst, hkind] at hfirst
      contradiction
    refine ⟨first, rest.filter sh.isVisible, ?_, hfirst⟩
    rw [visibleChildren, hchildren, List.filter_cons_of_pos (by simp [hvisible])]
    rfl

lemma ne_comment_of_mayComeFirst {kind : NodeKind} (h : sh.tree.mayComeFirst kind first = true) :
    sh.tree.kind first ≠ .comment := by
  intro hkind
  rw [Tree.mayComeFirst, hkind] at h
  contradiction

/-- Where no node may come first, a leaf does. -/
lemma exists_role_of_mayComeFirst {kind : NodeKind} (hlead : ∀ k, Grammar.mayLead kind k = false)
    (h : sh.tree.mayComeFirst kind first = true) :
    ∃ role, sh.tree.kind first = .leaf role ∧ Grammar.mayOpen kind (sh.tree.tokenKind first) = true := by
  unfold Tree.mayComeFirst at h
  split at h
  · next role hrole => exact ⟨role, hrole, h⟩
  · exact absurd h nofun
  · rw [hlead] at h
    exact absurd h nofun

lemma isLeafOf_of_mayComeFirst {kind : NodeKind} {token : TokenKind}
    (hopen : ∀ k, Grammar.mayOpen kind k = true → k = token) (hlead : ∀ k, Grammar.mayLead kind k = false)
    (h : sh.tree.mayComeFirst kind first = true) : sh.tree.isLeafOf first token = true := by
  obtain ⟨role, hrole, hfirst⟩ := exists_role_of_mayComeFirst hlead h
  rw [Tree.isLeafOf, hrole]
  exact beq_iff_eq.2 (hopen _ hfirst)

/-! ### Children -/

/-- The layout of the children of a node. -/
def LaysChildren (sh : Sheet) (I : Cache Policy → Prop) (render : Render) (ids : List Nat) : Prop :=
  ∀ child ∈ ids, child < sh.tree.size
    ∧ (sh.tree.kind child ≠ .comment → ∀ ctx column, Ensures I (render child ctx column) (sh.Laid child))

lemma Regular.lays (hsh : sh.Regular) (hid : id < sh.tree.size) (hvisible : sh.isVisible id = true)
    (hvoid : ¬sh.IsVoid id)
    (hr : sh.tree.kind id ≠ .comment → ∀ ctx column, Ensures I (render id ctx column) (sh.Laid id)) :
    sh.Lays I render id := by
  by_cases hkind : sh.tree.kind id = .comment
  · refine .comment hkind ?_ (hsh.firm_comment hid hkind)
    simpa [isVisible, isComment, hkind] using hvisible
  · exact .node hkind fun ctx column => (hr hkind ctx column).mono fun piece hpiece => hpiece.2 hvoid

/-- Only a loop has a query without text. -/
lemma not_isVoid_of_isChild {kind : NodeKind} {depth : Nat} (h : IsChild sh.tree kind depth id)
    (hkind : kind ≠ .loopStatement) : ¬sh.IsVoid id := by
  rintro ⟨hstatement, hchildren⟩
  cases h with
  | piece htoken _ =>
    have hpiece : (sh.tree.kind id).isPiece = true := htoken.piece
    rw [hstatement] at hpiece
    exact absurd hpiece nofun
  | node _ _ _ hframed _ =>
    have hfirst := (hframed.resolve_right fun h => hkind h.1).first
    rw [hchildren] at hfirst
    exact absurd hfirst nofun
  | reject herror _ _ _ => exact absurd (hstatement.symm.trans herror) nofun

lemma Regular.lays_of_formed (hsh : sh.Regular) {kind : NodeKind} {depth : Nat} {ids : List Nat}
    (h : Formed sh.tree kind depth ids) (hkind : kind ≠ .loopStatement) (hr : sh.LaysChildren I render ids) :
    ∀ child ∈ ids.filter sh.isVisible, sh.Lays I render child := by
  intro child hchild
  obtain ⟨hmem, hvisible⟩ := List.mem_filter.1 hchild
  exact hsh.lays (hr child hmem).1 hvisible (not_isVoid_of_isChild (h.mem hmem) hkind) (hr child hmem).2

lemma firstPlain?_filter (ids : List Nat) :
    sh.tree.firstPlain? (ids.filter sh.isVisible) = sh.tree.firstPlain? ids := by
  rw [Tree.firstPlain?, Tree.firstPlain?, List.find?_filter]
  congr 1
  funext child
  cases hkind : sh.tree.kind child == .comment <;> simp_all [isVisible, isComment]

/-- The children of a loop, among which a query may be without text. -/
lemma Regular.controls (hsh : sh.Regular) {kind : NodeKind} {depth : Nat} {ids : List Nat}
    (h : Formed sh.tree kind depth ids) (hr : sh.LaysChildren I render ids) :
    sh.Controls I render (ids.filter sh.isVisible) := by
  induction h with
  | nil => exact .nil
  | @comment kind depth child i ids hkind _ _ ih =>
    have ih := ih fun c hc => hr c (by simp [hc])
    rw [List.filter_cons]
    split
    · next hvisible =>
      obtain ⟨hid, hrender⟩ := hr child (by simp)
      exact .node (hsh.lays hid hvisible (fun hvoid => by simp [IsVoid, hkind] at hvoid) hrender) ih
    · exact ih
  | @leaf kind depth child i role ids hkind _ _ _ ih =>
    obtain ⟨hid, hrender⟩ := hr child (by simp)
    have hvisible : sh.isVisible child = true := by simp [isVisible, isComment, hkind]
    rw [List.filter_cons_of_pos hvisible]
    exact .node (hsh.lays hid hvisible (fun hvoid => by simp [IsVoid, hkind] at hvoid) hrender)
      (ih fun c hc => hr c (by simp [hc]))
  | @node kind depth child ids hconstruct _ _ hframed _ _ _ ih =>
    obtain ⟨hid, hrender⟩ := hr child (by simp)
    have hvisible : sh.isVisible child = true := by
      have hne := Tree.ne_comment_of_isConstruct hconstruct
      simp [isVisible, isComment, hne]
    rw [List.filter_cons_of_pos hvisible]
    refine .node (hsh.lays hid hvisible (fun hvoid => ?_) hrender) (ih fun c hc => hr c (by simp [hc]))
    have hfirst := hframed.first
    rw [hvoid.2] at hfirst
    contradiction
  | @query depth child ids hkind hchildren hloop _ ih =>
    obtain ⟨hid, hrender⟩ := hr child (by simp)
    have hvisible : sh.isVisible child = true := by simp [isVisible, isComment, hkind]
    rw [List.filter_cons_of_pos hvisible]
    refine .query hkind (fun ctx column => ?_) ?_ (ih fun c hc => hr c (by simp [hc]))
    · exact (hrender (by simp [hkind]) ctx column).mono fun piece hpiece => hpiece.1 ⟨hkind, hchildren⟩
    · rw [firstPlain?_filter]
      exact hloop hsh.errors
  | reject _ _ herrors =>
    rw [hsh.errors] at herrors
    exact absurd herrors (Nat.lt_irrefl 0)

/-! ### The layout of every node -/

lemma neat_leaf (hsh : sh.Regular) {role : LeafRole} (hid : id < sh.tree.size)
    (hkind : sh.tree.kind id = .leaf role) : (sh.leaf id role column).Neat := by
  have hfirm := hsh.firm_leaf hid hkind
  unfold leaf
  dsimp only
  rw [if_neg (by simpa using hfirm.line)]
  exact hfirm

lemma hollow_statement (hvoid : sh.IsVoid id) :
    Ensures I (sh.statement render id ctx column) Piece.Hollow := by
  have hvisible : sh.visibleChildren id = [] := by rw [visibleChildren, hvoid.2, List.filter_nil]
  have hstart : (Piece.lines (.startingAt column)).Hollow := ⟨.startingAt column column, rfl⟩
  refine ensures_onOneLineOr_of ?_ ?_
  · unfold inline
    rw [hvisible]
    exact .pure hstart
  · rw [hvisible]
    exact .pure hstart

/-- The kinds of blocks, conditionals and loops. -/
def isControl : NodeKind → Bool
  | .block | .ifStatement | .conditionalBranch | .loopStatement => true
  | _ => false

/-- What a block, a conditional or a loop starts with. -/
def startsControl : NodeKind → Bool
  | .leaf _ | .declareSection | .conditionalBranch => true
  | _ => false

lemma startsControl_of_mayComeFirst {kind : NodeKind} {depth : Nat} (hkind : isControl kind = true)
    (hfirst : sh.tree.mayComeFirst kind first = true) (hchild : IsChild sh.tree kind depth first) :
    startsControl (sh.tree.kind first) = true := by
  unfold Tree.mayComeFirst at hfirst
  split at hfirst
  · next role hrole =>
    rw [hrole]
    rfl
  · exact absurd hfirst nofun
  · next hleaf hcomment =>
    cases hchild with
    | piece htoken _ =>
      have hpiece : (sh.tree.kind first).isPiece = true := htoken.piece
      generalize sh.tree.kind first = k at hpiece hleaf hcomment
      cases k <;> simp_all [NodeKind.isPiece]
    | node _ hhold _ _ _ =>
      generalize sh.tree.kind first = k at hhold hfirst
      cases kind <;> simp [isControl] at hkind <;> simp [Grammar.mayLead] at hfirst
      · simp [hfirst, startsControl]
      · have hk : k = .conditionalBranch := by simpa [Grammar.mayHold] using hhold
        simp [hk, startsControl]
    | reject herror hhold =>
      rw [herror] at hfirst
      cases kind <;> simp [isControl] at hkind <;> simp [Grammar.mayLead] at hfirst
      exact absurd hhold (by simp [Grammar.mayHold])

lemma neat_layoutNode (hsh : sh.Regular) (hroot : sh.tree.kind id ≠ .root)
    (hconstruct : Grammar.Item.isConstruct (sh.tree.kind id) = true) (hframed : sh.tree.Framed id) {depth : Nat}
    (hformed : Formed sh.tree (sh.tree.kind id) depth (sh.tree.children id))
    (hr : sh.LaysChildren I render (sh.tree.children id)) :
    Ensures I (sh.layoutNode render id ctx column) Piece.Neat := by
  obtain ⟨first, rest, hchildren, hfirst⟩ := exists_visibleChildren_eq_cons hframed
  have hcomment := ne_comment_of_mayComeFirst hfirst
  have hvisible : (sh.tree.children id).filter sh.isVisible = first :: rest := hchildren
  have hlays (hkind : sh.tree.kind id ≠ .loopStatement) : ∀ child ∈ first :: rest, sh.Lays I render child := by
    rw [← hvisible]
    exact hsh.lays_of_formed hformed hkind hr
  have hcontrols : sh.Controls I render (first :: rest) := hvisible ▸ hsh.controls hformed hr
  have hchild : IsChild sh.tree (sh.tree.kind id) depth first :=
    hformed.mem (List.mem_of_mem_filter (hvisible ▸ List.mem_cons_self))
  unfold layoutNode
  cases hkind : sh.tree.kind id with
  | root => exact absurd hkind hroot
  | leaf | comment | error => simp [hkind, Grammar.Item.isConstruct] at hconstruct
  | statementList => exact neat_statementList hchildren (hlays (by simp [hkind])) hcomment
  | statement => exact neat_statement hchildren (hlays (by simp [hkind]))
  | clause => exact neat_clause hchildren (hlays (by simp [hkind])) hcomment
  | commaList =>
    exact neat_commaList (by rw [commaFirst, hsh.comma]; rfl) hchildren (hlays (by simp [hkind])) hcomment
  | listElement | expression | declarationPart =>
    exact neat_expression hchildren (hlays (by simp [hkind])) hcomment
  | parenthesized =>
    rw [hkind] at hfirst
    exact neat_group hchildren (hlays (by simp [hkind]))
      (isLeafOf_of_mayComeFirst (fun k hk => by simpa [Grammar.mayOpen] using hk) (fun _ => rfl) hfirst)
  | functionCall => exact neat_functionCall hchildren (hlays (by simp [hkind]))
  | caseOf | caseStatement =>
    rw [hkind] at hfirst
    exact neat_caseOf hchildren (hlays (by simp [hkind]))
      (isLeafOf_of_mayComeFirst (fun k hk => by simpa [Grammar.mayOpen] using hk) (fun _ => rfl) hfirst)
  | whenBranch =>
    rw [hkind] at hfirst
    exact neat_whenBranch hchildren (hlays (by simp [hkind]))
      (isLeafOf_of_mayComeFirst (fun k hk => by simpa [Grammar.mayOpen] using hk) (fun _ => rfl) hfirst)
  | elseBranch =>
    rw [hkind] at hfirst
    obtain ⟨role, hrole, -⟩ := exists_role_of_mayComeFirst (fun _ => rfl) hfirst
    exact neat_elseBranch hchildren (hlays (by simp [hkind])) (by simp [hrole])
  | functionDefinition =>
    rw [hkind] at hfirst
    obtain ⟨role, hrole, -⟩ := exists_role_of_mayComeFirst (fun _ => rfl) hfirst
    exact neat_routineDefinition hchildren (hlays (by simp [hkind])) (by rw [hrole]; rfl)
  | tableDefinition => exact neat_tableDefinition hchildren (hlays (by simp [hkind]))
  | doBlock => exact neat_doBlock hchildren (hlays (by simp [hkind]))
  | functionBody =>
    rw [hkind] at hfirst
    obtain ⟨role, hrole, hopen⟩ := exists_role_of_mayComeFirst (fun _ => rfl) hfirst
    refine neat_routineBody hchildren (hlays (by simp [hkind])) (by simp [hrole]) ?_
    rw [Tree.isLeafOf, hrole]
    simpa [Grammar.mayOpen] using hopen
  | declarationList =>
    rw [hkind] at hfirst
    exact neat_declarationList hsh.comma hchildren (hlays (by simp [hkind]))
      (isLeafOf_of_mayComeFirst (fun k hk => by simpa [Grammar.mayOpen] using hk) (fun _ => rfl) hfirst)
  | declaration => exact neat_declaration hchildren (hlays (by simp [hkind])) hcomment
  | declareSection =>
    rw [hkind] at hfirst
    obtain ⟨role, hrole, -⟩ := exists_role_of_mayComeFirst (fun _ => rfl) hfirst
    exact neat_declareSection hchildren (hlays (by simp [hkind])) (by simp [hrole])
  | exceptionSection =>
    rw [hkind] at hfirst
    obtain ⟨role, hrole, -⟩ := exists_role_of_mayComeFirst (fun _ => rfl) hfirst
    exact neat_exceptionSection hchildren (hlays (by simp [hkind])) (by simp [hrole])
  | block | ifStatement | conditionalBranch | loopStatement =>
    have hstarts : startsControl (sh.tree.kind first) = true :=
      startsControl_of_mayComeFirst (by rw [hkind]; rfl) hfirst hchild
    cases hcontrols with
    | node hlaid hcontrols =>
      refine neat_control hchildren hlaid hcomment (fun hlist => ?_) hcontrols
      rw [hlist] at hstarts
      contradiction
    | query hstatement =>
      rw [hstatement] at hstarts
      contradiction

lemma kind_ne_root_of_isChild {kind : NodeKind} {depth : Nat} (h : IsChild sh.tree kind depth id) :
    sh.tree.kind id ≠ .root := by
  intro hroot
  cases h with
  | piece htoken _ =>
    have hpiece : (sh.tree.kind id).isPiece = true := htoken.piece
    rw [hroot] at hpiece
    contradiction
  | node _ hhold _ _ _ =>
    rw [hroot] at hhold
    cases kind <;> simp [Grammar.mayHold, Grammar.isAtom, NodeKind.isStatement, NodeKind.isError] at hhold
  | reject herror =>
    rw [hroot] at herror
    contradiction

/-- What a cache keeps of nodes other than the root. -/
def IsLaid (sh : Sheet) (id : Nat) (_ : Context) (piece : Piece) : Prop :=
  id ≠ sh.tree.root → sh.Laid id piece

lemma Laid.rebase {piece moved : Piece} (h : sh.Laid id piece) (hmoved : piece.rebase? column = some moved) :
    sh.Laid id moved :=
  ⟨fun hvoid => (h.1 hvoid).rebase hmoved, fun hvoid => (h.2 hvoid).rebase hmoved⟩

lemma laid_layoutNode (hsh : sh.Regular) (hid : id < sh.tree.size) (hroot : id ≠ sh.tree.root)
    (hcomment : sh.tree.kind id ≠ .comment) (hr : sh.LaysChildren I render (sh.tree.children id)) :
    Ensures I (sh.layoutNode render id ctx column) (sh.Laid id) := by
  obtain ⟨kind, depth, hchild⟩ := hsh.child hid hroot
  have hne := kind_ne_root_of_isChild hchild
  cases hchild with
  | piece htoken _ =>
    have hpiece : (sh.tree.kind id).isPiece = true := htoken.piece
    obtain ⟨role, hrole⟩ : ∃ role, sh.tree.kind id = .leaf role := by
      generalize sh.tree.kind id = k at hpiece hcomment
      cases k <;> simp [NodeKind.isPiece] at hpiece hcomment ⊢
    rw [layoutNode, hrole]
    exact .pure (.of_neat (fun hvoid => by simp [IsVoid, hrole] at hvoid) (neat_leaf hsh hid hrole))
  | node hconstruct _ _ hframed hformed =>
    obtain hframed | ⟨-, hkind, hchildren⟩ := hframed
    · refine (neat_layoutNode hsh hne hconstruct hframed hformed hr).mono fun piece hpiece =>
        .of_neat (fun hvoid => ?_) hpiece
      have hfirst := hframed.first
      rw [hvoid.2] at hfirst
      contradiction
    · have hvoid : sh.IsVoid id := ⟨hkind, hchildren⟩
      rw [layoutNode, hkind]
      exact (hollow_statement hvoid).mono fun piece hpiece => ⟨fun _ => hpiece, fun hno => absurd hvoid hno⟩
  | reject _ _ herrors =>
    rw [hsh.errors] at herrors
    exact absurd herrors (Nat.lt_irrefl 0)

lemma laid_renderTo (hsh : sh.Regular) {depth : Nat} (hid : id < sh.tree.size) (hroot : id ≠ sh.tree.root)
    (hcomment : sh.tree.kind id ≠ .comment) (hdepth : sh.tree.size ≤ depth + id) (ctx : Context) (column : Nat) :
    Ensures (Kept sh.IsLaid) (sh.renderTo depth id ctx column) (sh.Laid id) := by
  induction depth generalizing id ctx column with
  | zero => omega
  | succ depth ih =>
    have hlaid : Ensures (Kept sh.IsLaid) (sh.layoutNode (sh.renderTo depth) id ctx column) (sh.Laid id) := by
      refine laid_layoutNode hsh hid hroot hcomment fun child hchild => ?_
      obtain ⟨hlt, hsize⟩ := hsh.faithful.ordered id child hchild
      refine ⟨hsize, fun hkind ctx column => ih hsize ?_ hkind (by omega) ctx column⟩
      rw [hsh.root_eq]
      omega
    have hcached : Ensures (Kept sh.IsLaid) (sh.renderTo (depth + 1) id ctx column) (sh.IsLaid id ctx) :=
      ensures_cached_of (fun h hmoved hne => (h hne).rebase hmoved) (hlaid.mono fun _ hpiece _ => hpiece)
    exact hcached.mono fun piece hpiece => hpiece hroot

/-! ### The margin -/

lemma start_pushVerbatim (text : Text) (b : LineBuffer) : (b.pushVerbatim text).start = b.start := by
  have hlines (lines : List Text) (b : LineBuffer) : (lines.foldl LineBuffer.pushLine b).start = b.start := by
    induction lines generalizing b with
    | nil => rfl
    | cons line lines ih => exact ih _
  unfold LineBuffer.pushVerbatim
  split
  · rfl
  · rw [hlines, LineBuffer.push]
    split <;> rfl

lemma start_separate (space : Bool) (b : LineBuffer) : (b.separate space).start = b.start := by
  unfold LineBuffer.separate LineBuffer.pushSpace
  split_ifs <;> rfl

lemma start_appendComment (id : Nat) (b : LineBuffer) : (sh.appendComment id b).start = b.start := by
  unfold appendComment
  dsimp only
  split_ifs <;> simp only [LineBuffer.forceBreak, LineBuffer.setLast, start_pushVerbatim, start_separate] <;> rfl

lemma start_append (piece : Piece) (b : LineBuffer) : (b.append piece).start = b.start := by
  cases piece with
  | fragment => rfl
  | lines other =>
    unfold LineBuffer.append LineBuffer.appendBuffer
    dsimp only
    split <;> rfl

lemma start_gapBeforeComment (previous : TopEntry) (ownLine : Bool) (b : LineBuffer) :
    (sh.gapBeforeComment previous ownLine b).start = b.start := by
  unfold gapBeforeComment statementGap
  split
  · dsimp only
    split <;> rfl
  · rfl
  · rfl

lemma start_gapBeforeStatement (previous : TopEntry) (b : LineBuffer) :
    (sh.gapBeforeStatement previous b).start = b.start := by
  unfold gapBeforeStatement statementGap LineBuffer.pushSpace
  cases previous with
  | nothing => rfl
  | statement =>
    dsimp only
    split <;> rfl
  | comment =>
    dsimp only
    split_ifs <;> rfl

/-- The whole text starts at the margin. -/
lemma start_appendTopEntries (previous : TopEntry) (children : List Nat) (b : LineBuffer) :
    Ensures (fun _ => True) (sh.appendTopEntries render previous children b) (·.start = b.start) := by
  induction children generalizing previous b with
  | nil => exact .pure rfl
  | cons child rest ih =>
    unfold appendTopEntries
    refine .ite (fun _ => ?_) fun _ => ?_
    · refine (ih _ _).mono fun b' hb' => ?_
      rw [hb', start_appendComment, start_gapBeforeComment]
    · have hany (column : Nat) : Ensures (fun _ => True) (render child {} column) fun _ => True :=
        fun _ _ => ⟨trivial, trivial⟩
      have happend : Ensures (fun _ => True) (appendHere render child {} (sh.gapBeforeStatement previous b))
          (·.start = b.start) := by
        refine (hany _).bind fun piece _ => .pure ?_
        rw [start_append, start_gapBeforeStatement]
      exact happend.bind fun b' hb' => (ih _ _).mono fun b'' hb'' => hb''.trans hb'

/-! ### The whole text -/

/-- The text of a neat buffer at the margin is tidy. -/
lemma tidy_finish {b : LineBuffer} (h : b.Neat) (hstart : b.start = 0) :
    (sh.finish (.lines b)).Tidy (!sh.policy.noFinalNewline) := by
  have htext : b.trimTrailing.text = Text.join ['\n'] (Text.trimEnd b.current :: b.finished).reverse := by
    simp [LineBuffer.text, LineBuffer.trimTrailing, LineBuffer.lines, hstart, Text.spaces]
  have hsolid : Text.Solid (Text.join ['\n'] (Text.trimEnd b.current :: b.finished).reverse) := by
    rw [List.reverse_cons]
    exact Text.solid_join h.solid_trimEnd _
  have htidy := h.stacked.tidy h.solid_trimEnd (!sh.policy.noFinalNewline)
  unfold finish bufferOf
  dsimp only
  rw [htext, hsolid.trimEnd, if_neg (by simpa using hsolid.ne_nil)]
  cases hfinal : sh.policy.noFinalNewline <;> simpa [hfinal] using htidy

/-- A new cache has no piece for the root, which is laid out. -/
lemma exists_format_eq (hroot : sh.tree.kind sh.tree.root = .root) :
    ∃ cache : Cache Policy, cache.slots = #[] ∧ (sh.format {}).1
      = sh.finish (.lines (sh.appendTopEntries (sh.renderTo sh.tree.size) .nothing
          (sh.visibleChildren sh.tree.root) (.startingAt 0) cache).1) := by
  have hget : (({} : Cache Policy).get sh.tree.root {} 0 sh.policy sh.lineWidth).1 = none := by
    simp [Cache.get, Cache.entryOf?]
  refine ⟨(({} : Cache Policy).get sh.tree.root {} 0 sh.policy sh.lineWidth).2, by simp, ?_⟩
  show sh.finish (sh.renderTo (sh.tree.size + 1) sh.tree.root {} 0 {}).1 = _
  rw [renderTo, renderToIn, cached_eq, hget, layoutNode, hroot]
  rfl

/-- What is laid out is neat, and nothing is laid out for a source without statements. -/
lemma Regular.tidy_format (hsh : sh.Regular) :
    (sh.format {}).1 = [] ∨ (sh.format {}).1.Tidy (!sh.policy.noFinalNewline) := by
  obtain ⟨cache, hslots, hformat⟩ := exists_format_eq hsh.kind_root
  have hkept : Kept sh.IsLaid cache := by
    intro id entry hentry
    simp [hslots] at hentry
  rw [hformat]
  cases hchildren : sh.visibleChildren sh.tree.root with
  | nil => exact .inl rfl
  | cons first rest =>
    have hlays : ∀ child ∈ first :: rest, sh.Lays (Kept sh.IsLaid) (sh.renderTo sh.tree.size) child := by
      rw [← hchildren]
      refine hsh.lays_of_formed hsh.formed nofun fun child hchild => ?_
      obtain ⟨hlt, hsize⟩ := hsh.faithful.ordered _ child hchild
      refine ⟨hsize, fun hkind ctx column => laid_renderTo hsh hsize ?_ hkind (by omega) ctx column⟩
      omega
    refine .inr (tidy_finish (neat_appendTopEntries_cons hlays cache hkept).1 ?_)
    exact (start_appendTopEntries .nothing (first :: rest) (.startingAt 0) cache trivial).1

lemma regular_of_parse {source : Text} (hparse : Tree.parse source = .ok sh.tree)
    (herrors : sh.tree.errors.isEmpty = true) (hcomma : sh.policy.lists.comma = .after)
    (hlexed : ∀ token ∈ (TokenStream.ofText source).tokens, token.kind ≠ .error)
    (hlines : ∀ token ∈ (TokenStream.ofText source).tokens, token.kind ≠ .linefeed → '\n' ∉ token.text) :
    sh.Regular := by
  obtain ⟨htokens, hfaithful⟩ := Tree.faithful_of_parse hparse herrors
  have harena := (Tree.isGrown_of_parse hparse).2.isArena
  have hkind (i : Nat) : (TokenStream.ofText source).kind i ≠ .error :=
    hlexed _ (TokenStream.get_mem_tokens _ i)
  have hline (i : Nat) (hspace : ((TokenStream.ofText source).kind i).isWhitespace = false) :
      '\n' ∉ (TokenStream.ofText source).text i := by
    refine hlines _ (TokenStream.get_mem_tokens _ i) fun hfeed => ?_
    rw [TokenStream.kind, hfeed] at hspace
    contradiction
  constructor
  case faithful => exact hfaithful
  case errors => simpa using herrors
  case comma => exact hcomma
  case root_eq => exact harena.root_eq
  case kind_root => rw [harena.root_eq, harena.kind_root]
  case formed => exact Tree.formed_of_parse hparse
  case child =>
    intro id hid hroot
    obtain ⟨parent, depth, -, -, hchild⟩ := Tree.exists_parent hparse hid hroot
    exact ⟨_, depth, hchild⟩
  case firm_leaf =>
    intro id role hid hleaf
    obtain ⟨hlt, htrivia⟩ := hfaithful.leaf hid hleaf
    rw [htokens] at hlt htrivia
    have hspace := Tree.isWhitespace_of_not_isTrivia htrivia
    have hfirm : Firm (sh.tree.leafText id) := by
      rw [Tree.leafText, htokens]
      exact ⟨TokenStream.opens_text hlt hspace (hkind _), TokenStream.solid_text hlt htrivia (hkind _),
        hline _ hspace⟩
    unfold leafText
    dsimp only
    split
    · exact hfirm.letterCase _
    · exact hfirm
  case firm_comment =>
    intro id hid hcomment
    obtain ⟨hlt, hcomment⟩ := hfaithful.comment hid hcomment
    rw [htokens] at hlt hcomment ⊢
    have hspace := Tree.isWhitespace_of_isComment hcomment
    have hopens := TokenStream.opens_text hlt hspace (hkind _)
    exact ⟨hopens.trimEnd.1, hopens.trimEnd.2, Text.not_mem_trimEnd (hline _ hspace)⟩

end Sheet

/--
The formatted text of a source without errors, whose tokens stand on one line each, is tidy or empty. This
text is what the program writes, unless its columns get out of bounds; that they do not is certain where the
tree has space.
-/
theorem tidy_format_of_parse {policy : Policy} {source : Text} {tree : Tree}
    (hparse : Tree.parse source = .ok tree) (herrors : tree.errors.isEmpty = true)
    (hlexed : ∀ token ∈ (TokenStream.ofText source).tokens, token.kind ≠ .error)
    (hlines : ∀ token ∈ (TokenStream.ofText source).tokens, token.kind ≠ .linefeed → '\n' ∉ token.text)
    (hcomma : policy.lists.comma = .after) :
    ∃ out, format policy source = .ok out
      ∧ (formatBounded policy source = .ok out ∨ ∃ fault, formatBounded policy source = .error (.layout fault))
      ∧ ((Sheet.mk tree policy).HasSpace → formatBounded policy source = .ok out)
      ∧ (out = [] ∨ out.Tidy (!policy.noFinalNewline)) := by
  have hregular : Sheet.Regular ⟨tree, policy⟩ :=
    Sheet.regular_of_parse hparse herrors hcomma hlexed hlines
  exact ⟨_, format_of_parse hparse, formatBounded_eq_or_fault hparse policy, formatBounded_of_hasSpace hparse,
    hregular.tidy_format⟩

/-- Two statements, with a comment at the end of a line. -/
theorem tidy_format_of_two_statements :
    formatBounded { lineWidth := ⟨12, .one⟩ } "select a, -- one\n  b + c; select d".toList
        = .ok "SELECT a, -- one\n       b + c;\n\nSELECT d\n".toList
      ∧ Text.Tidy "SELECT a, -- one\n       b + c;\n\nSELECT d\n".toList true := by
  have hbounded : formatBounded { lineWidth := ⟨12, .one⟩ } "select a, -- one\n  b + c; select d".toList
      = .ok "SELECT a, -- one\n       b + c;\n\nSELECT d\n".toList := ok_of_toOption (by decide +kernel)
  obtain ⟨tree, hparse, hfine⟩ := Tree.exists_of_any "select a, -- one\n  b + c; select d".toList
    (fun tree => tree.errors.isEmpty && decide (Sheet.mk tree { lineWidth := ⟨12, .one⟩ }).HasSpace)
    (by decide +kernel)
  obtain ⟨herrors, hspace⟩ := Bool.and_eq_true_iff.1 hfine
  obtain ⟨out, -, -, hsame, hout⟩ := @tidy_format_of_parse { lineWidth := ⟨12, .one⟩ } _ _ hparse
    herrors (by decide +kernel) (by decide +kernel) rfl
  obtain rfl := Except.ok.inj (hbounded.symm.trans (hsame (of_decide_eq_true hspace)))
  exact ⟨hbounded, hout.resolve_left (by decide)⟩

/-- Data types that are to line up too far right for any line, in a table that has two of them. -/
theorem no_lines_of_far_types :
    ∃ tree, Tree.parse "create table u (a int, b int)".toList = .ok tree
      ∧ tree.errors.isEmpty = true
      ∧ (∀ token ∈ (TokenStream.ofText "create table u (a int, b int)".toList).tokens,
        token.kind ≠ .error ∧ '\n' ∉ token.text)
      ∧ formatBounded
        { lineWidth := ⟨18446744073709551615, .one⟩, arguments := { dataType := .fixed 10000000000000000000 } }
        "create table u (a int, b int)".toList = .error (.layout .capacity) := by
  obtain ⟨tree, hparse, herrors⟩ := Tree.exists_of_any "create table u (a int, b int)".toList
    (fun tree => tree.errors.isEmpty) (by decide +kernel)
  exact ⟨tree, hparse, herrors, by decide +kernel, by decide +kernel⟩

end SqlLayout
