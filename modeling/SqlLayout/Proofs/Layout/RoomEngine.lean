import SqlLayout.Proofs.Layout.Bounded
import SqlLayout.Proofs.Layout.History
import SqlLayout.Proofs.Layout.RoomCases
import SqlLayout.Proofs.Layout.RoomDeclarations
import SqlLayout.Proofs.Layout.RoomLists
import SqlLayout.Proofs.Layout.RoomStatements
import SqlLayout.Proofs.Tree.Formed

/-!
# Whole trees keep within their room

A cache answers with pieces that were laid out with room, or with such pieces moved to where they still fit
on a line. So every node keeps within its room at any depth, and a tree with room below the bounds of
columns is formatted.
-/

namespace SqlLayout

/-! ### Pieces that are moved -/

section

variable {start right right' spare column : Nat}

lemma LineBuffer.Reaches.shifted {b : LineBuffer} (h : b.Reaches start right spare) (hline : b.finished = [])
    (hfits : column + (b.width - b.start) ≤ right') : (b.shifted column).Reaches column right' spare := by
  obtain ⟨rfl, -, -, hstart, hbytes, hreached⟩ := h
  have hcursor := hreached hline
  rw [margin, if_pos hline] at hbytes
  unfold LineBuffer.shifted
  split
  · refine ⟨rfl, ?_, ?_, ?_, ?_, fun _ => ?_⟩
    all_goals simp only [margin, hline, if_true]
    all_goals omega
  · refine ⟨rfl, ?_, ?_, ?_, ?_, fun _ => ?_⟩
    all_goals simp only [margin, hline, if_true]
    all_goals omega

/-- A piece that is moved has as many bytes for its columns as before. -/
lemma Piece.InRoom.rebase {piece moved : Piece} (h : piece.InRoom start right spare)
    (hmoved : piece.rebase? column = some moved) (hfits : column + (piece.width - piece.start) ≤ right') :
    moved.InRoom column right' spare := by
  cases h with
  | fragment _ hbytes =>
    obtain rfl := Option.some.inj hmoved
    rw [Piece.width, Piece.start, Nat.add_sub_cancel_left] at hfits
    exact .fragment hfits hbytes
  | lines h =>
    rw [Piece.rebase?] at hmoved
    split at hmoved
    · next hheight =>
      obtain rfl := Option.some.inj hmoved
      exact .lines (h.shifted (List.length_eq_zero_iff.1 (Nat.succ.inj hheight)) hfits)
    · contradiction

end

/-- No node may hold a root. -/
lemma Grammar.mayHold_root (kind : NodeKind) : Grammar.mayHold kind .root = false := by
  cases kind <;> rfl

namespace Tree

/-- No child of a node is a root. -/
lemma kind_ne_root_of_mem {source : Text} {t : Tree} (h : parse source = .ok t) {id child : Nat}
    (hchild : child ∈ t.children id) : t.kind child ≠ .root := by
  have hid : id < t.size := by
    have hchildren := ordered_of_parse h id child hchild
    omega
  obtain ⟨depth, hformed⟩ := formed_children h hid
  intro hroot
  cases hformed.mem hchild with
  | piece htoken _ =>
    have hpiece : (t.kind child).isPiece = true := htoken.piece
    rw [hroot] at hpiece
    contradiction
  | node _ hhold _ _ _ =>
    rw [hroot, Grammar.mayHold_root] at hhold
    contradiction
  | reject herror _ _ _ =>
    rw [hroot] at herror
    contradiction

end Tree

namespace Sheet

variable {sh : Sheet} {I : Cache Policy → Prop} {render : RenderIn BoundedLayout} {id : Nat} {ctx : Context}
  {column right : Nat}

/-! ### Nodes of every kind -/

lemma succeeds_layoutNode (ht : sh.tree.Ordered) (hr : ∀ child ∈ sh.visibleChildren id, sh.KeepsRoom I render child)
    (hroot : sh.tree.kind id ≠ .root) (h : sh.HasRoom (sh.needs id ctx) id ctx column right) :
    Succeeds I (sh.layoutNode render id ctx column) (·.New column right (sh.pieceRoom id)) := by
  have hwhole (hkind : sh.tree.kind id ≠ .whenBranch) : sh.HasRoom (sh.pieceRoom id) id ctx column right :=
    needs_of_whole (.inr hkind) ▸ h
  unfold layoutNode
  cases hkind : sh.tree.kind id with
  | root => exact absurd hkind hroot
  | statementList => exact succeeds_statementList ht hr (hwhole (by simp [hkind]))
  | statement => exact succeeds_statement ht hr (hwhole (by simp [hkind]))
  | clause => exact succeeds_clause ht hr (hwhole (by simp [hkind]))
  | commaList => exact succeeds_commaList ht hr (hwhole (by simp [hkind]))
  | listElement | expression | declarationPart => exact succeeds_expression ht hr (hwhole (by simp [hkind]))
  | parenthesized => exact succeeds_group ht hr (hwhole (by simp [hkind]))
  | functionCall => exact succeeds_functionCall ht hr (hwhole (by simp [hkind]))
  | caseOf | caseStatement => exact succeeds_caseOf ht hr (hwhole (by simp [hkind]))
  | whenBranch => exact succeeds_whenBranch ht hr hkind h
  | elseBranch => exact succeeds_elseBranch ht hr (hwhole (by simp [hkind]))
  | functionDefinition => exact succeeds_routineDefinition ht hr (hwhole (by simp [hkind]))
  | tableDefinition => exact succeeds_tableDefinition ht hr (hwhole (by simp [hkind]))
  | doBlock => exact succeeds_doBlock ht hr (hwhole (by simp [hkind]))
  | functionBody => exact succeeds_routineBody ht hr (hwhole (by simp [hkind]))
  | declarationList => exact succeeds_declarationList ht hr (hwhole (by simp [hkind]))
  | declaration => exact succeeds_declaration ht hr (hwhole (by simp [hkind])) hkind
  | declareSection => exact succeeds_declareSection ht hr (hwhole (by simp [hkind]))
  | exceptionSection => exact succeeds_exceptionSection ht hr (hwhole (by simp [hkind]))
  | block | ifStatement | conditionalBranch | loopStatement => exact succeeds_control ht hr (hwhole (by simp [hkind]))
  | leaf role => exact .pure (new_leaf (hwhole (by simp [hkind])) hkind)
  | comment => exact .pure (new_comment (hwhole (by simp [hkind])) hkind)
  | error index => exact .pure (new_errorPiece (hwhole (by simp [hkind])) hkind)

/-! ### The cache -/

/-- A piece that keeps within any room that is enough for the node where it was laid out, and within some. -/
structure Settled (sh : Sheet) (id : Nat) (ctx : Context) (column : Nat) (piece : Piece) : Prop where
  some : ∃ right, piece.InRoom column right (sh.pieceRoom id)
  all : ∀ right, sh.HasRoom (sh.needs id ctx) id ctx column right → piece.InRoom column right (sh.pieceRoom id)

/-- A cache keeps pieces of the tree below its root that are settled. -/
def KeepsSettled (sh : Sheet) (cache : Cache Policy) : Prop :=
  ∀ id e, cache.slots[id]? = some (some e) → sh.tree.kind id ≠ .root → sh.Settled id e.context e.column e.piece

lemma keepsSettled_empty (enabled : Bool) : sh.KeepsSettled { enabled := enabled } := by
  intro id e hslot
  exact absurd hslot (by simp)

/-- What a cache answers keeps within its room, also after a move. -/
lemma KeepsSettled.get {cache : Cache Policy} {piece : Piece} (h : sh.KeepsSettled cache)
    (hroot : sh.tree.kind id ≠ .root) (hroom : sh.HasRoom (sh.needs id ctx) id ctx column right)
    (hget : (cache.get id ctx column sh.policy sh.lineWidth).1 = some piece) :
    piece.InRoom column right (sh.pieceRoom id) := by
  have henabled : cache.enabled = true := by
    by_contra hoff
    rw [Cache.get, Bool.eq_false_of_not_eq_true hoff] at hget
    contradiction
  obtain ⟨e, hslot, rfl, -, hpiece⟩ := (Cache.get_eq_some_iff henabled).1 hget
  have hsettled := h id e (by simpa [Option.join_eq_some_iff] using hslot) hroot
  obtain ⟨rfl, rfl⟩ | ⟨-, -, hfits, hmoved⟩ := hpiece
  · exact hsettled.all right hroom
  · obtain ⟨right', hinRoom⟩ := hsettled.some
    have hline := hroom.line
    exact hinRoom.rebase hmoved (by omega)

/-- A layout gives one result, so what is true of it for each bound is true for all of them. -/
lemma Succeeds.all {α : Type} {layout : BoundedLayout α} {p : Nat → Prop} {post : Nat → α → Prop} {n : Nat}
    (hn : p n) (h : ∀ n, p n → Succeeds I layout (post n)) : Succeeds I layout fun a => ∀ n, p n → post n a := by
  intro cache hcache
  obtain ⟨a, cache', hresult, -, hcache'⟩ := h n hn cache hcache
  refine ⟨a, cache', hresult, fun m hm => ?_, hcache'⟩
  obtain ⟨a', cache'', hresult', hpost, -⟩ := h m hm cache hcache
  rw [hresult] at hresult'
  obtain ⟨rfl, rfl⟩ := Prod.mk.inj (Except.ok.inj hresult')
  exact hpost

/-- A layout with the cache asks it first, and keeps its piece there. -/
lemma succeeds_cached {layout : RenderIn BoundedLayout} {post : Piece → Prop}
    (hget : ∀ cache piece, sh.KeepsSettled cache →
      (cache.get id ctx column sh.policy sh.lineWidth).1 = some piece → post piece)
    (h : Succeeds sh.KeepsSettled (layout id ctx column) fun piece =>
      piece.fault? = none ∧ (sh.tree.kind id ≠ .root → sh.Settled id ctx column piece) ∧ post piece) :
    Succeeds sh.KeepsSettled (sh.cached layout id ctx column) post := by
  have hasked : Succeeds sh.KeepsSettled
      (modifyGet (Cache.get · id ctx column sh.policy sh.lineWidth) : BoundedLayout (Option Piece))
      fun found? => ∀ piece, found? = some piece → post piece := by
    refine .modifyGet fun cache hcache => ⟨fun piece => hget cache piece hcache, fun i e he => ?_⟩
    rw [Cache.slots_get] at he
    exact hcache i e he
  refine hasked.bind fun found? hfound => ?_
  cases found? with
  | some piece => exact .pure (hfound piece rfl)
  | none =>
    refine h.bind fun piece hpiece => ?_
    obtain ⟨hfault, hsettled, hpost⟩ := hpiece
    refine .stopFor hfault ?_
    have hkept : Succeeds sh.KeepsSettled
        (modify (Cache.insert · id ctx column sh.policy piece) : BoundedLayout Unit) fun _ => True := by
      refine .modifyGet fun cache hcache => ⟨trivial, fun i e he hroot => ?_⟩
      rcases Cache.slots_insert he with he | ⟨rfl, rfl⟩
      · exact hcache i e he hroot
      · exact hsettled hroot
    exact hkept.bind fun _ _ => .pure hpost

/-! ### Trees -/

section

variable (ht : sh.tree.Ordered) (hbelow : ∀ id, ∀ child ∈ sh.tree.children id, sh.tree.kind child ≠ .root)

include ht hbelow

/-- Every node below the root keeps within its room, laid out to any depth. -/
lemma keepsRoom_renderToIn (depth : Nat) (hroot : sh.tree.kind id ≠ .root) :
    sh.KeepsRoom sh.KeepsSettled (sh.renderToIn BoundedLayout depth) id := by
  induction depth generalizing id with
  | zero =>
    intro ctx column right h
    exact .pure (.fragment (Nat.le_of_add_right_le h.column) (Nat.zero_le _))
  | succ depth ih =>
    intro ctx column right h
    have hr : ∀ child ∈ sh.visibleChildren id,
        sh.KeepsRoom sh.KeepsSettled (sh.renderToIn BoundedLayout depth) child :=
      fun child hchild => ih (hbelow id child (List.mem_of_mem_filter hchild))
    refine succeeds_cached (fun cache piece hcache => hcache.get hroot h) ?_
    refine (Succeeds.all h fun right h => succeeds_layoutNode ht hr hroot h).mono fun piece hnew => ?_
    have hsettled : sh.Settled id ctx column piece :=
      ⟨⟨right, (hnew right h).inRoom⟩, fun right h => (hnew right h).inRoom⟩
    exact ⟨(hnew right h).fault?, fun _ => hsettled, (hnew right h).inRoom⟩

/-- A tree whose room is below the bounds of columns is laid out without a fault. -/
lemma exists_renderBounded (hroot : sh.tree.kind sh.tree.root = .root) (hspace : sh.HasSpace) (enabled : Bool) :
    ∃ result, sh.renderBounded sh.tree.root {} 0 { enabled := enabled } = .ok result := by
  have hroom := sh.pieceRoom_add_le_room ht sh.tree.root
  have h : sh.HasRoom (sh.pieceRoom sh.tree.root) sh.tree.root {} 0 (sh.lineWidth + sh.room sh.tree.root) :=
    ⟨by omega, by omega, show 0 + _ ≤ _ by omega, hspace, by simp [hroot], by simp [hroot]⟩
  have hr : ∀ child ∈ sh.visibleChildren sh.tree.root,
      sh.KeepsRoom sh.KeepsSettled (sh.renderToIn BoundedLayout sh.tree.size) child := fun child hchild =>
    keepsRoom_renderToIn ht hbelow sh.tree.size (hbelow _ child (List.mem_of_mem_filter hchild))
  have hlayout : Succeeds sh.KeepsSettled
      (sh.layoutNode (sh.renderToIn BoundedLayout sh.tree.size) sh.tree.root {} 0)
      (·.New 0 (sh.lineWidth + sh.room sh.tree.root) (sh.pieceRoom sh.tree.root)) := by
    unfold layoutNode
    rw [hroot]
    exact succeeds_root ht hr h
  have hcached : Succeeds sh.KeepsSettled (sh.renderBounded sh.tree.root {} 0) fun _ => True :=
    succeeds_cached (fun _ _ _ _ => trivial) (hlayout.mono fun _ hnew =>
      ⟨hnew.fault?, fun hno => absurd hroot hno, trivial⟩)
  obtain ⟨piece, cache, hresult, -⟩ := hcached _ (keepsSettled_empty enabled)
  exact ⟨_, hresult⟩

end

end Sheet

variable {policy : Policy} {source : Text} {tree : Tree}

/-- A tree with space is formatted to its text. -/
theorem formatTreeBounded_of_hasSpace (hparse : Tree.parse source = .ok tree)
    (hspace : (Sheet.mk tree policy).HasSpace) :
    formatTreeBounded policy tree = .ok (formatTree policy tree) := by
  have hordered := Tree.ordered_of_parse hparse
  have harena := (Tree.isGrown_of_parse hparse).2.isArena
  have hroot : tree.kind tree.root = .root := by rw [harena.root_eq, harena.kind_root]
  obtain ⟨result, hresult⟩ :=
    Sheet.exists_renderBounded hordered (fun _ _ hchild => Tree.kind_ne_root_of_mem hparse hchild) hroot hspace true
  have hbounded : formatTreeBounded policy tree = .ok ((Sheet.mk tree policy).finish result.1) := by
    rw [formatTreeBounded_eq]
    exact congrArg (Except.map _) hresult
  rw [hbounded, formatTree_eq_of_formatTreeBounded hordered (Tree.root_lt_of_parse hparse) hbounded]

/-- The program formats every source whose tree has space to its text. -/
theorem formatBounded_of_hasSpace (hparse : Tree.parse source = .ok tree)
    (hspace : (Sheet.mk tree policy).HasSpace) : formatBounded policy source = .ok (formatTree policy tree) := by
  rw [formatBounded_of_parse hparse, formatTreeBounded_of_hasSpace hparse hspace]
  rfl

end SqlLayout
