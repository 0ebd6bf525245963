import Mathlib.Data.List.Forall2
import SqlLayout.Proofs.Tree.Preorder

/-!
# Ranges of nodes

The tree of a source, with errors or without, is an arena over all its tokens: nodes are numbered in
preorder, leaves and comments hold one token each and enumerate the stream, children lie one after the
other inside their parent, and what is no leaf starts on a significant token.

A node ends on a significant token unless a node without tokens stands at its end. Such a node is opened
after the trivia before it, which then fall into the nodes around it.
-/

namespace SqlLayout
namespace Tree

variable {ts : TokenStream} {t : Tree} {id pos err past : Nat} {ids : List Nat} {nodes : List Node}
  {errors : List SyntaxError}

/-! ### One token a piece -/

lemma isWhitespace_of_isComment {kind : TokenKind} (h : kind.isComment = true) :
    kind.isWhitespace = false := by
  cases kind <;> first | rfl | exact absurd h (by simp [TokenKind.isComment])

lemma isWhitespace_of_not_isTrivia {kind : TokenKind} (h : kind.isTrivia = false) :
    kind.isWhitespace = false :=
  (Bool.or_eq_false_iff.1 h).1

/-- Leaves and comments hold the tokens that are no whitespace, in order. -/
lemma Grows.pieces (h : Grows ts id pos err ids nodes errors past) :
    List.Forall₂ (HoldsToken ts) (nodes.filter (·.kind.isPiece))
      (tokensBetween ts (!·.isWhitespace) pos past) := by
  induction h with
  | nil => simp [tokensBetween]
  | blank _ hkind hrest ih =>
    rw [tokensBetween_succ _ (Nat.lt_of_succ_le hrest.le), hkind]
    exact ih
  | comment hlt hkind hrest ih =>
    rw [tokensBetween_succ _ (Nat.lt_of_succ_le hrest.le), isWhitespace_of_isComment hkind]
    exact .cons ⟨rfl, rfl, hlt, fun _ => hkind, by simp⟩ ih
  | leaf role hlt hkind hrest ih =>
    rw [tokensBetween_succ _ (Nat.lt_of_succ_le hrest.le), isWhitespace_of_not_isTrivia hkind]
    exact .cons ⟨rfl, rfl, hlt, by simp, fun _ _ => hkind⟩ ih
  | complain _ _ ih => exact ih
  | node hkind _ hinner hrest ih₁ ih₂ =>
    rw [List.filter_cons_of_neg (by simp [isPiece_of_isConstruct hkind]), List.filter_append,
      ← tokensBetween_append _ hinner.le hrest.le]
    exact List.rel_append ih₁ ih₂
  | reject _ _ _ hinner hrest ih₁ ih₂ =>
    rw [List.filter_cons_of_neg (by simp [NodeKind.isPiece]), List.filter_append,
      ← tokensBetween_append _ hinner.le hrest.le]
    exact List.rel_append ih₁ ih₂

/-! ### Children inside their parent -/

/-- Nodes that come to an arena lie where tokens were read. -/
lemma Grows.within (h : Grows ts id pos err ids nodes errors past) {n : Node} (hn : n ∈ nodes) :
    pos ≤ n.first ∧ n.first ≤ n.past ∧ n.past ≤ past := by
  induction h with
  | nil => simp at hn
  | blank _ _ _ ih =>
    have := ih hn
    omega
  | comment _ _ hrest ih | leaf _ _ _ hrest ih =>
    have hle := hrest.le
    rcases List.mem_cons.1 hn with rfl | hn
    · exact ⟨Nat.le_refl _, Nat.le_succ _, hle⟩
    · have := ih hn
      omega
  | complain _ _ ih => exact ih hn
  | node _ _ hinner hrest ih₁ ih₂ | reject _ _ _ hinner hrest ih₁ ih₂ =>
    have hle := hinner.le
    have hle' := hrest.le
    rcases List.mem_cons.1 hn with rfl | hn
    · exact ⟨Nat.le_refl _, hle, hle'⟩
    rcases List.mem_append.1 hn with hn | hn
    · have := ih₁ hn
      omega
    · have := ih₂ hn
      omega

/-- Children follow each other inside the range from `low` to `high`, none of them backwards. -/
def InOrder (t : Tree) (low high : Nat) (ids : List Nat) : Prop :=
  ids.Pairwise (fun a b => (t.node a).past ≤ (t.node b).first)
    ∧ ∀ child ∈ ids, low ≤ (t.node child).first ∧ (t.node child).first ≤ (t.node child).past
      ∧ (t.node child).past ≤ high

/-- The new children of a node follow each other where tokens were read. -/
lemma Grows.inOrder (h : Grows ts id pos err ids nodes errors past) (hholds : Holds t.nodes id nodes) :
    t.InOrder pos past ids := by
  -- The first child ends where the others begin to grow.
  have cons {low mid high : Nat} {child : Nat} {rest : List Nat} {n : Node}
      (hn : t.nodes[child]? = some n) (hfirst : low ≤ n.first) (hle : n.first ≤ n.past)
      (hpast : n.past = mid) (hmid : mid ≤ high) (hrest : t.InOrder mid high rest) :
      t.InOrder low high (child :: rest) := by
    obtain ⟨hpairs, hinside⟩ := hrest
    refine ⟨List.pairwise_cons.2 ⟨fun b hb => ?_, hpairs⟩, fun c hc => ?_⟩
    · rw [node_eq_of_holds hn, hpast]
      exact (hinside b hb).1
    · rcases List.mem_cons.1 hc with rfl | hc
      · rw [node_eq_of_holds hn]
        omega
      · have := hinside c hc
        omega
  induction h with
  | nil => exact ⟨.nil, by simp⟩
  | blank _ _ _ ih =>
    obtain ⟨hpairs, hinside⟩ := ih hholds
    refine ⟨hpairs, fun c hc => ?_⟩
    have := hinside c hc
    omega
  | comment _ _ hrest ih | leaf _ _ _ hrest ih =>
    obtain ⟨hn, hholds⟩ := holds_cons.1 hholds
    exact cons hn (Nat.le_refl _) (Nat.le_succ _) rfl hrest.le (ih hholds)
  | complain _ _ ih => exact ih hholds
  | node _ _ hinner hrest _ ih | reject _ _ _ hinner hrest _ ih =>
    obtain ⟨hn, hholds⟩ := holds_cons.1 hholds
    exact cons hn (Nat.le_refl _) hinner.le rfl hrest.le (ih (holds_append.1 hholds).2)

/-! ### The tree of a source -/

/-- A token that is neither trivia nor the end of input. -/
def IsSignificant (ts : TokenStream) (i : Nat) : Prop :=
  i < ts.lastIndex ∧ (ts.kind i).isTrivia = false

/-- An arena over all tokens of a stream. -/
structure IsArena (t : Tree) : Prop where
  root_eq : t.root = 0
  kind_root : t.kind 0 = .root
  root_span : (t.node 0).first = 0 ∧ (t.node 0).past = t.tokens.size
  preorder_root : t.preorder t.root = List.range t.size
  /-- Leaves and comments, in order, hold the tokens that are no whitespace. -/
  pieces : List.Forall₂ (HoldsToken t.tokens)
    (((List.range t.size).map t.node).filter (·.kind.isPiece))
    (tokensBetween t.tokens (!·.isWhitespace) 0 t.tokens.lastIndex)
  children {id : Nat} : id < t.size → t.InOrder (t.node id).first (t.node id).past (t.children id)
  starts {id : Nat} : 0 < id → id < t.size → (t.kind id).isPiece = false →
    (t.node id).first < (t.node id).past → IsSignificant t.tokens (t.node id).first
  /-- What is no piece ends on a significant token, or with a node that holds no tokens. -/
  ends {id : Nat} : 0 < id → id < t.size → (t.kind id).isPiece = false →
    (t.node id).first < (t.node id).past → IsSignificant t.tokens ((t.node id).past - 1)
      ∨ ∃ e ∈ t.preorder id, (t.kind e).isPiece = false
        ∧ (t.node e).first = (t.node id).past ∧ (t.node e).past = (t.node id).past

/-- The root is the first node, so every node of another kind comes after it. -/
lemma IsArena.pos_of_kind (h : t.IsArena) (hkind : t.kind id ≠ .root) : 0 < id :=
  Nat.pos_of_ne_zero fun hzero => hkind (hzero ▸ h.kind_root)

/-- Nodes other than the root came while the tokens of the arena were read. -/
lemma IsGrown.past_le (h : t.IsGrown past) (hpos : 0 < id) (hid : id < t.size) : (t.node id).past ≤ past := by
  obtain ⟨-, ids, nodes, hgrows, hnodes⟩ := h
  have harena : t.nodes = (⟨.root, 0, t.tokens.size, ids⟩ :: nodes).toArray := by rw [← hnodes]
  obtain ⟨rfl, -⟩ | ⟨i, -, hn⟩ | ⟨hge, -⟩ := node_of_arena harena id
  · exact absurd hpos (Nat.lt_irrefl 0)
  · exact (hgrows.within (List.mem_of_getElem? hn)).2.2
  · exact absurd hid (Nat.not_lt.2 hge)

/-- A tree that grew over all tokens is an arena over them. -/
lemma IsGrown.isArena (h : t.IsGrown t.tokens.lastIndex) : t.IsArena := by
  have hordered := h.ordered
  have hcases {id : Nat} (hpos : 0 < id) (hid : id < t.size) := h.node_cases hpos hid
  have hpast {id : Nat} (hpos : 0 < id) (hid : id < t.size) := h.past_le hpos hid
  have hencloses {id : Nat} (hpos : 0 < id) (hid : id < t.size) := h.encloses hpos hid
  obtain ⟨hroot, ids, nodes, hgrows, hnodes⟩ := h
  have harena : t.nodes = (⟨.root, 0, t.tokens.size, ids⟩ :: nodes).toArray := by rw [← hnodes]
  have hsize : t.size = nodes.length + 1 := by simp [size, harena]
  obtain ⟨hnode, hholds⟩ := holds_of_arena harena
  have hrange : List.range t.size = 0 :: List.range' 1 nodes.length := by
    rw [hsize, List.range_eq_range', List.range'_succ]
  have hlast : t.tokens.lastIndex ≤ t.tokens.size := Nat.le_of_lt t.tokens.lastIndex_lt_size
  refine ⟨hroot, by rw [kind, hnode], by simp [hnode], ?_, ?_, @fun id hid => ?_,
    fun hpos hid hpiece hlt => ?_, fun hpos hid hpiece hlt => ?_⟩
  · rw [hroot, hrange]
    exact preorder_of_arena hgrows harena
  · rw [hrange, List.map_cons, hnode, map_node_of_holds hholds,
      List.filter_cons_of_neg (by simp [NodeKind.isPiece])]
    exact hgrows.pieces
  · rw [children]
    rcases Nat.eq_zero_or_pos id with rfl | hpos
    · rw [hnode]
      obtain ⟨hpairs, hinside⟩ := hgrows.inOrder hholds
      refine ⟨hpairs, fun child hchild => ?_⟩
      have := hinside child hchild
      simp only
      omega
    · obtain ⟨token, htoken⟩ | ⟨within, h⟩ := hcases hpos hid
      · rw [htoken.children_eq]
        exact ⟨.nil, by simp⟩
      · obtain ⟨_, _, -, hinner⟩ := h.grows
        exact hinner.inOrder h.holds
  · obtain ⟨within, h⟩ := hencloses hpos hid hpiece
    exact ⟨Nat.lt_of_lt_of_le hlt (hpast hpos hid), h.spans.start⟩
  · obtain ⟨within, h⟩ := hencloses hpos hid hpiece
    have := hpast hpos hid
    refine (h.spans.ends hlt).imp (fun htoken => ⟨by omega, htoken⟩) ?_
    rintro ⟨e, he, hempty⟩
    obtain ⟨j, hj, rfl⟩ := h.exists_mem_preorder hordered he
    exact ⟨j, hj, hempty⟩

/-- The first node of the tree of a source exists. -/
lemma root_lt_of_parse {source : Text} (h : parse source = .ok t) : t.root < t.size := by
  have harena := (isGrown_of_parse h).2.isArena
  rw [harena.root_eq]
  -- A node that does not exist would have no tokens, and every stream has one.
  by_contra hge
  have hnode : t.node 0 = default := by
    rw [Tree.node, Array.getD_eq_getD_getElem?, Array.getElem?_eq_none (Nat.le_of_not_lt hge)]
    rfl
  have hempty : t.tokens.tokens.size = 0 := by
    have hpast := harena.root_span.2
    rw [hnode] at hpast
    exact hpast.symm
  exact absurd t.tokens.nonempty (Nat.not_lt_of_le (Nat.le_of_eq hempty))

/-- The tree of a source is an arena over all its tokens. -/
theorem isArena_of_parse {source : Text} (h : parse source = .ok t) :
    t.tokens = .ofText source ∧ t.IsArena := by
  obtain ⟨htokens, hgrown⟩ := isGrown_of_parse h
  exact ⟨htokens, hgrown.isArena⟩

/-- A group that is not closed is an error, and its tree is an arena as any other. -/
theorem isArena_of_open_group :
    ∃ t, parse "select a /* c */ from (b".toList = .ok t ∧ t.errors.isEmpty = false
      ∧ t.tokens = .ofText "select a /* c */ from (b".toList ∧ t.IsArena := by
  obtain ⟨t, ht, herrors⟩ := exists_of_any "select a /* c */ from (b".toList
    (fun t => !t.errors.isEmpty) (by decide +kernel)
  exact ⟨t, ht, by simpa using herrors, isArena_of_parse ht⟩

/-- A loop whose `IN` is lost to a `CASE` ends with an empty query, and so on the blank before it. -/
theorem loop_ends_on_blank :
    ∃ t, parse "do $$for case in select x end; $$".toList = .ok t
      ∧ ∃ id, 0 < id ∧ id < t.size ∧ t.kind id = .loopStatement
        ∧ (t.node id).first < (t.node id).past ∧ ¬IsSignificant t.tokens ((t.node id).past - 1) := by
  obtain ⟨t, ht, hloop⟩ := exists_of_any "do $$for case in select x end; $$".toList
    (fun t => decide (6 < t.size ∧ t.kind 6 = .loopStatement
      ∧ (t.node 6).first < (t.node 6).past ∧ (t.tokens.kind ((t.node 6).past - 1)).isTrivia = true))
    (by decide +kernel)
  obtain ⟨hsize, hkind, hlt, htrivia⟩ := of_decide_eq_true hloop
  refine ⟨t, ht, 6, by decide, hsize, hkind, hlt, fun hsignificant => ?_⟩
  rw [hsignificant.2] at htrivia
  exact absurd htrivia (by decide)

end Tree
end SqlLayout
