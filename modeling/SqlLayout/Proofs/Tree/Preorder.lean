import Mathlib.Data.List.Basic
import SqlLayout.Proofs.Tree.Build

/-!
# The order of an arena

In an arena that grew while tokens were read, children come after their parent, and a node with all that
is below it takes consecutive numbers: arena order is preorder. A node holds one token, or encloses the
nodes that grew below it while its tokens were read. Leaves and comments enumerate the significant tokens
and the comments of the stream, each once and in order.
-/

namespace SqlLayout
namespace Tree

variable {ts : TokenStream} {t : Tree} {id pos err past : Nat} {ids : List Nat} {nodes : List Node}
  {errors : List SyntaxError}

/-! ### Nodes below a node -/

/-- Children come after their parent and are nodes of the arena. -/
def Ordered (t : Tree) : Prop :=
  ∀ id, ∀ child ∈ t.children id, id < child ∧ child < t.size

/-- Numbers that no node has stand for an empty root. -/
lemma kind_of_le (h : t.size ≤ id) : t.kind id = .root := by
  rw [kind, node, Array.getD_eq_getD_getElem?, Array.getElem?_eq_none h]
  rfl

/-- What is no root is a node of the tree. -/
lemma lt_size_of_kind (h : t.kind id ≠ .root) : id < t.size :=
  Nat.lt_of_not_le fun hle => h (kind_of_le hle)

/-- Depth enough for all nodes after a node is enough for what is below it. -/
lemma preorderTo_eq (h : t.Ordered) {m n : Nat} (hid : id < t.size) (hm : t.size ≤ m + id)
    (hn : t.size ≤ n + id) : t.preorderTo m id = t.preorderTo n id := by
  induction m generalizing n id with
  | zero => omega
  | succ m ih =>
    cases n with
    | zero => omega
    | succ n =>
      rw [preorderTo, preorderTo]
      congr 1
      refine List.flatMap_congr fun child hchild => ?_
      obtain ⟨hlt, hsize⟩ := h id child hchild
      exact ih hsize (by omega) (by omega)

/-- A node is followed by what is below its children. -/
lemma preorder_eq (h : t.Ordered) (id : Nat) :
    t.preorder id = id :: (t.children id).flatMap t.preorder := by
  rw [preorder, preorderTo]
  congr 1
  refine List.flatMap_congr fun child hchild => ?_
  obtain ⟨hlt, hsize⟩ := h id child hchild
  exact preorderTo_eq h hsize (by omega) (by omega)

/-! ### Numbers of growing nodes -/

lemma Grows.mem_ids (h : Grows ts id pos err ids nodes errors past) {child : Nat} (hchild : child ∈ ids) :
    id ≤ child ∧ child < id + nodes.length := by
  induction h with
  | nil => simp at hchild
  | blank _ _ _ ih => exact ih hchild
  | complain _ _ ih => exact ih hchild
  | comment _ _ _ ih | leaf _ _ _ _ ih =>
    rw [List.length_cons]
    rcases List.mem_cons.1 hchild with rfl | hchild
    · omega
    · have := ih hchild
      omega
  | node _ _ _ _ _ ih | reject _ _ _ _ _ _ ih =>
    rw [List.length_cons, List.length_append]
    rcases List.mem_cons.1 hchild with rfl | hchild
    · omega
    · have := ih hchild
      omega

/-- New children of a node are distinct. -/
lemma Grows.nodup_ids (h : Grows ts id pos err ids nodes errors past) : ids.Nodup := by
  induction h with
  | nil => exact List.nodup_nil
  | blank _ _ _ ih => exact ih
  | complain _ _ ih => exact ih
  | comment _ _ hrest ih | leaf _ _ _ hrest ih =>
    refine List.nodup_cons.2 ⟨fun hmem => ?_, ih⟩
    have := hrest.mem_ids hmem
    omega
  | node _ _ _ hrest _ ih | reject _ _ _ _ hrest _ ih =>
    refine List.nodup_cons.2 ⟨fun hmem => ?_, ih⟩
    have := hrest.mem_ids hmem
    omega

lemma node_eq_of_holds {n : Node} (h : t.nodes[id]? = some n) : t.node id = n := by
  rw [node, Array.getD_eq_getD_getElem?, h]
  rfl

/-- New children of a node are among the nodes that came to the arena. -/
lemma Grows.node_of_mem_ids (h : Grows ts id pos err ids nodes errors past) (hholds : Holds t.nodes id nodes)
    {child : Nat} (hchild : child ∈ ids) : child < t.size ∧ t.node child ∈ nodes := by
  obtain ⟨hle, hlt⟩ := h.mem_ids hchild
  obtain ⟨i, rfl⟩ := Nat.exists_eq_add_of_le hle
  have hi : i < nodes.length := by omega
  have hn := hholds i _ (List.getElem?_eq_getElem hi)
  rw [node_eq_of_holds hn]
  exact ⟨(Array.getElem?_eq_some_iff.1 hn).1, List.getElem_mem hi⟩

/-- Nodes that came to an arena are its nodes from a number on. -/
lemma map_node_of_holds (h : Holds t.nodes id nodes) :
    (List.range' id nodes.length).map t.node = nodes := by
  induction nodes generalizing id with
  | nil => rfl
  | cons n nodes ih =>
    obtain ⟨hn, hrest⟩ := holds_cons.1 h
    rw [List.length_cons, List.range'_succ, List.map_cons, node_eq_of_holds hn, ih hrest]

/-- What is below the new children of a node takes consecutive numbers. -/
lemma Grows.flatMap_preorder (h : Grows ts id pos err ids nodes errors past) (ht : t.Ordered)
    (hholds : Holds t.nodes id nodes) : ids.flatMap t.preorder = List.range' id nodes.length := by
  induction h with
  | nil => rfl
  | blank _ _ _ ih => exact ih hholds
  | complain _ _ ih => exact ih hholds
  | comment _ _ _ ih | leaf _ _ _ _ ih =>
    obtain ⟨hn, hrest⟩ := holds_cons.1 hholds
    rw [List.flatMap_cons, preorder_eq ht, Tree.children, node_eq_of_holds hn, ih hrest,
      List.length_cons, List.range'_succ]
    rfl
  | node _ _ _ _ ih₁ ih₂ | reject _ _ _ _ _ ih₁ ih₂ =>
    obtain ⟨hn, hrest⟩ := holds_cons.1 hholds
    obtain ⟨hwithin, hnodes⟩ := holds_append.1 hrest
    rw [List.flatMap_cons, preorder_eq ht, Tree.children, node_eq_of_holds hn,
      ih₁ hwithin, ih₂ hnodes, List.length_cons, List.length_append, List.range'_succ,
      List.cons_append, List.range'_append_1]

/-! ### Tokens of growing nodes -/

/-- The tokens from `pos` up to `past` whose kind satisfies `p`. -/
def tokensBetween (ts : TokenStream) (p : TokenKind → Bool) (pos past : Nat) : List Nat :=
  (List.range' pos (past - pos)).filter fun i => p (ts.kind i)

lemma tokensBetween_succ (p : TokenKind → Bool) (h : pos < past) :
    tokensBetween ts p pos past
      = (if p (ts.kind pos) then [pos] else []) ++ tokensBetween ts p (pos + 1) past := by
  have hn : past - pos = past - (pos + 1) + 1 := by omega
  rw [tokensBetween, tokensBetween, hn, List.range'_succ, List.filter_cons]
  split <;> rfl

lemma tokensBetween_append (p : TokenKind → Bool) {mid : Nat} (h₁ : pos ≤ mid) (h₂ : mid ≤ past) :
    tokensBetween ts p pos mid ++ tokensBetween ts p mid past = tokensBetween ts p pos past := by
  have hn : past - pos = (mid - pos) + (past - mid) := by omega
  rw [tokensBetween, tokensBetween, tokensBetween, ← List.filter_append, hn]
  congr 1
  have := List.range'_append_1 (s := pos) (m := mid - pos) (n := past - mid)
  rwa [Nat.add_sub_cancel' h₁] at this

/-- Whether a kind is a leaf of any role. -/
def isLeafKind : NodeKind → Bool
  | .leaf _ => true
  | _ => false

lemma isLeafKind_of_not_isPiece (kind : NodeKind) (h : kind.isPiece = false) :
    isLeafKind kind = false := by
  cases kind <;> first | rfl | exact absurd h (by simp [NodeKind.isPiece])

lemma isPiece_of_isConstruct {kind : NodeKind} (h : Grammar.Item.isConstruct kind = true) :
    kind.isPiece = false := by
  cases kind <;> first | rfl | exact absurd h (by simp [Grammar.Item.isConstruct])

/-- The first tokens of the nodes whose kind satisfies `q`. -/
def firstsOf (q : NodeKind → Bool) (nodes : List Node) : List Nat :=
  (nodes.filter fun n => q n.kind).map Node.first

/-- Nodes of one sort enumerate the tokens of one sort, if leaves and comments agree on the sort. -/
lemma Grows.firstsOf (h : Grows ts id pos err ids nodes errors past) {q : NodeKind → Bool}
    {p : TokenKind → Bool} (hblank : ∀ kind, kind.isWhitespace = true → p kind = false)
    (hcomment : ∀ kind, kind.isComment = true → p kind = q .comment)
    (hleaf : ∀ kind role, kind.isTrivia = false → p kind = q (.leaf role))
    (hother : ∀ kind, kind.isPiece = false → q kind = false) :
    firstsOf q nodes = tokensBetween ts p pos past := by
  induction h with
  | nil => simp [Tree.firstsOf, tokensBetween]
  | blank _ hkind hrest ih =>
    have hle := hrest.le
    rw [tokensBetween_succ p (Nat.lt_of_succ_le hle), hblank _ hkind, ih]
    rfl
  | complain _ _ ih => exact ih
  | comment _ hkind hrest ih =>
    have hle := hrest.le
    rw [tokensBetween_succ p (by omega), hcomment _ hkind, ← ih, Tree.firstsOf, List.filter_cons]
    split <;> rfl
  | leaf role _ hkind hrest ih =>
    have hle := hrest.le
    rw [tokensBetween_succ p (by omega), hleaf _ role hkind, ← ih, Tree.firstsOf, List.filter_cons]
    split <;> rfl
  | node hkind _ hinner hrest ih₁ ih₂ =>
    rw [Tree.firstsOf, List.filter_cons, hother _ (isPiece_of_isConstruct hkind),
      if_neg Bool.false_ne_true, List.filter_append, List.map_append]
    exact (congrArg₂ (· ++ ·) ih₁ ih₂).trans (tokensBetween_append p hinner.le hrest.le)
  | reject _ _ _ hinner hrest ih₁ ih₂ =>
    rw [Tree.firstsOf, List.filter_cons, hother _ rfl, if_neg Bool.false_ne_true, List.filter_append,
      List.map_append]
    exact (congrArg₂ (· ++ ·) ih₁ ih₂).trans (tokensBetween_append p hinner.le hrest.le)

/-! ### The nodes of an arena -/

/-- A node holds the token at `i` and nothing else: a comment, or a significant token under a leaf. -/
structure HoldsToken (ts : TokenStream) (n : Node) (i : Nat) : Prop where
  piece : n.kind.isPiece = true
  node_eq : n = ⟨n.kind, i, i + 1, []⟩
  lt : i < ts.lastIndex
  comment : n.kind = .comment → (ts.kind i).isComment = true
  leaf (role : LeafRole) : n.kind = .leaf role → (ts.kind i).isTrivia = false

/--
A node with the number `id` is followed by the nodes `within`, which grew below it while its tokens were read.
It is a construct, or stands for one of the errors with nothing but pieces below it.
-/
structure Encloses (ts : TokenStream) (arena : Array Node) (id : Nat) (n : Node) (within : List Node)
    (errors : List SyntaxError) : Prop where
  grows : ∃ err errors', errors' ⊆ errors ∧ Grows ts (id + 1) n.first err n.children within errors' n.past
  holds : Holds arena (id + 1) within
  spans : Spans ts n.first n.past within
  kind : Grammar.Item.isConstruct n.kind = true ∨ errors ≠ [] ∧ ∀ e ∈ within, e.kind.isPiece = true

variable {arena : Array Node} {n : Node} {within : List Node}

lemma HoldsToken.children_eq {i : Nat} (h : HoldsToken ts n i) : n.children = [] := by
  rw [h.node_eq]

lemma Encloses.mono {errors' : List SyntaxError} (h : Encloses ts arena id n within errors)
    (hsub : errors ⊆ errors') : Encloses ts arena id n within errors' := by
  obtain ⟨⟨err, inner, hinner, hgrows⟩, hholds, hspans, hkind⟩ := h
  refine ⟨⟨err, inner, List.Subset.trans hinner hsub, hgrows⟩, hholds, hspans, hkind.imp_right ?_⟩
  rintro ⟨hsome, hpieces⟩
  refine ⟨fun hnone => hsome ?_, hpieces⟩
  rw [hnone] at hsub
  exact List.subset_nil.1 hsub

/-- Among nodes and those after them, a node is one of the former, or one of the latter at its number there. -/
lemma getElem?_append_cases {i : Nat} (h : (within ++ nodes)[i]? = some n) :
    within[i]? = some n ∨ ∃ j, i = within.length + j ∧ nodes[j]? = some n := by
  rw [List.getElem?_append] at h
  split at h
  · exact .inl h
  · exact .inr ⟨_, by omega, h⟩

/-- Every node that comes to an arena holds one token, or encloses the nodes that grew below it. -/
lemma Grows.node_cases (h : Grows ts id pos err ids nodes errors past) (hholds : Holds arena id nodes)
    {i : Nat} (hn : nodes[i]? = some n) :
    (∃ token, HoldsToken ts n token) ∨ ∃ within, Encloses ts arena (id + i) n within errors := by
  induction h generalizing i with
  | nil => simp at hn
  | blank _ _ _ ih => exact ih hholds hn
  | complain _ _ ih =>
    exact (ih hholds hn).imp_right fun ⟨within, h⟩ => ⟨within, h.mono (List.subset_cons_self ..)⟩
  | comment hlt hkind _ ih =>
    cases i with
    | zero =>
      obtain rfl := Option.some.inj hn
      exact .inl ⟨_, rfl, rfl, hlt, fun _ => hkind, by simp⟩
    | succ i =>
      rw [Nat.add_comm i, ← Nat.add_assoc]
      exact ih (holds_cons.1 hholds).2 hn
  | leaf role hlt hkind _ ih =>
    cases i with
    | zero =>
      obtain rfl := Option.some.inj hn
      exact .inl ⟨_, rfl, rfl, hlt, by simp, fun _ _ => hkind⟩
    | succ i =>
      rw [Nat.add_comm i, ← Nat.add_assoc]
      exact ih (holds_cons.1 hholds).2 hn
  | @node id _ _ _ _ _ _ within _ _ _ _ hconstruct hspans hinner _ ih₁ ih₂ =>
    obtain ⟨hwithin, hnodes⟩ := holds_append.1 (holds_cons.1 hholds).2
    cases i with
    | zero =>
      obtain rfl := Option.some.inj hn
      exact .inr ⟨within, ⟨_, _, List.subset_append_left .., hinner⟩, hwithin, hspans, .inl hconstruct⟩
    | succ i =>
      rw [Nat.add_comm i, ← Nat.add_assoc]
      obtain hn' | ⟨j, rfl, hn'⟩ := getElem?_append_cases hn
      · exact (ih₁ hwithin hn').imp_right fun ⟨within, h⟩ => ⟨within, h.mono (List.subset_append_left ..)⟩
      · rw [← Nat.add_assoc]
        exact (ih₂ hnodes hn').imp_right fun ⟨within, h⟩ => ⟨within, h.mono (List.subset_append_right ..)⟩
  | @reject id _ _ _ _ _ _ within _ _ _ hspans hpieces hinner _ ih₁ ih₂ =>
    obtain ⟨hwithin, hnodes⟩ := holds_append.1 (holds_cons.1 hholds).2
    cases i with
    | zero =>
      obtain rfl := Option.some.inj hn
      exact .inr ⟨within, ⟨_, _, List.nil_subset _, hinner⟩, hwithin, hspans, .inr ⟨by simp, hpieces⟩⟩
    | succ i =>
      rw [Nat.add_comm i, ← Nat.add_assoc]
      obtain hn' | ⟨j, rfl, hn'⟩ := getElem?_append_cases hn
      · exact (ih₁ hwithin hn').imp_right fun ⟨within, h⟩ => ⟨within, h.mono (List.nil_subset _)⟩
      · rw [← Nat.add_assoc]
        exact (ih₂ hnodes hn').imp_right fun ⟨within, h⟩ => ⟨within, h.mono (List.subset_cons_self ..)⟩

/-- A node and those below it take consecutive numbers. -/
lemma Encloses.preorder_eq (h : Encloses ts t.nodes id (t.node id) within errors) (ht : t.Ordered) :
    t.preorder id = List.range' id (within.length + 1) := by
  obtain ⟨_, _, -, hinner⟩ := h.grows
  rw [Tree.preorder_eq ht, Tree.children, hinner.flatMap_preorder ht h.holds, List.range'_succ]

/-- The nodes that a node encloses are below it. -/
lemma Encloses.exists_mem_preorder (h : Encloses ts t.nodes id (t.node id) within errors) (ht : t.Ordered)
    {e : Node} (he : e ∈ within) : ∃ j ∈ t.preorder id, t.node j = e := by
  rw [← map_node_of_holds h.holds] at he
  obtain ⟨j, hj, rfl⟩ := List.mem_map.1 he
  rw [h.preorder_eq ht, List.range'_succ]
  exact ⟨j, List.mem_cons_of_mem _ hj, rfl⟩

/-! ### The tree of a source -/

/--
The tree of a source without errors: what its nodes can be, how they are numbered, and which tokens they
hold.
-/
structure Faithful (t : Tree) : Prop where
  closed : t.tokens.Closed
  ordered : t.Ordered
  nodup (id : Nat) : (t.children id).Nodup
  root_lt : t.root < t.size
  leaf {id : Nat} {role : LeafRole} : id < t.size → t.kind id = .leaf role →
    t.firstToken id < t.tokens.lastIndex ∧ (t.tokens.kind (t.firstToken id)).isTrivia = false
  comment {id : Nat} : id < t.size → t.kind id = .comment →
    t.firstToken id < t.tokens.lastIndex ∧ (t.tokens.kind (t.firstToken id)).isComment = true
  childless {id : Nat} : id < t.size → (t.kind id).isPiece = true → t.children id = []
  construct {id : Nat} : id < t.size → (t.kind id).isPiece = false →
    Grammar.Item.isConstruct (t.kind id) = true
  leaves : ((t.preorder t.root).filter fun id => isLeafKind (t.kind id)).map t.firstToken
    = tokensBetween t.tokens (!·.isTrivia) 0 t.tokens.lastIndex
  comments : ((t.preorder t.root).filter fun id => t.kind id == .comment).map t.firstToken
    = tokensBetween t.tokens (·.isComment) 0 t.tokens.lastIndex

lemma HoldsToken.firstToken_eq {i : Nat} (h : HoldsToken ts (t.node id) i) : t.firstToken id = i := by
  rw [firstToken, h.node_eq]
  simp only [Nat.add_sub_cancel_left, TokenStream.findForward]
  split <;> rfl

/-- The nodes of an arena are its root and those that came to it; other numbers have no children. -/
lemma node_of_arena (harena : t.nodes = (⟨.root, 0, ts.size, ids⟩ :: nodes).toArray) (id : Nat) :
    (id = 0 ∧ t.node id = ⟨.root, 0, ts.size, ids⟩)
      ∨ (∃ i, id = i + 1 ∧ nodes[i]? = some (t.node id))
      ∨ (t.size ≤ id ∧ (t.node id).children = []) := by
  cases id with
  | zero => exact .inl ⟨rfl, by simp [node, harena]⟩
  | succ i =>
    cases hn : nodes[i]? with
    | none =>
      refine .inr (.inr ⟨?_, ?_⟩)
      · simpa [size, harena] using hn
      · have hnode : t.node (i + 1) = default := by simp [node, harena, hn]
        rw [hnode]
        rfl
    | some n =>
      refine .inr (.inl ⟨i, rfl, ?_⟩)
      simp [node, harena, hn]

lemma holds_of_arena (harena : t.nodes = (⟨.root, 0, ts.size, ids⟩ :: nodes).toArray) :
    t.node 0 = ⟨.root, 0, ts.size, ids⟩ ∧ Holds t.nodes 1 nodes := by
  have hholds : Holds t.nodes 0 (⟨.root, 0, ts.size, ids⟩ :: nodes) := by
    rw [harena]
    exact holds_toArray _
  obtain ⟨hroot, hrest⟩ := holds_cons.1 hholds
  exact ⟨node_eq_of_holds hroot, hrest⟩

lemma ordered_of_arena (hgrows : Grows ts 1 0 0 ids nodes errors past)
    (harena : t.nodes = (⟨.root, 0, ts.size, ids⟩ :: nodes).toArray) : t.Ordered := by
  obtain ⟨-, hholds⟩ := holds_of_arena harena
  intro id child hchild
  rw [children] at hchild
  obtain ⟨rfl, hnode⟩ | ⟨i, rfl, hnode⟩ | ⟨-, hnode⟩ := node_of_arena harena id
  · rw [hnode] at hchild
    exact ⟨(hgrows.mem_ids hchild).1, (hgrows.node_of_mem_ids hholds hchild).1⟩
  · obtain ⟨token, htoken⟩ | ⟨within, hencloses⟩ := hgrows.node_cases hholds hnode
    · simp [htoken.children_eq] at hchild
    · obtain ⟨_, _, -, hinner⟩ := hencloses.grows
      have := (hinner.mem_ids hchild).1
      exact ⟨by omega, (hinner.node_of_mem_ids hencloses.holds hchild).1⟩
  · simp [hnode] at hchild

lemma nodup_children_of_arena (hgrows : Grows ts 1 0 0 ids nodes errors past)
    (harena : t.nodes = (⟨.root, 0, ts.size, ids⟩ :: nodes).toArray) (id : Nat) :
    (t.children id).Nodup := by
  obtain ⟨-, hholds⟩ := holds_of_arena harena
  rw [children]
  obtain ⟨-, hnode⟩ | ⟨i, -, hnode⟩ | ⟨-, hnode⟩ := node_of_arena harena id
  · rw [hnode]
    exact hgrows.nodup_ids
  · obtain ⟨token, htoken⟩ | ⟨within, hencloses⟩ := hgrows.node_cases hholds hnode
    · rw [htoken.children_eq]
      exact List.nodup_nil
    · obtain ⟨_, _, -, hinner⟩ := hencloses.grows
      exact hinner.nodup_ids
  · rw [hnode]
    exact List.nodup_nil

/-- A node of a tree that grew without errors holds one token or is a construct. -/
lemma kind_cases_of_arena (hgrows : Grows ts 1 0 0 ids nodes [] past)
    (harena : t.nodes = (⟨.root, 0, ts.size, ids⟩ :: nodes).toArray) (hid : id < t.size) :
    (∃ i, HoldsToken ts (t.node id) i) ∨ Grammar.Item.isConstruct (t.kind id) = true := by
  obtain ⟨-, hholds⟩ := holds_of_arena harena
  obtain ⟨-, hnode⟩ | ⟨i, -, hnode⟩ | ⟨hle, -⟩ := node_of_arena harena id
  · refine .inr ?_
    rw [kind, hnode]
    rfl
  · refine (hgrows.node_cases hholds hnode).imp_right ?_
    rintro ⟨within, hencloses⟩
    exact hencloses.kind.resolve_right fun h => h.1 rfl
  · omega

/-- Every node of a tree that grew, apart from its root, holds one token or encloses the nodes below it. -/
lemma IsGrown.node_cases (h : t.IsGrown past) (hpos : 0 < id) (hid : id < t.size) :
    (∃ token, HoldsToken t.tokens (t.node id) token)
      ∨ ∃ within, Encloses t.tokens t.nodes id (t.node id) within t.errors.toList := by
  obtain ⟨-, ids, nodes, hgrows, hnodes⟩ := h
  have harena : t.nodes = (⟨.root, 0, t.tokens.size, ids⟩ :: nodes).toArray := by rw [← hnodes]
  obtain ⟨-, hholds⟩ := holds_of_arena harena
  obtain ⟨rfl, -⟩ | ⟨i, rfl, hn⟩ | ⟨hge, -⟩ := node_of_arena harena id
  · exact absurd hpos (Nat.lt_irrefl 0)
  · rw [Nat.add_comm i]
    rw [Nat.add_comm i] at hn
    exact hgrows.node_cases hholds hn
  · exact absurd hid (Nat.not_lt.2 hge)

/-- What is no piece encloses the nodes below it. -/
lemma IsGrown.encloses (h : t.IsGrown past) (hpos : 0 < id) (hid : id < t.size)
    (hpiece : (t.kind id).isPiece = false) :
    ∃ within, Encloses t.tokens t.nodes id (t.node id) within t.errors.toList := by
  refine (h.node_cases hpos hid).resolve_left ?_
  rintro ⟨token, htoken⟩
  rw [kind, htoken.piece] at hpiece
  exact Bool.false_ne_true hpiece.symm

lemma IsGrown.ordered (h : t.IsGrown past) : t.Ordered := by
  obtain ⟨-, ids, nodes, hgrows, hnodes⟩ := h
  exact ordered_of_arena hgrows (by rw [← hnodes])

lemma preorder_of_arena (hgrows : Grows ts 1 0 0 ids nodes errors past)
    (harena : t.nodes = (⟨.root, 0, ts.size, ids⟩ :: nodes).toArray) :
    t.preorder 0 = 0 :: List.range' 1 nodes.length := by
  have hordered := ordered_of_arena hgrows harena
  obtain ⟨hroot, hrest⟩ := holds_of_arena harena
  rw [preorder_eq hordered, children, hroot, hgrows.flatMap_preorder hordered hrest]

/-- The nodes of one sort below the root, in document order, hold the tokens at their starts. -/
lemma firstsOf_of_arena (hgrows : Grows ts 1 0 0 ids nodes [] past)
    (harena : t.nodes = (⟨.root, 0, ts.size, ids⟩ :: nodes).toArray) {q : NodeKind → Bool}
    (hq : ∀ kind, kind.isPiece = false → q kind = false) :
    ((t.preorder 0).filter fun id => q (t.kind id)).map t.firstToken = firstsOf q nodes := by
  obtain ⟨hroot, hrest⟩ := holds_of_arena harena
  have hkind : q (t.kind 0) = false := by
    rw [kind, hroot]
    exact hq _ rfl
  rw [preorder_of_arena hgrows harena, List.filter_cons, hkind, if_neg Bool.false_ne_true, firstsOf]
  conv_rhs => rw [← map_node_of_holds hrest, List.filter_map, List.map_map]
  refine List.map_congr_left fun id hid => ?_
  obtain ⟨hmem, hqid⟩ := List.mem_filter.1 hid
  have hlt : id < t.size := by
    have hsize : t.size = nodes.length + 1 := by simp [size, harena]
    have := List.mem_range'_1.1 hmem
    omega
  -- The sort holds no constructs, so what is left of the arena are nodes with one token each.
  obtain ⟨i, hnode⟩ | hk := kind_cases_of_arena hgrows harena hlt
  · rw [hnode.firstToken_eq, Function.comp_apply, hnode.node_eq]
  · rw [hq _ (isPiece_of_isConstruct hk)] at hqid
    exact absurd hqid (by simp)

lemma leaves_of_grows (hgrows : Grows ts 1 0 0 ids nodes [] past) :
    firstsOf isLeafKind nodes = tokensBetween ts (!·.isTrivia) 0 past := by
  refine hgrows.firstsOf (fun kind h => ?_) (fun kind h => ?_) (fun kind role h => ?_)
    isLeafKind_of_not_isPiece
  · simp [TokenKind.isTrivia, h]
  · simp [TokenKind.isTrivia, h, isLeafKind]
  · simp [h, isLeafKind]

lemma ne_comment_of_not_isPiece (kind : NodeKind) (h : kind.isPiece = false) :
    (kind == .comment) = false := by
  rw [beq_eq_false_iff_ne]
  rintro rfl
  exact absurd h (by decide)

lemma comments_of_grows (hgrows : Grows ts 1 0 0 ids nodes [] past) :
    firstsOf (· == .comment) nodes = tokensBetween ts (·.isComment) 0 past := by
  refine hgrows.firstsOf (fun kind h => ?_) (fun kind h => ?_) (fun kind role h => ?_)
    ne_comment_of_not_isPiece
  · cases kind <;> first | rfl | exact absurd h (by simp [TokenKind.isWhitespace])
  · rw [h]
    rfl
  · rw [TokenKind.isTrivia, Bool.or_eq_false_iff] at h
    rw [h.2]
    rfl

/-- A tree that grew over all tokens, without errors, is faithful. -/
lemma IsGrown.faithful (hc : t.tokens.Closed) (h : t.IsGrown t.tokens.lastIndex)
    (herrors : t.errors.toList = []) : t.Faithful := by
  obtain ⟨hroot, ids, nodes, hgrows, hnodes⟩ := h
  rw [herrors] at hgrows
  have harena : t.nodes = (⟨.root, 0, t.tokens.size, ids⟩ :: nodes).toArray := by rw [← hnodes]
  have hsize : t.size = nodes.length + 1 := by simp [size, harena]
  refine ⟨hc, ordered_of_arena hgrows harena, nodup_children_of_arena hgrows harena, by omega,
    fun hid hkind => ?_, fun hid hkind => ?_, fun hid hpiece => ?_, fun hid hpiece => ?_, ?_, ?_⟩
  · obtain ⟨i, hnode⟩ | hk := kind_cases_of_arena hgrows harena hid
    · rw [hnode.firstToken_eq]
      exact ⟨hnode.lt, hnode.leaf _ hkind⟩
    · rw [hkind] at hk
      exact absurd hk (by simp [Grammar.Item.isConstruct])
  · obtain ⟨i, hnode⟩ | hk := kind_cases_of_arena hgrows harena hid
    · rw [hnode.firstToken_eq]
      exact ⟨hnode.lt, hnode.comment hkind⟩
    · rw [hkind] at hk
      exact absurd hk (by simp [Grammar.Item.isConstruct])
  · obtain ⟨i, hnode⟩ | hk := kind_cases_of_arena hgrows harena hid
    · rw [children, hnode.node_eq]
    · rw [isPiece_of_isConstruct hk] at hpiece
      exact absurd hpiece (by simp)
  · obtain ⟨i, hnode⟩ | hk := kind_cases_of_arena hgrows harena hid
    · rw [kind, hnode.piece] at hpiece
      exact absurd hpiece (by simp)
    · exact hk
  · rw [hroot]
    exact (firstsOf_of_arena hgrows harena isLeafKind_of_not_isPiece).trans (leaves_of_grows hgrows)
  · rw [hroot]
    exact (firstsOf_of_arena hgrows harena ne_comment_of_not_isPiece).trans (comments_of_grows hgrows)

lemma isGrown_of_parse {source : Text} (h : parse source = .ok t) :
    t.tokens = .ofText source ∧ t.IsGrown t.tokens.lastIndex := by
  obtain ⟨-, herror⟩ | ⟨-, t', ht', htokens, hgrown⟩ := parse_cases source
  · rw [herror] at h
    exact absurd h nofun
  · obtain rfl : t' = t := by
      rw [ht'] at h
      exact Except.ok.inj h
    rw [← htokens] at hgrown
    exact ⟨htokens, hgrown⟩

lemma ordered_of_parse {source : Text} (h : parse source = .ok t) : t.Ordered :=
  (isGrown_of_parse h).2.ordered

/-- The tree of a source without errors is faithful. -/
theorem faithful_of_parse {source : Text} (h : parse source = .ok t) (herrors : t.errors.isEmpty = true) :
    t.tokens = .ofText source ∧ t.Faithful := by
  obtain ⟨htokens, hgrown⟩ := isGrown_of_parse h
  refine ⟨htokens, hgrown.faithful ?_ (by simpa using herrors)⟩
  rw [htokens]
  exact TokenStream.closed_ofText source

end Tree
end SqlLayout
