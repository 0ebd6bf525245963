import SqlLayout.Proofs.Token.Languages
import SqlLayout.Proofs.Tree.Bounds
import SqlLayout.Proofs.Tree.Mirror

/-!
# What the children of the nodes of a tree are

The shape of the forest of a run, read off the arena that mirrors it. `Formed t kind depth ids` says
that a node of the given kind, with `depth` groups around its children, may have the children `ids`;
`Framed t id` says that a node starts with a child that may come first and ends with its last child, and
where leaves stand in a `CASE` and in a declaration.
-/

namespace SqlLayout

namespace TokenStream

variable {source : Text} {i : Nat}

/-- An `n` starts a word, unless a quote follows it. -/
lemma front_of_n {s : Lexeme.Surroundings} {first : Char} {rest : Text} (hfirst : first ∈ ['n', 'N'])
    (hrest : rest.head? ≠ some '\'') :
    (Lexeme.front s first rest).1 = TokenKind.ofWord (first :: rest.takeWhile Lexeme.isIdentContinue) := by
  simp only [List.mem_cons, List.not_mem_nil, or_false] at hfirst
  rcases hfirst with rfl | rfl
  all_goals
    simp +decide [Lexeme.front, hrest]

lemma ofWord_ne_error (word : Text) : TokenKind.ofWord word ≠ .error := by
  unfold TokenKind.ofWord
  split <;> nofun

lemma mem_of_toLower_n {c : Char} (h : c.toLower = 'n') : c ∈ ['n', 'N'] := by
  rcases Nat.lt_or_ge c.toNat 128 with hlt | hge
  · exact Text.of_lt_128 (p := fun c => c.toLower = 'n' → c ∈ ['n', 'N']) (by decide) hlt h
  · have hlarge : ¬ c.val ≤ 'Z'.val := by
      intro h
      have hle : c.toNat ≤ 90 := UInt32.le_iff_toNat_le.1 h
      omega
    rw [show c.toLower = c from dif_neg fun h => hlarge h.2] at h
    simp [h]

/-- No malformed token spells a word. -/
lemma wellSpelled_ofText (source : Text) : Grammar.WellSpelled (.ofText source) := by
  intro i hword herror
  have hi : i < (ofText source).lastIndex := lt_lastIndex_of_kind herror nofun
  obtain ⟨s, first, more, -, hkind, htext, -⟩ := exists_front hi
  rw [htext, Text.eqIgnoringCase, beq_iff_eq] at hword
  obtain ⟨hfirst, htail⟩ := List.cons.inj hword
  have hrest : more.head? ≠ some '\'' := by
    intro hquote
    obtain ⟨rest, rfl⟩ := List.head?_eq_some_iff.1 hquote
    cases hn : (Lexeme.front s first ('\'' :: rest)).2 with
    | zero => rw [hn] at htail; contradiction
    | succ n => rw [hn] at htail; exact absurd (List.cons.inj htail).1 (by decide)
  rw [front_of_n (mem_of_toLower_n hfirst) hrest] at hkind
  exact ofWord_ne_error _ (hkind.trans herror)

end TokenStream

namespace Tree

open Grammar (Item)

variable {ts : TokenStream} {t : Tree} {kind : NodeKind} {id pos past count depth : Nat}
  {ids : List Nat} {nodes : List Node} {items : List Item}

/-- Whether a node may be the first child of a node of the given kind. -/
def mayComeFirst (t : Tree) (kind : NodeKind) (child : Nat) : Bool :=
  match t.kind child with
  | .leaf _ => Grammar.mayOpen kind (t.tokenKind child)
  | .comment => false
  | k => Grammar.mayLead kind k

/-- Whether a node is a branch of a `CASE`. -/
def isBranch (t : Tree) (id : Nat) : Bool :=
  t.kind id == .whenBranch || t.kind id == .elseBranch

/-- A child that is a leaf or a comment if another one is a leaf. -/
def MayFollow (t : Tree) (child later : Nat) : Prop :=
  ∀ role, t.kind child = .leaf role → (t.kind later).isPiece = true

/--
A node starts with a child that may come first, and ends with its last child. Of the further children of a
`CASE` or a declaration, no other node stands behind a leaf; and where nothing is wrong, a branch `WHEN` has a
`THEN`, and a `CASE` statement with branches has its `END` on the level outside it.
-/
structure Framed (t : Tree) (id : Nat) : Prop where
  first : (t.children id).head?.any (t.mayComeFirst (t.kind id)) = true
  last : ∃ child, (t.children id).getLast? = some child ∧ t.kind child ≠ .comment
    ∧ (t.node child).past = (t.node id).past
  order : Grammar.endsInLeaves (t.kind id) = true → (t.children id).tail.Pairwise t.MayFollow
  answered : t.kind id = .whenBranch → t.errors.size = 0 →
    ∃ child ∈ t.children id, t.isLeafOf child (.keyword .THEN) = true
  closed : t.kind id = .caseStatement → t.errors.size = 0 → (∃ child ∈ t.children id, t.isBranch child = true) →
    Grammar.EndsCase t.tokens (t.tokens.significantFrom (t.node id).first)
      (t.tokens.significantFrom (t.node id).past)

/-- The first of some nodes that is no comment. -/
def firstPlain? (t : Tree) (ids : List Nat) : Option Nat :=
  ids.find? fun child => t.kind child != .comment

/-- A node of the given kind, with `depth` groups around its children, may have them. -/
inductive Formed (t : Tree) : NodeKind → Nat → List Nat → Prop where
  | nil (kind : NodeKind) (depth : Nat) :
    Formed t kind depth []
  | comment {kind : NodeKind} {depth child i : Nat} {ids : List Nat} :
    t.kind child = .comment →
    HoldsToken t.tokens (t.node child) i →
    Formed t kind depth ids →
    Formed t kind depth (child :: ids)
  | leaf {kind : NodeKind} {depth child i : Nat} {role : LeafRole} {ids : List Nat} :
    t.kind child = .leaf role →
    HoldsToken t.tokens (t.node child) i →
    Grammar.mayTake kind role (t.tokens.kind i) = true →
    Formed t kind depth ids →
    Formed t kind depth (child :: ids)
  | node {kind : NodeKind} {depth child : Nat} {ids : List Nat} :
    Item.isConstruct (t.kind child) = true →
    Grammar.mayHold kind (t.kind child) = true →
    (Grammar.isGroup (t.kind child) = true → depth < Grammar.maxNesting) →
    t.Framed child →
    Formed t (t.kind child) (depth + (Grammar.isGroup (t.kind child)).toNat) (t.children child) →
    Formed t kind depth ids →
    Formed t kind depth (child :: ids)
  /-- A loop may have an empty query, which `LOOP` follows unless it is missed. -/
  | query {depth child : Nat} {ids : List Nat} :
    t.kind child = .statement →
    t.children child = [] →
    (t.errors.size = 0 → (t.firstPlain? ids).any (t.isLeafOf · (.keyword .LOOP)) = true) →
    Formed t .loopStatement depth ids →
    Formed t .loopStatement depth (child :: ids)
  | reject {kind : NodeKind} {depth child index : Nat} {ids : List Nat} :
    t.kind child = .error index →
    Grammar.mayHold kind (.error 0) = true →
    0 < t.errors.size →
    Formed t (.error index) depth (t.children child) →
    Formed t kind depth ids →
    Formed t kind depth (child :: ids)

lemma holdsToken_comment {child i : Nat} (h : t.nodes[child]? = some ⟨.comment, i, i + 1, []⟩)
    (hlt : i < t.tokens.lastIndex) (hcomment : (t.tokens.kind i).isComment = true) :
    t.kind child = .comment ∧ HoldsToken t.tokens (t.node child) i := by
  rw [kind, node_eq_of_holds h]
  exact ⟨rfl, rfl, rfl, hlt, fun _ => hcomment, by simp⟩

lemma holdsToken_leaf {child i : Nat} {role : LeafRole}
    (h : t.nodes[child]? = some ⟨.leaf role, i, i + 1, []⟩) (hlt : i < t.tokens.lastIndex)
    (htrivia : (t.tokens.kind i).isTrivia = false) :
    t.kind child = .leaf role ∧ HoldsToken t.tokens (t.node child) i := by
  rw [kind, node_eq_of_holds h]
  exact ⟨rfl, rfl, rfl, hlt, by simp, fun _ _ => htrivia⟩

lemma kind_eq_of_holds {n : Node} (h : t.nodes[id]? = some n) : t.kind id = n.kind := by
  rw [kind, node_eq_of_holds h]

/-! ### Comments -/

namespace Remarks

variable {remarks : List Nat} {before : List Node}

/-- Trivia are read up to a token that is none. -/
lemma isTrivia (h : Remarks ts id pos remarks before past) : (ts.kind past).isTrivia = false := by
  induction h with
  | nil hkind => exact hkind
  | blank _ _ ih | comment _ _ _ ih => exact ih

/-- Where no trivia stand none are read. -/
lemma eq_nil (h : Remarks ts id pos remarks before past) (hpos : (ts.kind pos).isTrivia = false) :
    remarks = [] ∧ before = [] ∧ past = pos := by
  cases h with
  | nil => exact ⟨rfl, rfl, rfl⟩
  | blank hblank => simp [TokenKind.isTrivia, hblank] at hpos
  | comment _ hcomment => simp [TokenKind.isTrivia, hcomment] at hpos

/-- The significant tokens stay. -/
lemma significantFrom (h : Remarks ts id pos remarks before past) :
    ts.significantFrom past = ts.significantFrom pos := by
  have hskip {pos : Nat} (htrivia : (ts.kind pos).isTrivia = true) :
      ts.significantFrom (pos + 1) = ts.significantFrom pos := by
    rcases Nat.lt_or_ge pos ts.lastIndex with hlt | hge
    · rw [TokenStream.significantFrom_of_lt hlt, if_pos htrivia]
    · rw [TokenStream.significantFrom_eq_nil hge,
        TokenStream.significantFrom_eq_nil (Nat.le_succ_of_le hge)]
  induction h with
  | nil => rfl
  | blank hblank _ ih => exact ih.trans (hskip (by simp [TokenKind.isTrivia, hblank]))
  | comment _ hcomment _ ih => exact ih.trans (hskip (by simp [TokenKind.isTrivia, hcomment]))

lemma length_eq (h : Remarks ts id pos remarks before past) : remarks.length = before.length := by
  induction h with
  | nil => rfl
  | blank _ _ ih => exact ih
  | comment _ _ _ ih => simp [ih]

/-- Each of the nodes that came is a comment. -/
lemma holdsToken (h : Remarks t.tokens id pos remarks before past) (hholds : Holds t.nodes id before) :
    ∀ child ∈ remarks, t.kind child = .comment ∧ ∃ i, HoldsToken t.tokens (t.node child) i := by
  induction h with
  | nil => simp
  | blank _ _ ih => exact ih hholds
  | comment hlt hcomment _ ih =>
    rw [holds_cons] at hholds
    intro child hchild
    rcases List.mem_cons.1 hchild with rfl | hchild
    · exact (holdsToken_comment hholds.1 hlt hcomment).imp_right fun htoken => ⟨_, htoken⟩
    · exact ih hholds.2 child hchild

/-- Comments may stand before any child. -/
lemma formed (h : Remarks t.tokens id pos remarks before past) (hholds : Holds t.nodes id before)
    (hids : Formed t kind depth ids) : Formed t kind depth (remarks ++ ids) := by
  have hremarks := h.holdsToken hholds
  clear h hholds
  induction remarks with
  | nil => exact hids
  | cons child remarks ih =>
    obtain ⟨hkind, i, hi⟩ := hremarks child (by simp)
    exact .comment hkind hi (ih fun c hc => hremarks c (by simp [hc]))

lemma firstPlain? (h : Remarks t.tokens id pos remarks before past) (hholds : Holds t.nodes id before)
    (ids : List Nat) : t.firstPlain? (remarks ++ ids) = t.firstPlain? ids := by
  rw [Tree.firstPlain?, List.find?_append, List.find?_eq_none.2, Option.none_or]
  · rfl
  · intro child hchild
    simp [(h.holdsToken hholds child hchild).1]

end Remarks

/-! ### Children -/

lemma ne_comment_of_isConstruct {kind : NodeKind} (h : Item.isConstruct kind = true) : kind ≠ .comment := by
  rintro rfl
  exact absurd h (by simp [Item.isConstruct])

namespace Formed

lemma append {ids' : List Nat} (h : Formed t kind depth ids) (h' : Formed t kind depth ids') :
    Formed t kind depth (ids ++ ids') := by
  induction h with
  | nil => exact h'
  | comment hkind htoken _ ih => exact .comment hkind htoken (ih h')
  | leaf hkind htoken htake _ ih => exact .leaf hkind htoken htake (ih h')
  | node hkind hhold hgroup hframed hchildren _ _ ih =>
    exact .node hkind hhold hgroup hframed hchildren (ih h')
  | @query depth child ids hkind hchildren hloop _ ih =>
    refine .query hkind hchildren (fun herrors => ?_) (ih h')
    have hloop := hloop herrors
    change (t.firstPlain? (ids ++ ids')).any _ = true
    rw [firstPlain?] at hloop ⊢
    rw [List.find?_append]
    cases hfind : ids.find? fun child => t.kind child != .comment with
    | none => simp [hfind] at hloop
    | some child => simpa [hfind] using hloop
  | reject hkind hhold herrors hchildren _ _ ih => exact .reject hkind hhold herrors hchildren (ih h')

end Formed

namespace Mirrors

/-- The last of the nodes that came ends where reading does. -/
lemma last (h : Mirrors t.tokens id pos items ids nodes count past) (hholds : Holds t.nodes id nodes) :
    (ids = [] ∧ past = pos) ∨ ∃ child, ids.getLast? = some child ∧ t.kind child ≠ .comment
      ∧ (t.node child).past = past := by
  -- A node is the last one if nothing comes after it.
  have hlast {child mid : Nat} {remarks ids : List Nat} (hkind : t.kind child ≠ .comment)
      (hpast : (t.node child).past = mid)
      (hids : (ids = [] ∧ past = mid) ∨ ∃ child, ids.getLast? = some child ∧ t.kind child ≠ .comment
        ∧ (t.node child).past = past) :
      ∃ child', (remarks ++ child :: ids).getLast? = some child' ∧ t.kind child' ≠ .comment
        ∧ (t.node child').past = past := by
    rcases hids with ⟨rfl, rfl⟩ | ⟨child', hchild', hrest⟩
    · exact ⟨child, by simp, hkind, hpast⟩
    · refine ⟨child', ?_, hrest⟩
      rw [List.getLast?_append_cons, List.getLast?_cons, hchild']
      rfl
  induction h with
  | nil => exact .inl ⟨rfl, rfl⟩
  | leaf role _ _ _ ih =>
    rw [holds_append, holds_cons] at hholds
    have hnode := node_eq_of_holds hholds.2.1
    exact .inr (hlast (by simp [kind, hnode]) (by rw [hnode]) (ih hholds.2.2 hlast))
  | complain _ _ ih => exact ih hholds hlast
  | node hkind _ _ _ _ ih =>
    rw [holds_append, holds_cons, holds_append] at hholds
    have hnode := node_eq_of_holds hholds.2.1
    refine .inr (hlast ?_ (by rw [hnode]) (ih hholds.2.2.2 hlast))
    rw [kind, hnode]
    exact ne_comment_of_isConstruct hkind
  | reject _ _ _ _ _ _ ih =>
    rw [holds_append, holds_cons, holds_append] at hholds
    have hnode := node_eq_of_holds hholds.2.1
    exact .inr (hlast (by simp [kind, hnode]) (by rw [hnode]) (ih hholds.2.2.2 hlast))

/-- What comes first for an item that may be the first one of a node. -/
lemma first {x : Item} (h : Mirrors t.tokens id pos (x :: items) ids nodes count past)
    (hholds : Holds t.nodes id nodes) (hpos : (t.tokens.kind pos).isTrivia = false)
    (hleads : Grammar.leads kind (Grammar.headKind t.tokens (t.tokens.significantFrom pos)) x = true) :
    ids.head?.any (t.mayComeFirst kind) = true := by
  cases h with
  | leaf role hremarks hlt _ =>
    obtain ⟨rfl, rfl, rfl⟩ := hremarks.eq_nil hpos
    rw [holds_append, holds_cons] at hholds
    obtain ⟨hkind, htoken⟩ := holdsToken_leaf hholds.2.1 hlt hpos
    rw [TokenStream.significantFrom_of_lt hlt, hpos] at hleads
    simp only [List.nil_append, List.head?_cons, Option.any_some, mayComeFirst, hkind, tokenKind,
      htoken.firstToken_eq]
    exact hleads
  | complain => simp [Grammar.leads] at hleads
  | @node _ _ _ _ _ _ _ _ _ _ _ _ _ _ _ k hk hremarks _ _ =>
    obtain ⟨rfl, rfl, rfl⟩ := hremarks.eq_nil hpos
    rw [holds_append, holds_cons] at hholds
    simp only [List.nil_append, List.head?_cons, Option.any_some, mayComeFirst,
      kind_eq_of_holds hholds.2.1]
    cases k <;> first | exact hleads | simp [Item.isConstruct] at hk
  | reject _ _ hremarks _ _ =>
    obtain ⟨rfl, rfl, rfl⟩ := hremarks.eq_nil hpos
    rw [holds_append, holds_cons] at hholds
    simp only [List.nil_append, List.head?_cons, Option.any_some, mayComeFirst,
      kind_eq_of_holds hholds.2.1]
    cases kind <;> exact hleads

/-- Only leaves and comments come of items that are no nodes. -/
lemma isPiece (h : Mirrors t.tokens id pos items ids nodes count past)
    (hholds : Holds t.nodes id nodes) (hitems : ∀ x ∈ items, x.isNode = false) :
    ∀ child ∈ ids, (t.kind child).isPiece = true := by
  induction h with
  | nil => nofun
  | leaf role hremarks _ _ ih =>
    rw [holds_append, holds_cons] at hholds
    intro c hc
    rcases List.mem_append.1 hc with hc | hc
    · rw [(hremarks.holdsToken hholds.1 c hc).1]
      rfl
    · rcases List.mem_cons.1 hc with rfl | hc
      · rw [kind_eq_of_holds hholds.2.1]
        rfl
      · exact ih hholds.2.2 (fun x hx => hitems x (List.mem_cons_of_mem _ hx)) c hc
  | complain _ _ ih => exact ih hholds (fun x hx => hitems x (List.mem_cons_of_mem _ hx))
  | node | reject => exact absurd (hitems _ List.mem_cons_self) nofun

/-- Children come in the order of the items that they come of. -/
lemma pairwise (h : Mirrors t.tokens id pos items ids nodes count past) (hholds : Holds t.nodes id nodes)
    (horder : items.Pairwise fun x y => x.isLeaf = true → y.isNode = false) :
    ids.Pairwise t.MayFollow := by
  have hcons {child : Nat} {remarks ids : List Nat} (hremarks : ∀ c ∈ remarks, t.kind c = .comment)
      (hchild : ∀ later ∈ ids, t.MayFollow child later) (hids : ids.Pairwise t.MayFollow) :
      (remarks ++ child :: ids).Pairwise t.MayFollow := by
    have hremark {c later : Nat} (hc : c ∈ remarks) : t.MayFollow c later := by
      intro role hrole
      rw [hremarks c hc] at hrole
      exact absurd hrole nofun
    apply List.pairwise_append.2
    refine ⟨List.pairwise_of_forall_sublist fun hsub => hremark (hsub.subset List.mem_cons_self),
      List.pairwise_cons.2 ⟨hchild, hids⟩, fun c hc later _ => hremark hc⟩
  -- Only a leaf has a say in what follows it.
  have hnode {child later : Nat} {k : NodeKind} (hkind : t.kind child = k) (hk : ∀ role, k ≠ .leaf role) :
      t.MayFollow child later := fun role hrole => absurd (hkind.symm.trans hrole) (hk role)
  induction h with
  | nil => exact .nil
  | leaf role hremarks _ hitems ih =>
    rw [holds_append, holds_cons] at hholds
    obtain ⟨hfirst, horder⟩ := List.pairwise_cons.1 horder
    refine hcons (fun c hc => (hremarks.holdsToken hholds.1 c hc).1) (fun later hlater _ _ => ?_)
      (ih hholds.2.2 horder)
    exact hitems.isPiece hholds.2.2 (fun x hx => hfirst x hx rfl) later hlater
  | complain _ _ ih => exact ih hholds (List.pairwise_cons.1 horder).2
  | node hk hremarks _ _ _ ih =>
    rw [holds_append, holds_cons, holds_append] at hholds
    refine hcons (fun c hc => (hremarks.holdsToken hholds.1 c hc).1)
      (fun later _ => hnode (kind_eq_of_holds hholds.2.1) ?_)
      (ih hholds.2.2.2 (List.pairwise_cons.1 horder).2)
    rintro role rfl
    exact absurd hk nofun
  | reject index _ hremarks _ _ _ ih =>
    rw [holds_append, holds_cons, holds_append] at hholds
    refine hcons (fun c hc => (hremarks.holdsToken hholds.1 c hc).1)
      (fun later _ => hnode (kind_eq_of_holds hholds.2.1) nofun)
      (ih hholds.2.2.2 (List.pairwise_cons.1 horder).2)

/-- The children behind the first one come of the items behind the first one. -/
lemma pairwise_tail {x : Item} (h : Mirrors t.tokens id pos (x :: items) ids nodes count past)
    (hholds : Holds t.nodes id nodes) (hpos : (t.tokens.kind pos).isTrivia = false)
    (hread : Grammar.isRead [x] = true)
    (horder : items.Pairwise fun x y => x.isLeaf = true → y.isNode = false) :
    ids.tail.Pairwise t.MayFollow := by
  cases h with
  | leaf role hremarks _ hitems =>
    obtain ⟨rfl, rfl, rfl⟩ := hremarks.eq_nil hpos
    rw [holds_append, holds_cons] at hholds
    exact hitems.pairwise hholds.2.2 horder
  | complain => exact absurd hread nofun
  | node _ hremarks _ hitems =>
    obtain ⟨rfl, rfl, rfl⟩ := hremarks.eq_nil hpos
    rw [holds_append, holds_cons, holds_append] at hholds
    exact hitems.pairwise hholds.2.2.2 horder
  | reject _ _ hremarks _ hitems =>
    obtain ⟨rfl, rfl, rfl⟩ := hremarks.eq_nil hpos
    rw [holds_append, holds_cons, holds_append] at hholds
    exact hitems.pairwise hholds.2.2.2 horder

/-- As many tokens are read as there are leaves. -/
lemma significantFrom (h : Mirrors ts id pos items ids nodes count past) :
    ts.significantFrom past = (ts.significantFrom pos).drop (Item.leavesOf items) := by
  induction h with
  | nil => rfl
  | leaf role hremarks hlt _ ih =>
    rw [ih, ← hremarks.significantFrom, TokenStream.significantFrom_of_lt hlt, hremarks.isTrivia,
      Item.leavesOf, Item.leaves, Nat.add_comm 1]
    rfl
  | complain cause _ ih => rw [ih, Item.leavesOf, Item.leaves, Nat.zero_add]
  | node _ hremarks _ _ ih₁ ih₂ =>
    rw [ih₂, ih₁, hremarks.significantFrom, List.drop_drop, Item.leavesOf]
    rfl
  | reject index cause hremarks _ _ ih₁ ih₂ =>
    rw [ih₂, ih₁, hremarks.significantFrom]
    simp [Item.leavesOf, Item.leaves]

/-- Where a leaf of the wanted kind is found, a child is one, unless there is an error. -/
lemma exists_isLeafOf {wanted : TokenKind} (h : Mirrors t.tokens id pos items ids nodes count past)
    (hholds : Holds t.nodes id nodes)
    (hmeets : Grammar.meets t.tokens wanted (t.tokens.significantFrom pos) items) (hcount : count = 0) :
    ∃ child ∈ ids, t.isLeafOf child wanted = true := by
  have hcons {remarks ids : List Nat} {child : Nat} (hids : ∃ c ∈ ids, t.isLeafOf c wanted = true) :
      ∃ c ∈ remarks ++ child :: ids, t.isLeafOf c wanted = true := by
    obtain ⟨c, hc, hleaf⟩ := hids
    exact ⟨c, List.mem_append_right _ (List.mem_cons_of_mem _ hc), hleaf⟩
  induction h with
  | nil => exact hmeets.elim
  | @leaf id pos mid _ _ _ _ before _ _ role hremarks hlt _ ih =>
    rw [holds_append, holds_cons] at hholds
    rw [← hremarks.significantFrom, TokenStream.significantFrom_of_lt hlt, hremarks.isTrivia] at hmeets
    cases hmeets with
    | inl hfound =>
      obtain ⟨hkind, htoken⟩ := holdsToken_leaf hholds.2.1 hlt hremarks.isTrivia
      refine ⟨id + before.length, by simp, ?_⟩
      rw [isLeafOf, hkind, tokenKind, htoken.firstToken_eq]
      exact beq_iff_eq.2 hfound
    | inr hrest => exact hcons (ih hholds.2.2 hrest hcount)
  | complain => omega
  | node _ hremarks hinner _ _ ih =>
    rw [holds_append, holds_cons, holds_append] at hholds
    rw [← hremarks.significantFrom] at hmeets
    exact hcons (ih hholds.2.2.2 (hinner.significantFrom ▸ hmeets) (by omega))
  | reject => omega

/-- What is complained about in items is recorded. -/
lemma count_pos (h : Mirrors ts id pos items ids nodes count past) (hcomplains : Grammar.complains items) :
    0 < count := by
  obtain ⟨cause, hcause⟩ := hcomplains
  induction h with
  | nil => exact absurd hcause List.not_mem_nil
  | leaf role _ _ _ ih => exact ih ((List.mem_append.1 hcause).resolve_left (by simp [Item.events]))
  | complain | reject => exact Nat.succ_pos _
  | node _ _ _ _ ih₁ ih₂ =>
    rcases List.mem_append.1 hcause with hinner | hcause
    · exact Nat.add_pos_left (ih₁ (by simpa [Item.events] using hinner)) _
    · exact Nat.add_pos_right _ (ih₂ hcause)

/-- A child that is a branch comes of an item that is one. -/
lemma exists_isBranch (h : Mirrors t.tokens id pos items ids nodes count past) (hholds : Holds t.nodes id nodes)
    {child : Nat} (hchild : child ∈ ids) (hbranch : t.isBranch child = true) :
    ∃ x ∈ items, x.isBranch = true := by
  have hcons {x : Item} {items : List Item} (hitems : ∃ y ∈ items, y.isBranch = true) :
      ∃ y ∈ x :: items, y.isBranch = true := by
    obtain ⟨y, hy, hbranch⟩ := hitems
    exact ⟨y, List.mem_cons_of_mem x hy, hbranch⟩
  -- The comments in front of a node are none.
  have hcases {remarks ids : List Nat} {before : List Node} {id pos mid next : Nat}
      (hremarks : Remarks t.tokens id pos remarks before mid) (hholds : Holds t.nodes id before)
      (hchild : child ∈ remarks ++ next :: ids) : child = next ∨ child ∈ ids := by
    refine List.mem_cons.1 ((List.mem_append.1 hchild).resolve_left fun hmem => ?_)
    rw [isBranch, (hremarks.holdsToken hholds child hmem).1] at hbranch
    exact absurd hbranch nofun
  induction h with
  | nil => exact absurd hchild nofun
  | leaf role hremarks _ _ ih =>
    rw [holds_append, holds_cons] at hholds
    rcases hcases hremarks hholds.1 hchild with rfl | hchild
    · rw [isBranch, kind_eq_of_holds hholds.2.1] at hbranch
      exact absurd hbranch nofun
    · exact hcons (ih hholds.2.2 hchild)
  | complain _ _ ih => exact hcons (ih hholds hchild)
  | node _ hremarks _ _ _ ih =>
    rw [holds_append, holds_cons, holds_append] at hholds
    rcases hcases hremarks hholds.1 hchild with rfl | hchild
    · rw [isBranch, kind_eq_of_holds hholds.2.1] at hbranch
      exact ⟨_, List.mem_cons_self, hbranch⟩
    · exact hcons (ih hholds.2.2.2 hchild)
  | reject _ _ hremarks _ _ _ ih =>
    rw [holds_append, holds_cons, holds_append] at hholds
    rcases hcases hremarks hholds.1 hchild with rfl | hchild
    · rw [isBranch, kind_eq_of_holds hholds.2.1] at hbranch
      exact absurd hbranch nofun
    · exact hcons (ih hholds.2.2.2 hchild)

/-- Error nodes may have any leaves. -/
lemma leaves {roles : List LeafRole}
    (h : Mirrors t.tokens id pos (roles.map .leaf) ids nodes count past) (depth index : Nat)
    (hholds : Holds t.nodes id nodes) : Formed t (.error index) depth ids := by
  induction roles generalizing id pos ids nodes count with
  | nil =>
    cases h
    exact .nil _ _
  | cons role roles ih =>
    cases h with
    | leaf _ hremarks hlt hrest =>
      rw [holds_append, holds_cons] at hholds
      obtain ⟨hkind, htoken⟩ := holdsToken_leaf hholds.2.1 hlt hremarks.isTrivia
      exact hremarks.formed hholds.1
        (.leaf hkind htoken (by simp [Grammar.mayTake, NodeKind.isError]) (ih hrest hholds.2.2))

/-- Where `LOOP` comes next or is missed, a leaf of it does unless there is an error. -/
lemma atLoop (h : Mirrors t.tokens id pos items ids nodes count past) (hholds : Holds t.nodes id nodes)
    (hloop : Grammar.atLoop t.tokens (t.tokens.significantFrom pos) items) (hcount : count = 0) :
    (t.firstPlain? ids).any (t.isLeafOf · (.keyword .LOOP)) = true := by
  cases h with
  | nil | node | reject => exact hloop.elim
  | complain => omega
  | leaf role hremarks hlt _ =>
    rw [holds_append, holds_cons] at hholds
    obtain ⟨hkind, htoken⟩ := holdsToken_leaf hholds.2.1 hlt hremarks.isTrivia
    rw [hremarks.firstPlain? hholds.1, firstPlain?, List.find?_cons_of_pos (by simp [hkind])]
    have hloop : Grammar.headKind t.tokens (t.tokens.significantFrom pos) = .keyword .LOOP := hloop
    rw [← hremarks.significantFrom, TokenStream.significantFrom_of_lt hlt, hremarks.isTrivia] at hloop
    simp only [Option.any_some, isLeafOf, hkind, tokenKind, htoken.firstToken_eq, beq_iff_eq]
    exact hloop

/-- Nodes that mirror a shaped forest are formed as it is. -/
lemma formed (h : Mirrors t.tokens id pos items ids nodes count past) {toks rest : List Nat}
    (hshaped : Grammar.Shaped t.tokens kind depth toks items rest)
    (htoks : toks = t.tokens.significantFrom pos) (hholds : Holds t.nodes id nodes)
    (hcount : count ≤ t.errors.size) :
    Formed t kind depth ids ∧ rest = t.tokens.significantFrom past := by
  induction h generalizing kind depth toks rest with
  | nil =>
    cases hshaped
    exact ⟨.nil _ _, htoks⟩
  | leaf role hremarks hlt _ ih =>
    rw [holds_append, holds_cons] at hholds
    rw [← hremarks.significantFrom, TokenStream.significantFrom_of_lt hlt, hremarks.isTrivia] at htoks
    cases hshaped with
    | leaf htake hshaped =>
      obtain ⟨rfl, htoks⟩ := List.cons.inj htoks
      obtain ⟨hids, hrest⟩ := ih hshaped htoks hholds.2.2 hcount
      obtain ⟨hkind, htoken⟩ := holdsToken_leaf hholds.2.1 hlt hremarks.isTrivia
      exact ⟨hremarks.formed hholds.1 (.leaf hkind htoken htake hids), hrest⟩
  | complain cause _ ih =>
    cases hshaped with
    | complain _ hshaped => exact ih hshaped htoks hholds (by omega)
  | @node _ _ mid stop _ _ _ _ inner _ _ within _ _ _ k hk hremarks hinner hitems ih₁ ih₂ =>
    rw [holds_append, holds_cons, holds_append] at hholds
    rw [← hremarks.significantFrom] at htoks
    have hnode := node_eq_of_holds hholds.2.1
    have hkind := kind_eq_of_holds hholds.2.1
    cases hshaped with
    | node hhold hgroup hleads horder hsettled hys hxs =>
      obtain ⟨hchildren, hmid⟩ := ih₁ hys htoks hholds.2.2.1 (by omega)
      obtain ⟨hids, hrest⟩ := ih₂ hxs hmid hholds.2.2.2 (by omega)
      refine ⟨hremarks.formed hholds.1 (.node (hkind ▸ hk) (hkind ▸ hhold) (hkind ▸ hgroup)
        ⟨?_, ?_, ?_, ?_, ?_⟩ ?_ hids), hrest⟩
      · rw [children, hnode, hkind]
        exact hinner.first hholds.2.2.1 hremarks.isTrivia (htoks ▸ hleads)
      · rw [children, hnode]
        refine (hinner.last hholds.2.2.1).resolve_left ?_
        rintro ⟨rfl, -⟩
        simpa using hinner.first hholds.2.2.1 hremarks.isTrivia (htoks ▸ hleads)
      · intro hends
        rw [hkind] at hends
        rw [children, hnode]
        exact hinner.pairwise_tail hholds.2.2.1 hremarks.isTrivia (Grammar.isRead_of_leads hleads)
          (horder hends)
      · intro hwhen herrors
        rw [hkind] at hwhen
        rw [children, hnode]
        exact hinner.exists_isLeafOf hholds.2.2.1 (htoks ▸ hsettled.answered hwhen) (by omega)
      · rintro hcase herrors ⟨child, hchild, hbranch⟩
        rw [hkind] at hcase
        rw [children, hnode] at hchild
        rw [hnode, ← htoks, ← hmid]
        refine (hsettled.closed hcase (hinner.exists_isBranch hholds.2.2.1 hchild hbranch)).resolve_left ?_
        intro hcomplains
        have := hinner.count_pos hcomplains
        omega
      · rw [children, hkind, hnode]
        exact hchildren
    | query hloop hxs =>
      cases hinner
      obtain ⟨hids, hrest⟩ := ih₂ hxs htoks hholds.2.2.2 (by omega)
      refine ⟨hremarks.formed hholds.1 (.query hkind (by rw [children, hnode]) (fun herrors => ?_) hids),
        hrest⟩
      exact hitems.atLoop hholds.2.2.2 (htoks ▸ hloop) (by omega)
    | reject => simp [Item.isConstruct] at hk
  | reject index cause hremarks hinner _ _ ih =>
    rw [holds_append, holds_cons, holds_append] at hholds
    rw [← hremarks.significantFrom] at htoks
    have hdrop := hinner.significantFrom
    rw [Item.leavesOf_map_leaf] at hdrop
    generalize hread : Item.node (.error 0) _ = x at hshaped
    cases hshaped with
    | node _ _ hleads =>
      cases hread
      simp [Grammar.leads] at hleads
    | reject _ hhold hlength _ hxs =>
      have hroles := (List.map_injective_iff.2 fun _ _ => Item.leaf.inj)
        (List.cons.inj (Item.node.inj hread).2).2
      obtain ⟨hids, hrest⟩ := ih hxs (by rw [hdrop, ← htoks, hroles, hlength, List.drop_left])
        hholds.2.2.2 (by omega)
      refine ⟨hremarks.formed hholds.1 (.reject (kind_eq_of_holds hholds.2.1) hhold (by omega) ?_ hids),
        hrest⟩
      rw [children, node_eq_of_holds hholds.2.1]
      exact hinner.leaves depth index hholds.2.2.1
    | query | leaf | complain => cases hread

end Mirrors

/-! ### The tree of a source -/

/-- The children of the root of a tree are those of a shaped forest. -/
theorem formed_of_parse {source : Text} (h : parse source = .ok t) :
    Formed t .root 0 (t.children t.root) := by
  obtain ⟨htokens, items, hforest, ids, nodes, past, remarks, before, stop, hmirrors, hremarks, hroot,
    hnodes⟩ := reflects_of_parse h
  have hc := TokenStream.closed_ofText source
  obtain ⟨items', hforest', hshaped⟩ :=
    Grammar.shaped_forest hc (TokenStream.wellSpelled_ofText source)
  obtain rfl : items = items' := by
    rw [hforest'] at hforest
    simpa using hforest.symm
  have harena : t.nodes = (⟨.root, 0, t.tokens.size, ids ++ remarks⟩ :: (nodes ++ before)).toArray := by
    rw [← hnodes]
  obtain ⟨hnode, hholds⟩ := holds_of_arena harena
  rw [holds_append] at hholds
  rw [← htokens] at hshaped
  obtain ⟨hids, -⟩ := hmirrors.formed hshaped rfl hholds.1 (Nat.le_refl _)
  rw [hroot, children, hnode]
  simpa using hids.append (by simpa using hremarks.formed hholds.2 (.nil _ _))

/-- What a child of a formed node is. -/
inductive IsChild (t : Tree) (kind : NodeKind) (depth : Nat) (child : Nat) : Prop where
  | piece {i : Nat} :
    HoldsToken t.tokens (t.node child) i →
    (∀ role, t.kind child = .leaf role → Grammar.mayTake kind role (t.tokens.kind i) = true) →
    IsChild t kind depth child
  | node :
    Item.isConstruct (t.kind child) = true →
    Grammar.mayHold kind (t.kind child) = true →
    (Grammar.isGroup (t.kind child) = true → depth < Grammar.maxNesting) →
    (t.Framed child ∨ kind = .loopStatement ∧ t.kind child = .statement ∧ t.children child = []) →
    Formed t (t.kind child) (depth + (Grammar.isGroup (t.kind child)).toNat) (t.children child) →
    IsChild t kind depth child
  | reject {index : Nat} :
    t.kind child = .error index →
    Grammar.mayHold kind (.error 0) = true →
    0 < t.errors.size →
    Formed t (.error index) depth (t.children child) →
    IsChild t kind depth child

lemma Formed.mem (h : Formed t kind depth ids) {child : Nat} (hchild : child ∈ ids) :
    IsChild t kind depth child := by
  induction h with
  | nil => simp at hchild
  | comment hkind htoken _ ih =>
    rcases List.mem_cons.1 hchild with rfl | hchild
    · exact .piece htoken fun role hrole => by simp [hrole] at hkind
    · exact ih hchild
  | leaf hkind htoken htake _ ih =>
    rcases List.mem_cons.1 hchild with rfl | hchild
    · refine .piece htoken fun role hrole => ?_
      obtain rfl := NodeKind.leaf.inj (hrole.symm.trans hkind)
      exact htake
    · exact ih hchild
  | node hkind hhold hgroup hframed hchildren _ _ ih =>
    rcases List.mem_cons.1 hchild with rfl | hchild
    · exact .node hkind hhold hgroup (.inl hframed) hchildren
    · exact ih hchild
  | query hkind hchildren _ _ ih =>
    rcases List.mem_cons.1 hchild with rfl | hchild
    · refine .node (by rw [hkind]; rfl) (by rw [hkind]; rfl) (by simp [hkind, Grammar.isGroup])
        (.inr ⟨rfl, hkind, hchildren⟩) ?_
      rw [hchildren]
      exact .nil _ _
    · exact ih hchild
  | reject hkind hhold herrors hchildren _ _ ih =>
    rcases List.mem_cons.1 hchild with rfl | hchild
    · exact .reject hkind hhold herrors hchildren
    · exact ih hchild

/-- The children of a child are formed as well. -/
lemma IsChild.formed {child : Nat} (h : IsChild t kind depth child) :
    ∃ depth', Formed t (t.kind child) depth' (t.children child) := by
  cases h with
  | piece htoken _ =>
    rw [children, htoken.node_eq]
    exact ⟨0, .nil _ _⟩
  | node _ _ _ _ hchildren => exact ⟨_, hchildren⟩
  | reject hkind _ _ hchildren => exact ⟨_, hkind ▸ hchildren⟩

/-- What is below a formed node is formed. -/
lemma formed_of_mem_preorderTo {fuel : Nat} (h : ∃ depth, Formed t (t.kind id) depth (t.children id))
    {child : Nat} (hchild : child ∈ t.preorderTo fuel id) :
    ∃ depth, Formed t (t.kind child) depth (t.children child) := by
  induction fuel generalizing id with
  | zero => simp [preorderTo] at hchild
  | succ fuel ih =>
    rcases List.mem_cons.1 hchild with rfl | hchild
    · exact h
    · obtain ⟨mid, hmid, hchild⟩ := List.mem_flatMap.1 hchild
      obtain ⟨depth, hformed⟩ := h
      exact ih (hformed.mem hmid).formed hchild

/-- What is below a node is a child of something below it. -/
lemma exists_parent_of_mem_preorderTo {fuel child : Nat} (hchild : child ∈ t.preorderTo fuel id) :
    child = id ∨ ∃ parent ∈ t.preorderTo fuel id, child ∈ t.children parent := by
  induction fuel generalizing id with
  | zero => simp [preorderTo] at hchild
  | succ fuel ih =>
    rcases List.mem_cons.1 hchild with rfl | hchild
    · exact .inl rfl
    · obtain ⟨mid, hmid, hchild⟩ := List.mem_flatMap.1 hchild
      rcases ih hchild with rfl | ⟨parent, hparent, hchild⟩
      · exact .inr ⟨id, List.mem_cons_self, hmid⟩
      · exact .inr ⟨parent, List.mem_cons_of_mem _ (List.mem_flatMap.2 ⟨mid, hmid, hparent⟩), hchild⟩

/-- The children of every node of a tree are formed. -/
theorem formed_children {source : Text} (h : parse source = .ok t) (hid : id < t.size) :
    ∃ depth, Formed t (t.kind id) depth (t.children id) := by
  have harena := (isGrown_of_parse h).2.isArena
  have hmem : id ∈ t.preorder t.root := by
    rw [harena.preorder_root]
    exact List.mem_range.2 hid
  have hroot : t.kind t.root = .root := by rw [harena.root_eq, harena.kind_root]
  exact formed_of_mem_preorderTo ⟨0, hroot ▸ formed_of_parse h⟩ hmem

/-- Every node but the root is a child that its parent may have. -/
theorem exists_parent {source : Text} (h : parse source = .ok t) (hid : id < t.size) (hroot : id ≠ t.root) :
    ∃ parent depth, parent < t.size ∧ id ∈ t.children parent ∧ IsChild t (t.kind parent) depth id := by
  have harena := (isGrown_of_parse h).2.isArena
  have hmem : id ∈ t.preorder t.root := by
    rw [harena.preorder_root]
    exact List.mem_range.2 hid
  obtain ⟨parent, hparent, hchild⟩ := (exists_parent_of_mem_preorderTo hmem).resolve_left hroot
  have hlt : parent < t.size := by
    have : parent ∈ t.preorder t.root := hparent
    rwa [harena.preorder_root, List.mem_range] at this
  obtain ⟨depth, hformed⟩ := formed_children h hlt
  exact ⟨parent, depth, hlt, hchild, hformed.mem hchild⟩

/-- Constructs are framed, with the exception of the root and of queries, which may be empty. -/
theorem framed_of_parse {source : Text} (h : parse source = .ok t)
    (hconstruct : Item.isConstruct (t.kind id) = true) (hroot : t.kind id ≠ .root)
    (hstatement : t.kind id ≠ .statement) : t.Framed id := by
  have harena := (isGrown_of_parse h).2.isArena
  have hne : id ≠ t.root := harena.root_eq ▸ (harena.pos_of_kind hroot).ne'
  obtain ⟨parent, depth, -, -, hchild⟩ := exists_parent h (lt_size_of_kind hroot) hne
  cases hchild with
  | piece htoken _ =>
    have hpiece : (t.kind id).isPiece = true := htoken.piece
    rw [isPiece_of_isConstruct hconstruct] at hpiece
    exact absurd hpiece nofun
  | node _ _ _ hframed _ => exact hframed.resolve_right fun hquery => hstatement hquery.2.1
  | reject herror _ _ _ =>
    rw [herror] at hconstruct
    exact absurd hconstruct nofun

/-- Before a part of a declaration stand only parts and comments. -/
lemma part_of_before_part {source : Text} (h : parse source = .ok t) (hkind : t.kind id = .declaration)
    {before rest : List Nat} {part : Nat} (hchildren : t.children id = before ++ part :: rest)
    (hpart : (t.kind part).isPiece = false) :
    ∀ child ∈ before, t.kind child = .comment ∨ ∃ role, t.kind child = .declarationPart role := by
  intro child hchild
  have hroot : t.kind id ≠ .root := by simp [hkind]
  have hframed : t.Framed id := framed_of_parse h (by rw [hkind]; rfl) hroot (by simp [hkind])
  obtain ⟨depth, hformed⟩ := formed_children h (lt_size_of_kind hroot)
  rw [hkind] at hformed
  cases hformed.mem (hchildren ▸ List.mem_append_left _ hchild) with
  | piece htoken _ =>
    have hpiece : (t.kind child).isPiece = true := htoken.piece
    cases hchildKind : t.kind child with
    | comment => exact .inl rfl
    | leaf role =>
      obtain ⟨first, more, rfl⟩ := List.exists_cons_of_ne_nil (List.ne_nil_of_mem hchild)
      rcases List.mem_cons.1 hchild with rfl | hchild
      · have hfirst := hframed.first
        rw [hchildren, hkind] at hfirst
        simp [mayComeFirst, hchildKind, Grammar.mayOpen] at hfirst
      · -- A leaf stands behind the first child, so no part can follow it.
        have horder := hframed.order (by rw [hkind]; rfl)
        rw [hchildren] at horder
        have hfollow := (List.pairwise_append.1 horder).2.2 child hchild part List.mem_cons_self role hchildKind
        rw [hpart] at hfollow
        contradiction
    | _ => simp [hchildKind, NodeKind.isPiece] at hpiece
  | node _ hhold _ _ _ =>
    refine .inr ?_
    cases hchildKind : t.kind child with
    | declarationPart role => exact ⟨role, rfl⟩
    | _ => simp [hchildKind, Grammar.mayHold] at hhold
  | reject _ hhold => contradiction

end Tree
end SqlLayout
