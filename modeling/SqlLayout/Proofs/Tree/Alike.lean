import Mathlib.Data.List.Forall2
import SqlLayout.Proofs.Grammar.AbreastStatements
import SqlLayout.Proofs.Tree.Preorder

/-!
# Trees over alike streams

Streams that are alike have the same events, and events without errors are folded into trees of the same
shape: nodes agree in number, kind and children, and begin and end at the same words. Hence a source that
agrees in its words with one without errors has a tree without errors, and the first and last tokens of
its nodes are the same words.
-/

namespace SqlLayout
namespace Tree

open Grammar (Item)

variable {ts ts₁ ts₂ : TokenStream} {k l : Nat}

/-! ### Positions between words -/

/-- Positions in two streams right after the same words, or right before the same word. -/
def Met (ts₁ ts₂ : TokenStream) (k i j : Nat) : Prop :=
  (i = ts₁.afterWords k ∧ j = ts₂.afterWords k) ∨ (i = ts₁.wordIndex k ∧ j = ts₂.wordIndex k)

lemma nextSignificant_wordIndex (hc : ts.Closed) (k : Nat) :
    ts.nextSignificant (ts.wordIndex k) = ts.wordIndex k :=
  TokenStream.nextSignificant_of_not_isTrivia (hc.isTrivia_wordIndex k)

lemma Met.next {i j : Nat} (h : Met ts₁ ts₂ k i j) (hc₁ : ts₁.Closed) (hc₂ : ts₂.Closed) :
    ts₁.nextSignificant i = ts₁.wordIndex k ∧ ts₂.nextSignificant j = ts₂.wordIndex k := by
  obtain ⟨rfl, rfl⟩ | ⟨rfl, rfl⟩ := h
  · exact ⟨rfl, rfl⟩
  · exact ⟨nextSignificant_wordIndex hc₁ k, nextSignificant_wordIndex hc₂ k⟩

/-- Nodes of the same shape that begin at the same word and end between the same words. -/
structure LikeNode (ts₁ ts₂ : TokenStream) (n₁ n₂ : Node) : Prop where
  kind : n₁.kind = n₂.kind
  children : n₁.children = n₂.children
  range : ∃ k l, k ≤ l ∧ n₁.first = ts₁.wordIndex k ∧ n₂.first = ts₂.wordIndex k
    ∧ Met ts₁ ts₂ l n₁.past n₂.past

/-! ### Builders side by side -/

namespace Builder

variable {top : Nat} {outer : List Nat} {b b₁ b₂ b₁' b₂' b₁'' b₂'' : Builder}

/-- Without comments, trivia leave nothing in the arena. -/
lemma skipTrivia_of_bare (hbare : ∀ i, (ts.kind i).isComment = false) (b : Builder) :
    b.skipTrivia ts = { b with pos := ts.nextSignificant b.pos } := by
  fun_induction skipTrivia ts b with
  | case1 b kind htrivia c ih =>
    have hc : c = b := if_neg (by simp [kind, hbare])
    have hnext : ts.nextSignificant b.pos = ts.nextSignificant (b.pos + 1) := by
      rw [TokenStream.nextSignificant, if_pos htrivia]
    rw [ih, hc, hnext]
  | case2 b kind htrivia =>
    rw [TokenStream.nextSignificant, if_neg htrivia]

/-- Builders over two streams with the same node open, which have met after `k` words. -/
structure Beside (ts₁ ts₂ : TokenStream) (k top : Nat) (outer : List Nat) (b₁ b₂ : Builder) :
    Prop where
  open₁ : b₁.IsOpen top outer
  open₂ : b₂.IsOpen top outer
  size : b₁.nodes.size = b₂.nodes.size
  met : Met ts₁ ts₂ k b₁.pos b₂.pos

/-- Nodes of the same shape have come to two builders, which have met after `l` words. -/
def BuildAlike (ts₁ ts₂ : TokenStream) (l : Nat) (b₁ b₂ b₁' b₂' : Builder) : Prop :=
  ∃ ids nodes₁ nodes₂ past₁ past₂, List.Forall₂ (LikeNode ts₁ ts₂) nodes₁ nodes₂
    ∧ Met ts₁ ts₂ l past₁ past₂ ∧ b₁' = b₁.grown ids nodes₁ [] past₁
    ∧ b₂' = b₂.grown ids nodes₂ [] past₂

lemma BuildAlike.refl (h : Beside ts₁ ts₂ k top outer b₁ b₂) : BuildAlike ts₁ ts₂ k b₁ b₂ b₁ b₂ :=
  ⟨[], [], [], b₁.pos, b₂.pos, .nil, h.met, b₁.grown_nil.symm, b₂.grown_nil.symm⟩

lemma BuildAlike.trans (h : Beside ts₁ ts₂ k top outer b₁ b₂) {m : Nat}
    (hfirst : BuildAlike ts₁ ts₂ l b₁ b₂ b₁' b₂') (hrest : BuildAlike ts₁ ts₂ m b₁' b₂' b₁'' b₂'') :
    BuildAlike ts₁ ts₂ m b₁ b₂ b₁'' b₂'' := by
  obtain ⟨ids, nodes₁, nodes₂, past₁, past₂, hnodes, -, rfl, rfl⟩ := hfirst
  obtain ⟨ids', nodes₁', nodes₂', past₁', past₂', hnodes', hmet, rfl, rfl⟩ := hrest
  exact ⟨_, _, _, _, _, List.rel_append hnodes hnodes', hmet, grown_grown h.open₁ .., grown_grown h.open₂ ..⟩

lemma BuildAlike.beside (h : Beside ts₁ ts₂ k top outer b₁ b₂)
    (hbuild : BuildAlike ts₁ ts₂ l b₁ b₂ b₁' b₂') : Beside ts₁ ts₂ l top outer b₁' b₂' := by
  obtain ⟨ids, nodes₁, nodes₂, past₁, past₂, hnodes, hmet, rfl, rfl⟩ := hbuild
  refine ⟨h.open₁.grown .., h.open₂.grown .., ?_, hmet⟩
  simp [grown, h.size, hnodes.length_eq]

variable (alike : ts₁.Alike ts₂)

include alike

lemma alike_skipTrivia (h : Beside ts₁ ts₂ k top outer b₁ b₂) :
    BuildAlike ts₁ ts₂ k b₁ b₂ (b₁.skipTrivia ts₁) (b₂.skipTrivia ts₂)
      ∧ (b₁.skipTrivia ts₁).pos = ts₁.wordIndex k ∧ (b₂.skipTrivia ts₂).pos = ts₂.wordIndex k := by
  obtain ⟨hnext₁, hnext₂⟩ := h.met.next alike.closed₁ alike.closed₂
  rw [skipTrivia_of_bare alike.bare₁, skipTrivia_of_bare alike.bare₂, hnext₁, hnext₂]
  refine ⟨⟨[], [], [], _, _, .nil, .inr ⟨rfl, rfl⟩, ?_, ?_⟩, rfl, rfl⟩
  · simp [grown, modify_id]
  · simp [grown, modify_id]

lemma alike_addToken (h : Beside ts₁ ts₂ k top outer b₁ b₂) (role : LeafRole) :
    BuildAlike ts₁ ts₂ (k + 1) b₁ b₂ (b₁.addToken ts₁ role) (b₂.addToken ts₂ role) := by
  obtain ⟨hskip, hpos₁, hpos₂⟩ := alike_skipTrivia alike h
  refine hskip.trans h ?_
  have hbeside := hskip.beside h
  rw [addToken, addToken]
  generalize b₁.skipTrivia ts₁ = b₁, b₂.skipTrivia ts₂ = b₂ at hpos₁ hpos₂ hbeside
  have hmet : Met ts₁ ts₂ (k + 1) (b₁.pos + 1) (b₂.pos + 1) := by
    rw [hpos₁, hpos₂]
    exact .inl ⟨rfl, rfl⟩
  have hleaf : LikeNode ts₁ ts₂ ⟨.leaf role, b₁.pos, b₁.pos + 1, []⟩ ⟨.leaf role, b₂.pos, b₂.pos + 1, []⟩ :=
    ⟨rfl, rfl, k, k + 1, k.le_succ, hpos₁, hpos₂, hmet⟩
  refine ⟨_, _, _, _, _, .cons hleaf .nil, hmet, add_eq_grown hbeside.open₁ _ _, ?_⟩
  rw [hbeside.size]
  exact add_eq_grown hbeside.open₂ _ _

/-- A node is built in both around what is built inside it. -/
lemma alike_node (h : Beside ts₁ ts₂ k top outer b₁ b₂) {kind : NodeKind} {items : List Item}
    (hitems : ∀ {top : Nat} {outer : List Nat} {b₁ b₂ : Builder}, Beside ts₁ ts₂ k top outer b₁ b₂ →
      ∃ l, k ≤ l ∧ BuildAlike ts₁ ts₂ l b₁ b₂ ((Item.eventsOf items).foldl (step ts₁) b₁)
        ((Item.eventsOf items).foldl (step ts₂) b₂)) :
    ∃ l, k ≤ l ∧ BuildAlike ts₁ ts₂ l b₁ b₂ ((Item.node kind items).events.foldl (step ts₁) b₁)
      ((Item.node kind items).events.foldl (step ts₂) b₂) := by
  obtain ⟨hskip, hpos₁, hpos₂⟩ := alike_skipTrivia alike h
  have hbeside := hskip.beside h
  simp only [Item.events, List.foldl_cons, List.foldl_append, List.foldl_nil, step,
    openNode_eq_entered h.open₁, openNode_eq_entered h.open₂]
  suffices ∃ l, k ≤ l ∧ BuildAlike ts₁ ts₂ l (b₁.skipTrivia ts₁) (b₂.skipTrivia ts₂) _ _ by
    obtain ⟨l, hl, hrest⟩ := this
    exact ⟨l, hl, hskip.trans h hrest⟩
  generalize b₁.skipTrivia ts₁ = b₁, b₂.skipTrivia ts₂ = b₂ at hpos₁ hpos₂ hbeside ⊢
  have hentered : Beside ts₁ ts₂ k b₁.nodes.size (top :: outer) (b₁.entered kind) (b₂.entered kind) := by
    refine ⟨?_, ?_, ?_, hbeside.met⟩
    · rw [← hbeside.open₁.1]
      exact isOpen_entered b₁ kind
    · rw [← hbeside.open₂.1, hbeside.size]
      exact isOpen_entered b₂ kind
    · simp [entered, add, hbeside.open₁.1, hbeside.open₂.1, hbeside.size]
  obtain ⟨l, hl, ids, nodes₁, nodes₂, past₁, past₂, hnodes, hmet, heq₁, heq₂⟩ := hitems hentered
  rw [heq₁, heq₂, closeNode_entered hbeside.open₁, closeNode_entered hbeside.open₂, hbeside.size]
  have hnode : LikeNode ts₁ ts₂ ⟨kind, b₁.pos, past₁, ids⟩ ⟨kind, b₂.pos, past₂, ids⟩ :=
    ⟨rfl, rfl, k, l, hl, hpos₁, hpos₂, hmet⟩
  exact ⟨l, hl, _, _, _, _, _, .cons hnode hnodes, hmet, rfl, rfl⟩

end Builder

/-! ### Items without errors -/

/-- Whether an event is a complaint. -/
def isComplaint : Event → Bool
  | .error _ => true
  | _ => false

namespace Builder

mutual

/-- The events of an item without errors are folded into nodes of the same shape. -/
lemma alike_item (alike : ts₁.Alike ts₂) (x : Item) (hx : x.events.any isComplaint = false)
    {k top : Nat} {outer : List Nat} {b₁ b₂ : Builder} (h : Beside ts₁ ts₂ k top outer b₁ b₂) :
    ∃ l, k ≤ l ∧ BuildAlike ts₁ ts₂ l b₁ b₂ (x.events.foldl (step ts₁) b₁)
      (x.events.foldl (step ts₂) b₂) := by
  match x with
  | .leaf role => exact ⟨k + 1, k.le_succ, alike_addToken alike h role⟩
  | .error cause => exact absurd hx (by simp [Item.events, isComplaint])
  | .node kind items =>
    refine alike_node alike h fun h => alike_items alike items ?_ h
    simpa [Item.events, isComplaint] using hx

lemma alike_items (alike : ts₁.Alike ts₂) (xs : List Item)
    (hxs : (Item.eventsOf xs).any isComplaint = false)
    {k top : Nat} {outer : List Nat} {b₁ b₂ : Builder} (h : Beside ts₁ ts₂ k top outer b₁ b₂) :
    ∃ l, k ≤ l ∧ BuildAlike ts₁ ts₂ l b₁ b₂ ((Item.eventsOf xs).foldl (step ts₁) b₁)
      ((Item.eventsOf xs).foldl (step ts₂) b₂) := by
  match xs with
  | [] => exact ⟨k, Nat.le_refl k, .refl h⟩
  | x :: xs =>
    rw [Item.eventsOf, List.any_append, Bool.or_eq_false_iff] at hxs
    obtain ⟨l, hl, hfirst⟩ := alike_item alike x hxs.1 h
    obtain ⟨m, hm, hrest⟩ := alike_items alike xs hxs.2 (hfirst.beside h)
    rw [Item.eventsOf, List.foldl_append, List.foldl_append]
    exact ⟨m, Nat.le_trans hl hm, hfirst.trans h hrest⟩

end

/-- Complaints are recorded as errors, and nothing else is. -/
lemma size_errors_foldl (events : List Event) (b : Builder) :
    (events.foldl (step ts) b).errors.size = b.errors.size + events.countP isComplaint := by
  have hskip (b : Builder) : (b.skipTrivia ts).errors = b.errors := by
    fun_induction skipTrivia ts b with
    | case1 b kind htrivia c ih =>
      rw [ih]
      dsimp only [c]
      split <;> rfl
    | case2 b kind htrivia => rfl
  have hstep (b : Builder) (e : Event) :
      (b.step ts e).errors.size = b.errors.size + if isComplaint e then 1 else 0 := by
    cases e with
    | «open» kind =>
      simp only [step, openNode, add]
      split <;> simp [hskip, isComplaint]
    | close =>
      simp only [step, closeNode]
      split <;> split <;> simp [hskip, isComplaint]
    | token role => simp [step, addToken, addLeaf, add, hskip, isComplaint]
    | error cause => simp [step, addError, isComplaint]
  induction events generalizing b with
  | nil => rfl
  | cons e events ih =>
    rw [List.foldl_cons, ih, hstep, List.countP_cons, Nat.add_assoc, Nat.add_comm (events.countP _)]

/-- Without comments, the outermost node closes at the end of the stream and leaves the others alone. -/
lemma closeNode_root (hbare : ∀ i, (ts.kind i).isComment = false) (ids : List Nat) (nodes : List Node)
    (past : Nat) :
    ((entered .root {}).grown ids nodes [] past).closeNode ts
      = ⟨ts.size, (⟨.root, 0, ts.size, ids⟩ :: nodes).toArray, [], #[], some 0⟩ := by
  rw [closeNode, skipTrivia_of_bare hbare]
  simp [grown, entered, add]

end Builder

/-! ### First and last tokens -/

variable {t t₁ t₂ : Tree} {id : Nat}

/-- Without comments, what is no whitespace is no trivia. -/
lemma findForward_of_bare (hbare : ∀ i, (ts.kind i).isComment = false) (count i : Nat) :
    ts.findForward (!·.isWhitespace) count i = ts.findForward (!·.isTrivia) count i := by
  induction count generalizing i with
  | zero => rfl
  | succ count ih => simp [TokenStream.findForward, TokenKind.isTrivia, hbare i, ih]

lemma findBackward_of_bare (hbare : ∀ i, (ts.kind i).isComment = false) (i : Nat) :
    ts.findBackward (!·.isWhitespace) i = ts.findBackward (!·.isTrivia) i := by
  induction i with
  | zero => rfl
  | succ i ih => simp [TokenStream.findBackward, TokenKind.isTrivia, hbare i, ih]

lemma findBackward_lt {p : TokenKind → Bool} {i j : Nat} (h : ts.findBackward p i = some j) : j < i := by
  induction i with
  | zero => exact absurd h nofun
  | succ i ih =>
    rw [TokenStream.findBackward] at h
    split at h
    · exact Option.some.inj h ▸ Nat.lt_succ_self i
    · exact Nat.lt_succ_of_lt (ih h)

lemma findForward_nextSignificant (hc : ts.Closed) {count i : Nat} (h : ts.nextSignificant i < i + count) :
    ts.findForward (!·.isTrivia) count i = some (ts.nextSignificant i) := by
  fun_induction TokenStream.nextSignificant ts i generalizing count with
  | case1 i htrivia ih =>
    obtain ⟨count, rfl⟩ : ∃ m, count = m + 1 := by
      have := ts.le_nextSignificant (i + 1)
      exact ⟨count - 1, by omega⟩
    rw [TokenStream.findForward, htrivia.2]
    exact ih (by omega)
  | case2 i htrivia =>
    obtain ⟨count, rfl⟩ : ∃ m, count = m + 1 := ⟨count - 1, by omega⟩
    have hkind : (ts.kind i).isTrivia = false := by
      rcases Nat.lt_or_ge i ts.lastIndex with hlt | hge
      · simpa [hlt] using htrivia
      · rw [(hc.kind_eq_eof_iff i).2 hge]
        rfl
    rw [TokenStream.findForward, hkind]
    rfl

section

variable (hc : t.tokens.Closed) (hbare : ∀ i, (t.tokens.kind i).isComment = false)

include hc hbare

/-- The first token of a node is the next word, if the node holds it or begins there. -/
lemma firstToken_eq (hfirst : t.tokens.nextSignificant (t.node id).first = t.tokens.wordIndex k)
    (hpast : (t.node id).first = t.tokens.wordIndex k ∨ t.tokens.wordIndex k < (t.node id).past) :
    t.firstToken id = t.tokens.wordIndex k := by
  have hle := t.tokens.le_nextSignificant (t.node id).first
  rw [hfirst] at hle
  unfold firstToken
  dsimp only
  rw [findForward_of_bare hbare]
  rcases Nat.lt_or_ge (t.tokens.wordIndex k) (t.node id).past with hlt | hge
  · rw [findForward_nextSignificant hc (by omega), hfirst]
    rfl
  · have heq := hpast.resolve_right (Nat.not_lt.2 hge)
    rw [Nat.sub_eq_zero_of_le (heq ▸ hge), heq]
    rfl

/-- The last token of a node that ends after a word is that word. -/
lemma lastToken_eq (hfirst : (t.node id).first ≤ t.tokens.wordIndex k)
    (hpast : (t.node id).past = t.tokens.afterWords (k + 1)
      ∨ (t.node id).past = t.tokens.wordIndex (k + 1)) :
    t.lastToken id = t.tokens.wordIndex k := by
  have hback : t.tokens.findBackward (!·.isTrivia) (t.node id).past = some (t.tokens.wordIndex k) := by
    rw [← hc.findBackward_wordIndex k]
    rcases hpast with hpast | hpast
    · rw [hpast]
      exact (t.tokens.findBackward_nextSignificant _).symm
    · rw [hpast]
  unfold lastToken
  dsimp only
  rw [findBackward_of_bare hbare, hback]
  exact Nat.max_eq_left hfirst

end

/-- A node without tokens has its start for a last token. -/
lemma lastToken_of_le (h : (t.node id).past ≤ (t.node id).first) :
    t.lastToken id = (t.node id).first := by
  unfold lastToken
  dsimp only
  split
  · next i hi =>
    have := findBackward_lt hi
    exact Nat.max_eq_right (by omega)
  · rfl

/-- The first and last tokens of a node are the same words in two trees. -/
def SameEnds (t₁ t₂ : Tree) (id : Nat) : Prop :=
  TokenStream.Same t₁.tokens t₂.tokens (t₁.firstToken id) (t₂.firstToken id)
    ∧ TokenStream.Same t₁.tokens t₂.tokens (t₁.lastToken id) (t₂.lastToken id)

/-- Nodes that begin at the same word and end between the same words have the same first and last tokens. -/
lemma sameEnds_of_range (alike : t₁.tokens.Alike t₂.tokens) (hkl : k ≤ l)
    (hfirst₁ : (t₁.node id).first = t₁.tokens.wordIndex k)
    (hfirst₂ : (t₂.node id).first = t₂.tokens.wordIndex k)
    (hpast : Met t₁.tokens t₂.tokens l (t₁.node id).past (t₂.node id).past) :
    SameEnds t₁ t₂ id := by
  constructor
  · refine ⟨k, firstToken_eq alike.closed₁ alike.bare₁ ?_ (.inl hfirst₁),
      firstToken_eq alike.closed₂ alike.bare₂ ?_ (.inl hfirst₂)⟩
    · rw [hfirst₁, nextSignificant_wordIndex alike.closed₁]
    · rw [hfirst₂, nextSignificant_wordIndex alike.closed₂]
  · rcases Nat.eq_or_lt_of_le hkl with rfl | hlt
    · have hempty {ts : TokenStream} {i : Nat} (h : i = ts.afterWords k ∨ i = ts.wordIndex k) :
          i ≤ ts.wordIndex k := by
        rcases h with rfl | rfl
        · exact ts.afterWords_le_wordIndex k
        · exact Nat.le_refl _
      refine ⟨k, ?_, ?_⟩
      · rw [lastToken_of_le, hfirst₁]
        rw [hfirst₁]
        exact hempty (hpast.imp And.left And.left)
      · rw [lastToken_of_le, hfirst₂]
        rw [hfirst₂]
        exact hempty (hpast.imp And.right And.right)
    · obtain ⟨m, rfl⟩ := Nat.exists_eq_add_of_lt hlt
      refine ⟨k + m, lastToken_eq alike.closed₁ alike.bare₁ ?_ (hpast.imp And.left And.left),
        lastToken_eq alike.closed₂ alike.bare₂ ?_ (hpast.imp And.right And.right)⟩
      · rw [hfirst₁]
        exact t₁.tokens.strictMono_wordIndex.monotone (Nat.le_add_right k m)
      · rw [hfirst₂]
        exact t₂.tokens.strictMono_wordIndex.monotone (Nat.le_add_right k m)

/-- So have nodes over all tokens. -/
lemma sameEnds_of_all (alike : t₁.tokens.Alike t₂.tokens) (hfirst₁ : (t₁.node id).first = 0)
    (hfirst₂ : (t₂.node id).first = 0) (hpast₁ : (t₁.node id).past = t₁.tokens.size)
    (hpast₂ : (t₂.node id).past = t₂.tokens.size) :
    SameEnds t₁ t₂ id := by
  have hsize {ts : TokenStream} (hc : ts.Closed) : ts.size = ts.afterWords (ts.wordCount + 1) := by
    have hlast : ts.lastIndex + 1 = ts.size := Nat.succ_pred_eq_of_pos ts.nonempty
    rw [← hlast, ← hc.wordIndex_wordCount]
    rfl
  have hinside {ts : TokenStream} : ts.wordIndex 0 < ts.size :=
    Nat.lt_of_le_of_lt (TokenStream.nextSignificant_le (Nat.zero_le _)) ts.lastIndex_lt_size
  constructor
  · refine ⟨0, firstToken_eq alike.closed₁ alike.bare₁ ?_ (.inr ?_),
      firstToken_eq alike.closed₂ alike.bare₂ ?_ (.inr ?_)⟩
    · rw [hfirst₁]; rfl
    · rw [hpast₁]; exact hinside
    · rw [hfirst₂]; rfl
    · rw [hpast₂]; exact hinside
  · refine ⟨t₁.tokens.wordCount, lastToken_eq alike.closed₁ alike.bare₁ ?_ (.inl ?_),
      lastToken_eq alike.closed₂ alike.bare₂ ?_ (.inl ?_)⟩
    · rw [hfirst₁]; exact Nat.zero_le _
    · rw [hpast₁]; exact hsize alike.closed₁
    · rw [hfirst₂]; exact Nat.zero_le _
    · rw [hpast₂, alike.count]; exact hsize alike.closed₂

/-! ### Trees of sources -/

/-- Trees over alike streams that agree in their nodes, which have the same first and last tokens. -/
structure SameShape (t₁ t₂ : Tree) : Prop where
  tokens : t₁.tokens.Alike t₂.tokens
  root : t₁.root = t₂.root
  size : t₁.size = t₂.size
  kind (id : Nat) : t₁.kind id = t₂.kind id
  children (id : Nat) : t₁.children id = t₂.children id
  ends {id : Nat} : id < t₁.size → SameEnds t₁ t₂ id

/-- Trees whose arenas have nodes of the same shape below the root. -/
lemma sameShape_of_arena (alike : t₁.tokens.Alike t₂.tokens) (hroot : t₁.root = t₂.root) {ids : List Nat}
    {nodes₁ nodes₂ : List Node} (h₁ : t₁.nodes = (⟨.root, 0, t₁.tokens.size, ids⟩ :: nodes₁).toArray)
    (h₂ : t₂.nodes = (⟨.root, 0, t₂.tokens.size, ids⟩ :: nodes₂).toArray)
    (hnodes : List.Forall₂ (LikeNode t₁.tokens t₂.tokens) nodes₁ nodes₂) : SameShape t₁ t₂ := by
  have hsize : t₁.size = t₂.size := by simp [size, h₁, h₂, hnodes.length_eq]
  -- A number is that of the root, of a node below it, or of no node.
  have hcases (id : Nat) : (t₁.node id = ⟨.root, 0, t₁.tokens.size, ids⟩
        ∧ t₂.node id = ⟨.root, 0, t₂.tokens.size, ids⟩)
      ∨ LikeNode t₁.tokens t₂.tokens (t₁.node id) (t₂.node id)
      ∨ (t₁.size ≤ id ∧ t₁.node id = default ∧ t₂.node id = default) := by
    cases id with
    | zero => exact .inl ⟨by simp [node, h₁], by simp [node, h₂]⟩
    | succ id =>
      have hget₁ : t₁.node (id + 1) = nodes₁[id]?.getD default := by simp [node, h₁]
      have hget₂ : t₂.node (id + 1) = nodes₂[id]?.getD default := by simp [node, h₂]
      rw [hget₁, hget₂]
      rcases Nat.lt_or_ge id nodes₁.length with hlt | hge
      · have hlike := List.Forall₂.get hnodes hlt (hnodes.length_eq ▸ hlt)
        refine .inr (.inl ?_)
        simpa [hlt, hnodes.length_eq ▸ hlt] using hlike
      · refine .inr (.inr ⟨by simpa [size, h₁] using hge, ?_, ?_⟩)
        · simp [List.getElem?_eq_none hge]
        · simp [List.getElem?_eq_none (hnodes.length_eq ▸ hge)]
  refine ⟨alike, hroot, hsize, fun id => ?_, fun id => ?_, @fun id hid => ?_⟩
  · obtain ⟨hn₁, hn₂⟩ | hlike | ⟨-, hn₁, hn₂⟩ := hcases id
    · rw [kind, kind, hn₁, hn₂]
    · exact hlike.kind
    · rw [kind, kind, hn₁, hn₂]
  · obtain ⟨hn₁, hn₂⟩ | hlike | ⟨-, hn₁, hn₂⟩ := hcases id
    · rw [children, children, hn₁, hn₂]
    · exact hlike.children
    · rw [children, children, hn₁, hn₂]
  · obtain ⟨hn₁, hn₂⟩ | hlike | ⟨hge, -⟩ := hcases id
    · exact sameEnds_of_all alike (by rw [hn₁]) (by rw [hn₂]) (by rw [hn₁]) (by rw [hn₂])
    · obtain ⟨k, l, hkl, hfirst₁, hfirst₂, hpast⟩ := hlike.range
      exact sameEnds_of_range alike hkl hfirst₁ hfirst₂ hpast
    · exact absurd hid (Nat.not_lt.2 hge)

lemma make_eq {nodes : Array Node} {root : Nat} {errors : Array SyntaxError}
    (h : make ts nodes root errors = .ok t) : t = ⟨ts, nodes, root, errors⟩ := by
  unfold make at h
  split at h
  · split at h
    · exact absurd h nofun
    · exact (Except.ok.inj h).symm
  · exact absurd h nofun

lemma errors_of_ofEvents {events : List Event} (h : ofEvents ts events = .ok t) :
    t.errors = (events.foldl (Builder.step ts) {}).errors := by
  unfold ofEvents at h
  dsimp only at h
  split at h
  · rw [make_eq h]
  · rw [make_eq h]

/-- The errors of a tree are the complaints among its events. -/
lemma isEmpty_errors_iff {events : List Event} (h : ofEvents ts events = .ok t) :
    t.errors.isEmpty = true ↔ events.any isComplaint = false := by
  rw [errors_of_ofEvents h, Array.isEmpty_iff_size_eq_zero, Builder.size_errors_foldl]
  simp [List.countP_eq_zero]

/-- The arena of events without errors, if no comments come between them. -/
lemma nodes_of_ofEvents (hbare : ∀ i, (ts.kind i).isComment = false) {items : List Item} {ids : List Nat}
    {nodes : List Node} {past : Nat} (h : ofEvents ts (Item.eventsOf [.node .root items]) = .ok t)
    (hitems : (Item.eventsOf items).foldl (Builder.step ts) (Builder.entered .root {})
      = (Builder.entered .root {}).grown ids nodes [] past) :
    t.tokens = ts ∧ t.root = 0 ∧ t.nodes = (⟨.root, 0, ts.size, ids⟩ :: nodes).toArray := by
  have hfold : (Item.eventsOf [.node .root items]).foldl (Builder.step ts) {}
      = ⟨ts.size, (⟨.root, 0, ts.size, ids⟩ :: nodes).toArray, [], #[], some 0⟩ := by
    rw [← Builder.closeNode_root hbare ids nodes past, ← hitems]
    simp [Item.eventsOf, Item.events, Builder.step, Builder.entered, Builder.openNode]
  unfold ofEvents at h
  rw [hfold] at h
  rw [make_eq h]
  exact ⟨rfl, rfl, rfl⟩

/--
A source that agrees in its words with one whose tree has no errors has a tree without errors, and the
two trees have the same shape.
-/
theorem sameShape_of_parse {source₁ source₂ : Text}
    (alike : (TokenStream.ofText source₁).Alike (.ofText source₂)) (h₁ : parse source₁ = .ok t₁)
    (herrors : t₁.errors.isEmpty = true) :
    ∃ t₂, parse source₂ = .ok t₂ ∧ t₂.errors.isEmpty = true ∧ SameShape t₁ t₂ := by
  have hruns := Grammar.abreast_run alike
  obtain ⟨hoverrun, -⟩ | ⟨hoverrun₁, -⟩ := parse_cases source₁
  · rw [parse_eq, if_pos hoverrun] at h₁
    exact absurd h₁ nofun
  obtain ⟨hoverrun, -⟩ | ⟨hoverrun₂, t₂, h₂, -⟩ := parse_cases source₂
  · rw [← hruns.overrun, hoverrun₁] at hoverrun
    exact absurd hoverrun nofun
  have hevents {source : Text} {t : Tree} (hoverrun : (Grammar.run (.ofText source)).overrun = false)
      (h : parse source = .ok t) :
      ofEvents (.ofText source) (Grammar.run (.ofText source)).events.reverse = .ok t := by
    rw [parse_eq, hoverrun] at h
    cases hof : ofEvents (.ofText source) (Grammar.run (.ofText source)).events.reverse with
    | error fault =>
      rw [hof] at h
      exact absurd h nofun
    | ok t' =>
      rw [hof] at h
      exact congrArg _ (Except.ok.inj h)
  have htree₁ := hevents hoverrun₁ h₁
  have htree₂ := hevents hoverrun₂ h₂
  obtain ⟨-, items, hforest⟩ := Grammar.reads_forest alike.closed₁
  rw [← hruns.events] at htree₂
  rw [Grammar.events_run alike.closed₁, hforest] at htree₁ htree₂
  have hclean := (isEmpty_errors_iff htree₁).1 herrors
  have hitems : (Item.eventsOf items).any isComplaint = false := by
    simpa [Item.eventsOf, Item.events, isComplaint] using hclean
  have hstart : Builder.Beside (.ofText source₁) (.ofText source₂) 0 0 [] (Builder.entered .root {})
      (Builder.entered .root {}) :=
    ⟨Builder.isOpen_entered {} .root, Builder.isOpen_entered {} .root, rfl, .inl ⟨rfl, rfl⟩⟩
  obtain ⟨l, -, ids, nodes₁, nodes₂, past₁, past₂, hnodes, -, heq₁, heq₂⟩ :=
    Builder.alike_items alike items hitems hstart
  obtain ⟨htokens₁, hroot₁, hnodes₁⟩ := nodes_of_ofEvents alike.bare₁ htree₁ heq₁
  obtain ⟨htokens₂, hroot₂, hnodes₂⟩ := nodes_of_ofEvents alike.bare₂ htree₂ heq₂
  rw [← htokens₁] at alike hnodes hnodes₁
  rw [← htokens₂] at alike hnodes hnodes₂
  exact ⟨t₂, h₂, (isEmpty_errors_iff htree₂).2 hclean,
    sameShape_of_arena alike (hroot₁.trans hroot₂.symm) hnodes₁ hnodes₂ hnodes⟩

end Tree
end SqlLayout
