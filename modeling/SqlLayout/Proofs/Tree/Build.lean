import SqlLayout.Proofs.Grammar.Run
import SqlLayout.Proofs.Tree.Arena
import SqlLayout.Tree.Build

/-!
# Building the arena of a run

The events of a proper forest are folded into a builder as its arena grows. Hence the arena of a run is
one root over all tokens, and `Tree.parse` fails only where the grammar asks for a token after the last
one. That happens for the two constructs of `Item.areCutShort`.
-/

namespace SqlLayout
namespace Tree

open Grammar (Item)

variable {ts : TokenStream}

namespace Builder

variable {b : Builder} {top : Nat} {outer : List Nat}

/-- The builder after nodes have come to it, those with the numbers `ids` to the innermost open node. -/
def grown (ids : List Nat) (nodes : List Node) (errors : List SyntaxError) (past : Nat)
    (b : Builder) : Builder :=
  { b with
    pos := past
    nodes := b.nodes.modify (b.opened.headD 0) (fun n => { n with children := n.children ++ ids })
      ++ nodes.toArray
    errors := b.errors ++ errors.toArray }

/-- The builder inside a node that opens at the next token. -/
def entered (kind : NodeKind) (b : Builder) : Builder :=
  { b.add ⟨kind, b.pos, b.pos, []⟩ with opened := b.nodes.size :: b.opened }

/-- The innermost open node is in the arena. -/
def IsOpen (b : Builder) (top : Nat) (outer : List Nat) : Prop :=
  b.opened = top :: outer ∧ top < b.nodes.size

lemma modify_modify_append (nodes more : Array Node) (f f' : Node → Node) {i : Nat}
    (h : i < nodes.size) :
    (nodes.modify i f ++ more).modify i f' = nodes.modify i (f' ∘ f) ++ more := by
  apply Array.ext_getElem?
  intro j
  simp only [Array.getElem?_modify, Array.getElem?_append, Array.size_modify]
  by_cases hij : i = j
  · subst hij
    simp [h]
  · simp [hij]

lemma modify_push (nodes : Array Node) (n : Node) (f : Node → Node) :
    (nodes.push n).modify nodes.size f = nodes.push (f n) := by
  apply Array.ext_getElem?
  intro j
  rw [Array.getElem?_modify, Array.getElem?_push, Array.getElem?_push]
  by_cases hj : nodes.size = j
  · simp [hj]
  · simp [hj, Ne.symm hj]

lemma modify_id (nodes : Array Node) (i : Nat) (f : Node → Node)
    (h : ∀ n, nodes[i]? = some n → f n = n) : nodes.modify i f = nodes := by
  apply Array.ext_getElem?
  intro j
  rw [Array.getElem?_modify]
  split
  · next hij =>
    subst hij
    cases hn : nodes[i]? with
    | none => rfl
    | some n => simp [h n hn]
  · rfl

lemma IsOpen.grown (h : b.IsOpen top outer) (ids : List Nat) (nodes : List Node)
    (errors : List SyntaxError) (past : Nat) :
    (b.grown ids nodes errors past).IsOpen top outer := by
  refine ⟨h.1, ?_⟩
  simp only [Builder.grown, Array.size_append, Array.size_modify]
  have := h.2
  omega

lemma grown_grown (h : b.IsOpen top outer) (ids ids' : List Nat) (nodes nodes' : List Node)
    (errors errors' : List SyntaxError) (past past' : Nat) :
    (b.grown ids nodes errors past).grown ids' nodes' errors' past'
      = b.grown (ids ++ ids') (nodes ++ nodes') (errors ++ errors') past' := by
  obtain ⟨hopen, hlt⟩ := h
  simp only [grown, hopen, List.headD_cons, modify_modify_append _ _ _ _ hlt]
  simp [Function.comp_def]

lemma grown_nil (b : Builder) : b.grown [] [] [] b.pos = b := by
  simp [grown, modify_id]

lemma add_eq_grown (h : b.IsOpen top outer) (n : Node) (past : Nat) :
    { b.add n with pos := past } = b.grown [b.nodes.size] [n] [] past := by
  simp [add, grown, h.1]

/-! ### One event at a time -/

/-- Trivia become comments of the innermost open node. -/
lemma skipTrivia_eq_grown (ts : TokenStream) (h : b.IsOpen top outer) :
    ∃ ids nodes, Grows ts b.nodes.size b.pos b.errors.size ids nodes [] (ts.nextSignificant b.pos)
      ∧ (∀ n ∈ nodes, n.kind.isPiece = true)
      ∧ b.skipTrivia ts = b.grown ids nodes [] (ts.nextSignificant b.pos) := by
  fun_induction skipTrivia ts b with
  | case1 b kind htrivia c ih =>
    have hnext : ts.nextSignificant b.pos = ts.nextSignificant (b.pos + 1) := by
      rw [TokenStream.nextSignificant, if_pos htrivia]
    rw [hnext]
    by_cases hcomment : kind.isComment = true
    · have hc : { c with pos := b.pos + 1 }
          = b.grown [b.nodes.size] [⟨.comment, b.pos, b.pos + 1, []⟩] [] (b.pos + 1) := by
        rw [← add_eq_grown h, show c = b.addLeaf .comment from dif_pos hcomment, addLeaf]
      rw [hc] at ih ⊢
      obtain ⟨ids, nodes, hgrows, hpieces, heq⟩ := ih (h.grown _ _ _ _)
      refine ⟨b.nodes.size :: ids, _ :: nodes, .comment htrivia.1 hcomment ?_, ?_, ?_⟩
      · simpa [grown] using hgrows
      · simpa using ⟨rfl, hpieces⟩
      · rw [heq, grown_grown h]
        simp [grown]
    · have hc : { c with pos := b.pos + 1 } = b.grown [] [] [] (b.pos + 1) := by
        rw [show c = b from dif_neg hcomment]
        simp [grown, modify_id]
      have hblank : kind.isWhitespace = true :=
        ((Bool.or_eq_true _ _).mp htrivia.2).resolve_right hcomment
      rw [hc] at ih ⊢
      obtain ⟨ids, nodes, hgrows, hpieces, heq⟩ := ih (h.grown _ _ _ _)
      refine ⟨ids, nodes, .blank htrivia.1 hblank ?_, hpieces, ?_⟩
      · simpa [grown] using hgrows
      · rw [heq, grown_grown h]
        simp [grown]
  | case2 b kind htrivia =>
    have hnext : ts.nextSignificant b.pos = b.pos := by
      rw [TokenStream.nextSignificant, if_neg htrivia]
    rw [hnext]
    exact ⟨[], [], .nil _ _ _, by simp, b.grown_nil.symm⟩

/-- The arena grows while `count` significant tokens are read; `plain` growth is by leaves alone. -/
def Builds (ts : TokenStream) (plain : Bool) (count : Nat) (b b' : Builder) : Prop :=
  ∃ ids nodes errors past, Grows ts b.nodes.size b.pos b.errors.size ids nodes errors past
    ∧ (plain = true → errors = [] ∧ ∀ n ∈ nodes, n.kind.isPiece = true)
    ∧ ts.significantFrom past = (ts.significantFrom b.pos).drop count
    ∧ b' = b.grown ids nodes errors past

lemma Builds.refl (plain : Bool) (b : Builder) : Builds ts plain 0 b b :=
  ⟨[], [], [], b.pos, .nil _ _ _, by simp, rfl, b.grown_nil.symm⟩

lemma Builds.trans {plain : Bool} {m n : Nat} {b' b'' : Builder} (hb : b.IsOpen top outer)
    (h : Builds ts plain m b b') (h' : Builds ts plain n b' b'') : Builds ts plain (m + n) b b'' := by
  obtain ⟨ids, nodes, errors, past, hgrows, hplain, hread, rfl⟩ := h
  obtain ⟨ids', nodes', errors', past', hgrows', hplain', hread', rfl⟩ := h'
  refine ⟨ids ++ ids', nodes ++ nodes', errors ++ errors', past', ?_, ?_, ?_, ?_⟩
  · exact hgrows.append (by simpa [grown] using hgrows')
  · intro h
    obtain ⟨rfl, hpieces⟩ := hplain h
    obtain ⟨rfl, hpieces'⟩ := hplain' h
    refine ⟨rfl, fun n hn => ?_⟩
    exact (List.mem_append.1 hn).elim (hpieces n) (hpieces' n)
  · rw [hread', ← List.drop_drop, ← hread]
    rfl
  · exact grown_grown hb ..

lemma Builds.isOpen {plain : Bool} {n : Nat} {b' : Builder} (hb : b.IsOpen top outer)
    (h : Builds ts plain n b b') : b'.IsOpen top outer := by
  obtain ⟨ids, nodes, errors, past, -, -, -, rfl⟩ := h
  exact hb.grown ids nodes errors past

lemma Builds.significantFrom {plain : Bool} {n : Nat} {b' : Builder} (h : Builds ts plain n b b') :
    ts.significantFrom b'.pos = (ts.significantFrom b.pos).drop n := by
  obtain ⟨ids, nodes, errors, past, -, -, hread, rfl⟩ := h
  exact hread

lemma builds_skipTrivia (ts : TokenStream) (h : b.IsOpen top outer) (plain : Bool) :
    Builds ts plain 0 b (b.skipTrivia ts) := by
  obtain ⟨ids, nodes, hgrows, hpieces, heq⟩ := skipTrivia_eq_grown ts h
  refine ⟨ids, nodes, [], _, hgrows, fun _ => ⟨rfl, hpieces⟩, ?_, heq⟩
  exact ts.significantFrom_nextSignificant b.pos

lemma pos_skipTrivia (ts : TokenStream) (h : b.IsOpen top outer) :
    (b.skipTrivia ts).pos = ts.nextSignificant b.pos := by
  obtain ⟨ids, nodes, -, -, heq⟩ := skipTrivia_eq_grown ts h
  rw [heq]
  rfl

lemma builds_addToken (hc : ts.Closed) (h : b.IsOpen top outer) (plain : Bool) (role : LeafRole)
    (hread : 0 < (ts.significantFrom b.pos).length) :
    Builds ts plain 1 b (b.addToken ts role) := by
  have hskip := builds_skipTrivia ts h plain
  have hlt : ts.nextSignificant b.pos < ts.lastIndex := by
    by_contra hge
    rw [TokenStream.significantFrom_eq_nil_of_nextSignificant (Nat.le_of_not_lt hge)] at hread
    exact absurd hread (by simp)
  have hpos := pos_skipTrivia ts h
  rw [← Nat.zero_add 1]
  refine hskip.trans h ?_
  have hopen := hskip.isOpen h
  rw [addToken]
  generalize b.skipTrivia ts = b at hpos hopen
  refine ⟨_, _, [], b.pos + 1, .leaf role ?_ ?_ (.nil _ _ _), ?_, ?_, add_eq_grown hopen _ _⟩
  · rw [hpos]
    exact hlt
  · rw [hpos]
    exact hc.isTrivia_nextSignificant _
  · exact fun _ => ⟨rfl, by simp [NodeKind.isPiece]⟩
  · rw [hpos, ts.significantFrom_nextSignificant, hc.significantFrom_eq_cons hlt]
    rfl

/-- Leaves are added to whatever node is open. -/
lemma builds_leaves (hc : ts.Closed) (h : b.IsOpen top outer) (roles : List LeafRole)
    (hread : roles.length ≤ (ts.significantFrom b.pos).length) :
    Builds ts true roles.length b ((Item.eventsOf (roles.map .leaf)).foldl (step ts) b) := by
  induction roles generalizing b with
  | nil => exact .refl true b
  | cons role roles ih =>
    rw [List.length_cons] at hread
    have hrole := builds_addToken hc h true role (by omega)
    have hrest := ih (hrole.isOpen h) (by rw [hrole.significantFrom, List.length_drop]; omega)
    rw [List.length_cons, Nat.add_comm]
    exact hrole.trans h hrest

/-! ### Where growth ends -/

/-- What came to an arena ends on a significant token, or with a node that holds no tokens. -/
def Ends (ts : TokenStream) (b b' : Builder) : Prop :=
  (ts.kind (b'.pos - 1)).isTrivia = false
    ∨ ∃ i n, b.nodes.size ≤ i ∧ b'.nodes[i]? = some n ∧ n.kind.isPiece = false
      ∧ n.first = b'.pos ∧ n.past = b'.pos

/-- Tokens that have come to an arena have an end; there may be none. -/
def Settles (ts : TokenStream) (b b' : Builder) : Prop :=
  b'.pos = b.pos ∨ Ends ts b b'

lemma Ends.mono {b₀ b' : Builder} (h : Ends ts b b') (hsize : b₀.nodes.size ≤ b.nodes.size) :
    Ends ts b₀ b' := by
  obtain htoken | ⟨i, e, hi, hempty⟩ := h
  · exact .inl htoken
  · exact .inr ⟨i, e, Nat.le_trans hsize hi, hempty⟩

lemma Builds.size_le {plain : Bool} {n : Nat} {b' : Builder} (h : Builds ts plain n b b') :
    b.nodes.size ≤ b'.nodes.size := by
  obtain ⟨ids, nodes, errors, past, -, -, -, rfl⟩ := h
  simp [grown]

/-- Growth changes none of the nodes that were there, except for the one that is open. -/
lemma Builds.getElem? {plain : Bool} {n i : Nat} {b' : Builder} (hb : b.IsOpen top outer)
    (h : Builds ts plain n b b') (hi : top < i) (hlt : i < b.nodes.size) :
    b'.nodes[i]? = b.nodes[i]? := by
  obtain ⟨ids, nodes, errors, past, -, -, -, rfl⟩ := h
  rw [grown, hb.1, List.headD_cons, Array.getElem?_append_left (by simpa using hlt),
    Array.getElem?_modify, if_neg (Nat.ne_of_lt hi)]

lemma Settles.trans {plain : Bool} {m n : Nat} {b' b'' : Builder} (hb : b.IsOpen top outer)
    (hbuilds : Builds ts plain m b b') (hbuilds' : Builds ts plain n b' b'') (h : Settles ts b b')
    (h' : Settles ts b' b'') : Settles ts b b'' := by
  obtain hpos | hends := h'
  · -- Nothing was read after the first part, so what ended it still stands at the end.
    obtain hpos' | htoken | ⟨i, e, hi, he, hempty⟩ := h
    · exact .inl (hpos.trans hpos')
    · rw [← hpos] at htoken
      exact .inr (.inl htoken)
    · rw [← hpos] at hempty
      have hlt : i < b'.nodes.size := (Array.getElem?_eq_some_iff.1 he).1
      refine .inr (.inr ⟨i, e, hi, ?_, hempty⟩)
      rw [hbuilds'.getElem? (hbuilds.isOpen hb) (Nat.lt_of_lt_of_le hb.2 hi) hlt, he]
  · exact .inr (hends.mono hbuilds.size_le)

lemma ends_addToken (hc : ts.Closed) (h : b.IsOpen top outer) (role : LeafRole) :
    Ends ts b (b.addToken ts role) := by
  have hpos : (b.addToken ts role).pos = ts.nextSignificant b.pos + 1 := by
    rw [← pos_skipTrivia ts h]
    rfl
  refine .inl ?_
  rw [hpos, Nat.add_sub_cancel]
  exact hc.isTrivia_nextSignificant _

lemma settles_leaves (hc : ts.Closed) (h : b.IsOpen top outer) (roles : List LeafRole)
    (hread : roles.length ≤ (ts.significantFrom b.pos).length) :
    Settles ts b ((Item.eventsOf (roles.map .leaf)).foldl (step ts) b) := by
  induction roles generalizing b with
  | nil => exact .inl rfl
  | cons role roles ih =>
    rw [List.length_cons] at hread
    have hrole := builds_addToken hc h true role (by omega)
    have hread : roles.length ≤ (ts.significantFrom (b.addToken ts role).pos).length := by
      rw [hrole.significantFrom, List.length_drop]
      omega
    exact Settles.trans h hrole (builds_leaves hc (hrole.isOpen h) roles hread)
      (.inr (ends_addToken hc h role)) (ih (hrole.isOpen h) hread)

/-! ### Nodes -/

lemma isOpen_entered (b : Builder) (kind : NodeKind) :
    (b.entered kind).IsOpen b.nodes.size b.opened := by
  refine ⟨rfl, ?_⟩
  simp only [entered, add]
  split <;> simp

lemma openNode_eq_entered (h : b.IsOpen top outer) (kind : NodeKind) :
    b.openNode ts kind = (b.skipTrivia ts).entered kind := by
  have hopen := (builds_skipTrivia ts h false).isOpen h
  simp [openNode, entered, h.1, hopen.1]

/-- A node closes with what has come to the arena since it opened. -/
lemma closeNode_entered (h : b.IsOpen top outer) (kind : NodeKind) (ids : List Nat)
    (nodes : List Node) (errors : List SyntaxError) (past : Nat) :
    ((b.entered kind).grown ids nodes errors past).closeNode ts
      = b.grown [b.nodes.size] (⟨kind, b.pos, past, ids⟩ :: nodes) errors past := by
  simp only [closeNode, grown, entered, add, h.1, List.length_cons, List.headD_cons]
  rw [if_neg (by omega)]
  simp only [List.isEmpty_cons, Bool.false_eq_true, if_false]
  congr 1
  -- Before the node was pushed, its parent was given its number.
  have hsize (f : Node → Node) : b.nodes.size = (b.nodes.modify top f).size := by simp
  have hsize := hsize fun p => { p with children := p.children ++ [b.nodes.size] }
  generalize b.nodes.modify top _ = before at hsize
  rw [hsize, modify_modify_append _ _ _ _ (by simp), modify_push]
  simp

/-- The range of a node, from where its growth ends. -/
lemma Settles.spans {kind : NodeKind} {ids : List Nat} {nodes : List Node}
    {errors : List SyntaxError} {past : Nat} (hstart : (ts.kind b.pos).isTrivia = false)
    (h : Settles ts (b.entered kind) ((b.entered kind).grown ids nodes errors past)) :
    Spans ts b.pos past nodes := by
  refine ⟨hstart, fun hlt => ?_⟩
  obtain hpos | htoken | ⟨i, e, hi, he, hempty⟩ := h
  · exact absurd hpos (Nat.ne_of_gt hlt)
  · exact .inl htoken
  · refine .inr ⟨e, ?_, hempty⟩
    rw [grown, Array.getElem?_append_right (by simpa using hi)] at he
    exact List.mem_of_getElem? (by simpa using he)

/-- A node that has closed ends the growth of which it is the last part. -/
lemma ends_closed {kind : NodeKind} {ids : List Nat} {nodes : List Node}
    {errors : List SyntaxError} {past : Nat} (hkind : kind.isPiece = false)
    (hspans : Spans ts b.pos past nodes) (hle : b.pos ≤ past) :
    Ends ts b (b.grown [b.nodes.size] (⟨kind, b.pos, past, ids⟩ :: nodes) errors past) := by
  have hnode (i : Nat) (n : Node) (hn : (⟨kind, b.pos, past, ids⟩ :: nodes)[i]? = some n) :
      (b.grown [b.nodes.size] (⟨kind, b.pos, past, ids⟩ :: nodes) errors past).nodes[b.nodes.size + i]?
        = some n := by
    rw [grown, Array.getElem?_append_right (by simp)]
    simpa using hn
  rcases Nat.eq_or_lt_of_le hle with heq | hlt
  · exact .inr ⟨_, _, Nat.le_refl _, hnode 0 _ rfl, hkind, heq, rfl⟩
  obtain htoken | ⟨e, he, hempty⟩ := hspans.ends hlt
  · exact .inl htoken
  · obtain ⟨i, hi⟩ := List.getElem?_of_mem he
    exact .inr ⟨_, e, Nat.le_add_right _ (i + 1), hnode (i + 1) e hi, hempty⟩

/-- A construct is built around what is built inside it. -/
lemma builds_node (hc : ts.Closed) (h : b.IsOpen top outer) {kind : NodeKind} {items : List Item}
    {n : Nat} (hkind : Item.isConstruct kind = true)
    (hitems : Builds ts false n ((b.skipTrivia ts).entered kind)
      ((Item.eventsOf items).foldl (step ts) ((b.skipTrivia ts).entered kind)))
    (hsettles : Settles ts ((b.skipTrivia ts).entered kind)
      ((Item.eventsOf items).foldl (step ts) ((b.skipTrivia ts).entered kind))) :
    Builds ts false n b ((Item.node kind items).events.foldl (step ts) b)
      ∧ Ends ts b ((Item.node kind items).events.foldl (step ts) b) := by
  have hskip := builds_skipTrivia ts h false
  have hstart : (ts.kind (b.skipTrivia ts).pos).isTrivia = false := by
    rw [pos_skipTrivia ts h]
    exact hc.isTrivia_nextSignificant _
  have hopen := hskip.isOpen h
  rw [Item.events, List.foldl_cons, List.foldl_append, List.foldl_cons, List.foldl_nil, step, step,
    openNode_eq_entered h, ← Nat.zero_add n]
  refine (?_ : _ ∧ _).imp (hskip.trans h) (Ends.mono · hskip.size_le)
  generalize b.skipTrivia ts = b at hitems hsettles hstart hopen
  obtain ⟨ids, nodes, errors, past, hgrows, -, hread, heq⟩ := hitems
  rw [heq] at hsettles ⊢
  rw [closeNode_entered hopen]
  have hgrows : Grows ts (b.nodes.size + 1) b.pos b.errors.size ids nodes errors past := by
    simpa [entered, add, hopen.1] using hgrows
  have hspans := hsettles.spans hstart
  have hnode := Grows.node hkind hspans hgrows (.nil _ _ _)
  simp only [List.append_nil] at hnode
  refine ⟨⟨_, _, _, past, hnode, nofun, hread, rfl⟩, ends_closed ?_ hspans hgrows.le⟩
  cases kind <;> first | rfl | exact absurd hkind (by simp [Item.isConstruct])

/-- An open error node takes the number of the error that is recorded first in it. -/
lemma addError_entered (h : b.IsOpen top outer) (cause : Complaint) :
    (b.entered (.error 0)).addError ts cause
      = { b with errors := b.errors.push (errorAt ts cause b.pos) }.entered (.error b.errors.size) := by
  have hsize (f : Node → Node) : b.nodes.size = (b.nodes.modify top f).size := by simp
  simp only [addError, entered, add, h.1]
  congr 1
  have hsize := hsize fun p => { p with children := p.children ++ [b.nodes.size] }
  generalize b.nodes.modify top _ = before at hsize
  rw [hsize, modify_push]
  simp [NodeKind.isError]

lemma builds_reject (hc : ts.Closed) (h : b.IsOpen top outer) (cause : Complaint)
    (roles : List LeafRole) (hread : roles.length ≤ (ts.significantFrom b.pos).length) :
    Builds ts false roles.length b
        ((Item.node (.error 0) (.error cause :: roles.map .leaf)).events.foldl (step ts) b)
      ∧ Ends ts b ((Item.node (.error 0) (.error cause :: roles.map .leaf)).events.foldl (step ts) b) := by
  have hskip := builds_skipTrivia ts h false
  have hstart : (ts.kind (b.skipTrivia ts).pos).isTrivia = false := by
    rw [pos_skipTrivia ts h]
    exact hc.isTrivia_nextSignificant _
  have hopen := hskip.isOpen h
  have hread : roles.length ≤ (ts.significantFrom (b.skipTrivia ts).pos).length := by
    rwa [hskip.significantFrom]
  rw [Item.events, List.foldl_cons, List.foldl_append, List.foldl_cons, List.foldl_nil, step, step,
    openNode_eq_entered h, Item.eventsOf, Item.events, List.foldl_append, List.foldl_cons,
    List.foldl_nil, step, ← Nat.zero_add roles.length]
  refine (?_ : _ ∧ _).imp (hskip.trans h) (Ends.mono · hskip.size_le)
  generalize b.skipTrivia ts = b at hread hstart hopen
  rw [addError_entered hopen]
  have hrecord : ({ b with errors := b.errors.push (errorAt ts cause b.pos) } : Builder).IsOpen top outer :=
    hopen
  have hopen' := isOpen_entered { b with errors := b.errors.push (errorAt ts cause b.pos) }
    (.error b.errors.size)
  have hread' := by simpa [entered, add, hopen.1] using hread
  have hsettles := settles_leaves hc hopen' roles hread'
  obtain ⟨ids, nodes, errors, past, hgrows, hplain, hdrop, heq⟩ := builds_leaves hc hopen' roles hread'
  obtain ⟨rfl, hpieces⟩ := hplain rfl
  have hgrows : Grows ts (b.nodes.size + 1) b.pos (b.errors.size + 1) ids nodes [] past := by
    simpa [entered, add, hopen.1] using hgrows
  rw [heq] at hsettles ⊢
  have hspans := Settles.spans (b := { b with errors := b.errors.push (errorAt ts cause b.pos) })
    hstart hsettles
  have hnode := Grows.reject cause hspans hpieces hgrows (.nil _ _ _)
  simp only [List.append_nil] at hnode
  rw [closeNode_entered hrecord]
  refine ⟨⟨_, _, _, past, hnode, nofun, hdrop, ?_⟩, ends_closed rfl hspans hgrows.le⟩
  simp [grown]

/-! ### A whole forest -/

/-- The innermost open node is no error. -/
def TopIsConstruct (b : Builder) (top : Nat) : Prop :=
  ∀ n, b.nodes[top]? = some n → n.kind.isError = false

lemma TopIsConstruct.builds {plain : Bool} {n : Nat} {b' : Builder} (h : b.IsOpen top outer)
    (hb : b.TopIsConstruct top) (hbuilds : Builds ts plain n b b') : b'.TopIsConstruct top := by
  obtain ⟨ids, nodes, errors, past, -, -, -, rfl⟩ := hbuilds
  intro n hn
  have hlt := h.2
  simp only [grown, h.1, List.headD_cons, Array.getElem?_append, Array.size_modify, if_pos hlt,
    Array.getElem?_modify, if_true, Option.map_eq_some_iff] at hn
  obtain ⟨m, hm, rfl⟩ := hn
  exact hb m hm

lemma topIsConstruct_entered (h : b.IsOpen top outer) {kind : NodeKind}
    (hkind : Item.isConstruct kind = true) : (b.entered kind).TopIsConstruct b.nodes.size := by
  intro n hn
  simp only [entered, add, h.1, Array.getElem?_push, Array.size_modify, if_true] at hn
  obtain rfl := Option.some.inj hn
  cases kind <;> first | rfl | exact absurd hkind (by simp [Item.isConstruct])

lemma builds_error (h : b.IsOpen top outer) (hb : b.TopIsConstruct top) (cause : Complaint) :
    Builds ts false 0 b (b.addError ts cause) := by
  refine ⟨[], [], [errorAt ts cause b.pos], b.pos, .complain cause (.nil _ _ _), nofun, rfl, ?_⟩
  have hnodes : b.nodes.modify top (fun node =>
      if node.kind.isError then { node with kind := .error b.errors.size } else node) = b.nodes := by
    refine modify_id _ _ _ fun n hn => ?_
    rw [hb n hn]
    rfl
  simp only [addError, grown, h.1, hnodes]
  simp [modify_id, errorAt]

/-- Items are folded one after the other, all into the node that is open. -/
lemma builds_items {items : List Item} (hitems : ∀ x ∈ items, ∀ {b : Builder} {top : Nat}
      {outer : List Nat}, b.IsOpen top outer → b.TopIsConstruct top →
      x.leaves ≤ (ts.significantFrom b.pos).length →
      Builds ts false x.leaves b (x.events.foldl (step ts) b)
        ∧ Settles ts b (x.events.foldl (step ts) b))
    (h : b.IsOpen top outer) (hb : b.TopIsConstruct top)
    (hread : Item.leavesOf items ≤ (ts.significantFrom b.pos).length) :
    Builds ts false (Item.leavesOf items) b ((Item.eventsOf items).foldl (step ts) b)
      ∧ Settles ts b ((Item.eventsOf items).foldl (step ts) b) := by
  induction items generalizing b with
  | nil => exact ⟨.refl false b, .inl rfl⟩
  | cons x xs ih =>
    rw [Item.leavesOf] at hread ⊢
    rw [Item.eventsOf, List.foldl_append]
    obtain ⟨hx, hends⟩ := hitems x (by simp) h hb (by omega)
    obtain ⟨hxs, hends'⟩ := ih (fun y hy => hitems y (by simp [hy])) (hx.isOpen h) (hb.builds h hx)
      (by rw [hx.significantFrom, List.length_drop]; omega)
    exact ⟨hx.trans h hxs, .trans h hx hxs hends hends'⟩

/-- The events of a proper item are folded as the arena grows. -/
lemma builds_item (hc : ts.Closed) {x : Item} (hx : x.Proper) (h : b.IsOpen top outer)
    (hb : b.TopIsConstruct top) (hread : x.leaves ≤ (ts.significantFrom b.pos).length) :
    Builds ts false x.leaves b (x.events.foldl (step ts) b)
      ∧ Settles ts b (x.events.foldl (step ts) b) := by
  induction hx generalizing b top outer with
  | leaf role => exact ⟨builds_addToken hc h false role hread, .inr (ends_addToken hc h role)⟩
  | error cause => exact ⟨builds_error h hb cause, .inl rfl⟩
  | reject cause roles =>
    -- An error node is built with all its leaves at once, as it takes its number from its error.
    have hleaves : (Item.node (.error 0) (.error cause :: roles.map .leaf)).leaves = roles.length := by
      simp [Item.leaves, Item.leavesOf]
    rw [hleaves] at hread ⊢
    exact (builds_reject hc h cause roles hread).imp_right .inr
  | @node kind items hkind _ ih =>
    have hskip := builds_skipTrivia ts h false
    have hpos : ((b.skipTrivia ts).entered kind).pos = (b.skipTrivia ts).pos := rfl
    obtain ⟨hitems, hsettles⟩ := builds_items ih (isOpen_entered _ kind)
      (topIsConstruct_entered (hskip.isOpen h) hkind) (by rwa [hpos, hskip.significantFrom])
    exact (builds_node hc h hkind hitems hsettles).imp_right .inr

end Builder

/-! ### The arena of a run -/

/-- An arena is one root over all tokens, and the nodes after it grew while the tokens were read. -/
def IsGrown (t : Tree) (past : Nat) : Prop :=
  t.root = 0 ∧ ∃ ids nodes, Grows t.tokens 1 0 0 ids nodes t.errors.toList past
    ∧ t.nodes.toList = ⟨.root, 0, t.tokens.size, ids⟩ :: nodes

lemma make_eq_ok {ids : List Nat} {nodes : List Node} {errors : Array SyntaxError}
    {past : Nat} (h : Grows ts 1 0 0 ids nodes errors.toList past) :
    make ts (⟨.root, 0, ts.size, ids⟩ :: nodes).toArray 0 errors
      = .ok ⟨ts, (⟨.root, 0, ts.size, ids⟩ :: nodes).toArray, 0, errors⟩ := by
  have hholds := (holds_cons.1 (holds_toArray (⟨.root, 0, ts.size, ids⟩ :: nodes))).2
  have hpast : past ≤ ts.size :=
    Nat.le_trans (h.le_lastIndex (Nat.zero_le _)) (Nat.le_of_lt ts.lastIndex_lt_size)
  have hcheck : checkNodes (⟨.root, 0, ts.size, ids⟩ :: nodes).toArray (⟨.root, 0, ts.size, ids⟩ :: nodes)
      = .ok () := by
    rw [checkNodes, h.checkChildren hholds _ (Nat.le_refl _) hpast]
    exact h.checkNodes hholds
  rw [make, if_pos (by simp), List.toList_toArray, hcheck]

/-- The events of a proper root that the tokens suffice for describe a tree. -/
lemma ofEvents_eq_ok (hc : ts.Closed) {items : List Item} (hitems : ∀ x ∈ items, x.Proper)
    (hread : Item.leavesOf items ≤ (ts.significantFrom 0).length) :
    ∃ t past, ofEvents ts (Item.eventsOf [.node .root items]) = .ok t ∧ t.tokens = ts
      ∧ t.IsGrown past ∧ (ts.kind past).isTrivia = false
      ∧ ts.significantFrom past = (ts.significantFrom 0).drop (Item.leavesOf items) := by
  let start : Builder := Builder.entered .root {}
  have hopen : start.IsOpen 0 [] := Builder.isOpen_entered {} .root
  have htop : start.TopIsConstruct 0 := by
    intro n hn
    obtain rfl := Option.some.inj hn
    rfl
  have hbuilds :=
    (Builder.builds_items (fun x hx => Builder.builds_item hc (hitems x hx)) hopen htop hread).1
  have hskip := Builder.builds_skipTrivia ts (hbuilds.isOpen hopen) false
  have hpos := Builder.pos_skipTrivia ts (hbuilds.isOpen hopen)
  have hlength := (hbuilds.isOpen hopen).1
  obtain ⟨ids, nodes, errors, past, hgrows, -, hdrop, heq⟩ := hbuilds.trans hopen hskip
  have hclose : (Item.eventsOf [.node .root items]).foldl (Builder.step ts) {}
      = (((Item.eventsOf items).foldl (Builder.step ts) start).closeNode ts) := by
    simp [Item.eventsOf, Item.events, Builder.step, start, Builder.entered, Builder.openNode]
  -- The outermost node takes the trivia that are left, and spans all tokens.
  have hlast : (Item.eventsOf [.node .root items]).foldl (Builder.step ts) {}
      = ⟨ts.size, (⟨.root, 0, ts.size, ids⟩ :: nodes).toArray, [], errors.toArray, some 0⟩ := by
    rw [hclose, Builder.closeNode, if_pos (by rw [hlength]; rfl), heq]
    simp [Builder.grown, start, Builder.entered, Builder.add]
  have hgrows : Grows ts 1 0 0 ids nodes errors.toArray.toList past := hgrows
  refine ⟨⟨ts, (⟨.root, 0, ts.size, ids⟩ :: nodes).toArray, 0, errors.toArray⟩, past, ?_, rfl,
    ⟨rfl, ids, nodes, hgrows, rfl⟩, ?_, hdrop⟩
  · rw [ofEvents, hlast]
    exact make_eq_ok hgrows
  · have hpast : past = ts.nextSignificant ((Item.eventsOf items).foldl (Builder.step ts) start).pos := by
      rw [← hpos, heq]
      rfl
    rw [hpast]
    exact hc.isTrivia_nextSignificant _

/-! ### Parsing -/

/-- The kinds of the significant tokens of a stream, in order. -/
def significantKinds (ts : TokenStream) : List TokenKind :=
  (ts.significantFrom 0).map ts.kind

/-- The events of a run always describe a tree, which grew over all tokens. -/
lemma ofEvents_run (hc : ts.Closed) :
    ∃ t, ofEvents ts (Grammar.run ts).events.reverse = .ok t ∧ t.tokens = ts
      ∧ t.IsGrown ts.lastIndex := by
  obtain ⟨hreads, items, hforest⟩ := Grammar.reads_forest hc
  have hproper := hreads.proper
  have hleaves : Item.leavesOf items = (ts.significantFrom 0).length := by
    rw [← Grammar.leavesOf_forest hc, hforest]
    simp [Item.leavesOf, Item.leaves]
  rw [Grammar.events_run hc]
  rw [hforest] at hproper ⊢
  cases hproper _ (List.mem_singleton.2 rfl) with
  | node _ hitems =>
    obtain ⟨t, past, ht, htokens, hgrown, hpast, hread⟩ :=
      ofEvents_eq_ok hc hitems (Nat.le_of_eq hleaves)
    refine ⟨t, ht, htokens, ?_⟩
    -- Nothing significant is left, so the arena has grown up to the last token.
    have hle : past ≤ ts.lastIndex := by
      obtain ⟨-, ids, nodes, hgrows, -⟩ := hgrown
      rw [htokens] at hgrows
      exact hgrows.le_lastIndex (Nat.zero_le _)
    rcases Nat.lt_or_eq_of_le hle with hlt | rfl
    · rw [hleaves, List.drop_length, TokenStream.significantFrom_of_lt hlt, hpast] at hread
      exact absurd hread (by simp)
    · exact hgrown

lemma parse_eq (source : Text) :
    parse source = if (Grammar.run (.ofText source)).overrun then .error .overrun
      else (ofEvents (.ofText source) (Grammar.run (.ofText source)).events.reverse).mapError
        .malformed := rfl

/-- A source without a tree is one whose run overruns; every other tree grew over all tokens. -/
theorem parse_cases (source : Text) :
    ((Grammar.run (.ofText source)).overrun = true ∧ parse source = .error .overrun)
      ∨ ((Grammar.run (.ofText source)).overrun = false ∧ ∃ t, parse source = .ok t
        ∧ t.tokens = .ofText source ∧ t.IsGrown (TokenStream.ofText source).lastIndex) := by
  rw [parse_eq]
  cases h : (Grammar.run (.ofText source)).overrun with
  | true => exact .inl ⟨rfl, rfl⟩
  | false =>
    obtain ⟨t, ht, hrest⟩ := ofEvents_run (TokenStream.closed_ofText source)
    exact .inr ⟨rfl, t, by rw [ht]; rfl, hrest⟩

lemma exists_of_any (source : Text) (p : Tree → Bool) (h : (parse source).toOption.any p = true) :
    ∃ t, parse source = .ok t ∧ p t = true := by
  cases hparse : parse source with
  | error fault => simp [hparse, Except.toOption] at h
  | ok t => exact ⟨t, rfl, by simpa [hparse, Except.toOption] using h⟩

/--
A run closes every node that it opens, in the node around it, and its events always describe a tree. So
a source has a tree exactly if none of its constructs is cut short.
-/
theorem parse_isOk_iff (source : Text) :
    (Grammar.run (.ofText source)).events.reverse = Item.eventsOf (Grammar.forest (.ofText source))
      ∧ (∃ t, ofEvents (.ofText source) (Grammar.run (.ofText source)).events.reverse = .ok t)
      ∧ ((∃ t, parse source = .ok t) ↔ Item.areCutShort (significantKinds (.ofText source))
        (Grammar.forest (.ofText source)) = false) := by
  have hc := TokenStream.closed_ofText source
  refine ⟨Grammar.events_run hc, ?_, ?_⟩
  · obtain ⟨t, ht, -⟩ := ofEvents_run hc
    exact ⟨t, ht⟩
  · have hcut : Item.areCutShort (significantKinds (.ofText source)) (Grammar.forest (.ofText source))
        = (Grammar.run (.ofText source)).overrun := (Grammar.overrun_run hc).symm
    rw [hcut]
    obtain ⟨hoverrun, herror⟩ | ⟨hoverrun, t, ht, -⟩ := parse_cases source
    · simp [hoverrun, herror]
    · simp [hoverrun, ht]

/-- A table that ends after its `IF (` has no tree, and neither has a loop whose `CASE` runs to the end. -/
theorem no_tree_of_cut_short :
    (¬∃ t, parse "create table if (".toList = .ok t)
      ∧ ¬∃ t, parse "do $$begin for a, case in select x$$".toList = .ok t := by
  have none {source : Text} (h : (parse source).toOption.isNone = true) : ¬∃ t, parse source = .ok t := by
    rintro ⟨t, ht⟩
    rw [ht] at h
    exact Bool.false_ne_true h
  exact ⟨none (by decide +kernel), none (by decide +kernel)⟩

end Tree
end SqlLayout
