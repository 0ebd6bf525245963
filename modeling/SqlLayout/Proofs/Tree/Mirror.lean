import SqlLayout.Proofs.Grammar.ShapeStatements
import SqlLayout.Proofs.Tree.Preorder

/-!
# Arenas mirror the forests they are built from

`Grows` says which arenas can be built; `Mirrors ts id pos items ids nodes count past` says how the nodes
of an arena come from the items of a forest. Trivia are read only in front of a leaf or a node, so a node
starts with the first of its items and ends with the last. The arena of a source mirrors the forest of
its run, `reflects_of_parse`.
-/

namespace SqlLayout
namespace Tree

open Grammar (Item)

variable {ts : TokenStream} {t : Tree} {id pos past mid count : Nat} {ids : List Nat}
  {nodes : List Node} {items : List Item}

/-- Comments come to an arena while trivia are read up to a token that is none. -/
inductive Remarks (ts : TokenStream) : Nat → Nat → List Nat → List Node → Nat → Prop where
  | nil {id pos : Nat} :
    (ts.kind pos).isTrivia = false →
    Remarks ts id pos [] [] pos
  | blank {id pos past : Nat} {ids : List Nat} {nodes : List Node} :
    (ts.kind pos).isWhitespace = true →
    Remarks ts id (pos + 1) ids nodes past →
    Remarks ts id pos ids nodes past
  | comment {id pos past : Nat} {ids : List Nat} {nodes : List Node} :
    pos < ts.lastIndex →
    (ts.kind pos).isComment = true →
    Remarks ts (id + 1) (pos + 1) ids nodes past →
    Remarks ts id pos (id :: ids) (⟨.comment, pos, pos + 1, []⟩ :: nodes) past

/-- Nodes come to an arena as items are folded into it; `count` errors are recorded. -/
inductive Mirrors (ts : TokenStream) :
    Nat → Nat → List Item → List Nat → List Node → Nat → Nat → Prop where
  | nil (id pos : Nat) :
    Mirrors ts id pos [] [] [] 0 pos
  | leaf {id pos mid past count : Nat} {remarks ids : List Nat} {before nodes : List Node}
      {items : List Item} (role : LeafRole) :
    Remarks ts id pos remarks before mid →
    mid < ts.lastIndex →
    Mirrors ts (id + before.length + 1) (mid + 1) items ids nodes count past →
    Mirrors ts id pos (.leaf role :: items) (remarks ++ (id + before.length) :: ids)
      (before ++ ⟨.leaf role, mid, mid + 1, []⟩ :: nodes) count past
  | complain {id pos past count : Nat} {ids : List Nat} {nodes : List Node} {items : List Item}
      (cause : Complaint) :
    Mirrors ts id pos items ids nodes count past →
    Mirrors ts id pos (.error cause :: items) ids nodes (count + 1) past
  | node {id pos mid stop past count count' : Nat} {remarks inner ids : List Nat}
      {before within nodes : List Node} {xs items : List Item} {kind : NodeKind} :
    Item.isConstruct kind = true →
    Remarks ts id pos remarks before mid →
    Mirrors ts (id + before.length + 1) mid xs inner within count stop →
    Mirrors ts (id + before.length + 1 + within.length) stop items ids nodes count' past →
    Mirrors ts id pos (.node kind xs :: items) (remarks ++ (id + before.length) :: ids)
      (before ++ ⟨kind, mid, stop, inner⟩ :: (within ++ nodes)) (count + count') past
  | reject {id pos mid stop past count : Nat} {remarks inner ids : List Nat}
      {before within nodes : List Node} {roles : List LeafRole} {items : List Item} (index : Nat)
      (cause : Complaint) :
    Remarks ts id pos remarks before mid →
    Mirrors ts (id + before.length + 1) mid (roles.map .leaf) inner within 0 stop →
    Mirrors ts (id + before.length + 1 + within.length) stop items ids nodes count past →
    Mirrors ts id pos (.node (.error 0) (.error cause :: roles.map .leaf) :: items)
      (remarks ++ (id + before.length) :: ids)
      (before ++ ⟨.error index, mid, stop, inner⟩ :: (within ++ nodes)) (count + 1) past

lemma Mirrors.append {past' count' : Nat} {ids' : List Nat} {nodes' : List Node} {items' : List Item}
    (h : Mirrors ts id pos items ids nodes count past)
    (h' : Mirrors ts (id + nodes.length) past items' ids' nodes' count' past') :
    Mirrors ts id pos (items ++ items') (ids ++ ids') (nodes ++ nodes') (count + count') past' := by
  induction h with
  | nil id pos => simpa using h'
  | leaf role hremarks hlt _ ih =>
    have hnext := ih (by convert h' using 1; simp; omega)
    simpa using hnext.leaf role hremarks hlt
  | complain cause _ ih =>
    have hnext := ih h'
    rw [Nat.add_right_comm]
    exact .complain cause hnext
  | node hkind hremarks hinner _ _ ih =>
    have hnext := ih (by convert h' using 1; simp; omega)
    simpa [Nat.add_assoc] using Mirrors.node hkind hremarks hinner hnext
  | reject index cause hremarks hinner _ _ ih =>
    have hnext := ih (by convert h' using 1; simp; omega)
    rw [Nat.add_right_comm]
    simpa using Mirrors.reject index cause hremarks hinner hnext

/-- Leaves record no errors. -/
lemma Mirrors.count_leaves {roles : List LeafRole}
    (h : Mirrors ts id pos (roles.map .leaf) ids nodes count past) : count = 0 := by
  generalize hitems : roles.map Item.leaf = items at h
  induction h generalizing roles with
  | nil => rfl
  | leaf role _ _ _ ih =>
    cases roles with
    | nil => simp at hitems
    | cons role' roles => exact ih (List.cons.inj hitems).2
  | complain | node | reject => cases roles <;> simp at hitems

namespace Builder

variable {b b' : Builder} {top : Nat} {outer : List Nat}

/-- Items have been folded into the innermost open node. -/
def Draws (ts : TokenStream) (items : List Item) (b b' : Builder) : Prop :=
  ∃ ids nodes errors past, Mirrors ts b.nodes.size b.pos items ids nodes errors.length past
    ∧ b' = b.grown ids nodes errors past

lemma Draws.isOpen (hb : b.IsOpen top outer) (h : Draws ts items b b') : b'.IsOpen top outer := by
  obtain ⟨ids, nodes, errors, past, -, rfl⟩ := h
  exact hb.grown ids nodes errors past

lemma Draws.trans {items' : List Item} {b'' : Builder} (hb : b.IsOpen top outer)
    (h : Draws ts items b b') (h' : Draws ts items' b' b'') : Draws ts (items ++ items') b b'' := by
  obtain ⟨ids, nodes, errors, past, hmirrors, rfl⟩ := h
  obtain ⟨ids', nodes', errors', past', hmirrors', rfl⟩ := h'
  refine ⟨ids ++ ids', nodes ++ nodes', errors ++ errors', past', ?_, grown_grown hb ..⟩
  rw [List.length_append]
  exact hmirrors.append (by simpa [grown] using hmirrors')

lemma remarks_skipTrivia (hc : ts.Closed) (h : b.IsOpen top outer) :
    ∃ ids nodes past, Remarks ts b.nodes.size b.pos ids nodes past
      ∧ b.skipTrivia ts = b.grown ids nodes [] past := by
  fun_induction skipTrivia ts b with
  | case1 b kind htrivia c ih =>
    by_cases hcomment : kind.isComment = true
    · have hc : { c with pos := b.pos + 1 }
          = b.grown [b.nodes.size] [⟨.comment, b.pos, b.pos + 1, []⟩] [] (b.pos + 1) := by
        rw [← add_eq_grown h, show c = b.addLeaf .comment from dif_pos hcomment, addLeaf]
      rw [hc] at ih ⊢
      obtain ⟨ids, nodes, past, hremarks, heq⟩ := ih (h.grown _ _ _ _)
      refine ⟨b.nodes.size :: ids, _ :: nodes, past, .comment htrivia.1 hcomment ?_, ?_⟩
      · simpa [grown] using hremarks
      · rw [heq, grown_grown h]
        rfl
    · have hc : { c with pos := b.pos + 1 } = b.grown [] [] [] (b.pos + 1) := by
        rw [show c = b from dif_neg hcomment]
        simp [grown, modify_id]
      have hblank : kind.isWhitespace = true :=
        ((Bool.or_eq_true _ _).mp htrivia.2).resolve_right hcomment
      rw [hc] at ih ⊢
      obtain ⟨ids, nodes, past, hremarks, heq⟩ := ih (h.grown _ _ _ _)
      refine ⟨ids, nodes, past, .blank hblank ?_, ?_⟩
      · simpa [grown] using hremarks
      · rw [heq, grown_grown h]
        rfl
  | case2 b kind htrivia =>
    refine ⟨[], [], b.pos, .nil ?_, b.grown_nil.symm⟩
    have hnext : ts.nextSignificant b.pos = b.pos := by
      rw [TokenStream.nextSignificant, if_neg htrivia]
    have := hc.isTrivia_nextSignificant b.pos
    rwa [hnext] at this

lemma draws_addToken (hc : ts.Closed) (h : b.IsOpen top outer) (role : LeafRole)
    (hread : 0 < (ts.significantFrom b.pos).length) : Draws ts [.leaf role] b (b.addToken ts role) := by
  obtain ⟨ids, nodes, past, hremarks, heq⟩ := remarks_skipTrivia hc h
  have hpast : past = ts.nextSignificant b.pos := by
    rw [← pos_skipTrivia ts h, heq]
    rfl
  have hlt : past < ts.lastIndex := by
    by_contra hge
    rw [hpast] at hge
    rw [TokenStream.significantFrom_eq_nil_of_nextSignificant (Nat.le_of_not_lt hge)] at hread
    exact absurd hread (by simp)
  refine ⟨_, _, [], past + 1, .leaf role hremarks hlt (.nil _ _), ?_⟩
  have hopen := h.grown ids nodes [] past
  rw [addToken, heq, addLeaf]
  change { (b.grown ids nodes [] past).add _ with pos := past + 1 } = _
  rw [add_eq_grown hopen, grown_grown h]
  simp [grown]

/-- A construct with what is folded inside it. -/
lemma draws_node (hc : ts.Closed) (h : b.IsOpen top outer) {kind : NodeKind}
    (hkind : Item.isConstruct kind = true)
    (hitems : Draws ts items ((b.skipTrivia ts).entered kind)
      ((Item.eventsOf items).foldl (step ts) ((b.skipTrivia ts).entered kind))) :
    Draws ts [.node kind items] b ((Item.node kind items).events.foldl (step ts) b) := by
  obtain ⟨remarks, before, mid, hremarks, heq⟩ := remarks_skipTrivia hc h
  have hopen := h.grown remarks before [] mid
  rw [Item.events, List.foldl_cons, List.foldl_append, List.foldl_cons, List.foldl_nil, step, step,
    openNode_eq_entered h]
  rw [heq] at hitems ⊢
  obtain ⟨ids, nodes, errors, past, hmirrors, heq'⟩ := hitems
  rw [heq', closeNode_entered hopen, grown_grown h]
  have hmirrors : Mirrors ts (b.nodes.size + before.length + 1) mid items ids nodes errors.length past := by
    simpa [entered, add, grown, h.1, Nat.add_assoc] using hmirrors
  refine ⟨_, _, _, past, ?_, rfl⟩
  have hnode := Mirrors.node hkind hremarks hmirrors (.nil _ _)
  simpa [grown] using hnode

lemma draws_leaves (hc : ts.Closed) (h : b.IsOpen top outer) (roles : List LeafRole)
    (hread : roles.length ≤ (ts.significantFrom b.pos).length) :
    Draws ts (roles.map .leaf) b ((Item.eventsOf (roles.map .leaf)).foldl (step ts) b) := by
  induction roles generalizing b with
  | nil => exact ⟨[], [], [], b.pos, .nil _ _, b.grown_nil.symm⟩
  | cons role roles ih =>
    rw [List.length_cons] at hread
    have hrole := builds_addToken hc h true role (by omega)
    have hrest := ih (hrole.isOpen h) (by rw [hrole.significantFrom, List.length_drop]; omega)
    exact (draws_addToken hc h role (by omega)).trans h hrest

/--
A rejected stretch of tokens becomes an error node with the number of its error. It covers the tokens from
the next significant one up to the last of its leaves.
-/
lemma exists_foldl_reject (hc : ts.Closed) (h : b.IsOpen top outer) (cause : Complaint)
    (roles : List LeafRole) (hread : roles.length ≤ (ts.significantFrom b.pos).length) :
    ∃ remarks before mid ids nodes past, Remarks ts b.nodes.size b.pos remarks before mid
      ∧ Mirrors ts (b.nodes.size + before.length + 1) mid (roles.map .leaf) ids nodes 0 past
      ∧ (Item.node (.error 0) (.error cause :: roles.map .leaf)).events.foldl (step ts) b
        = b.grown (remarks ++ [b.nodes.size + before.length])
          (before ++ ⟨.error b.errors.size, mid, past, ids⟩ :: nodes) [errorAt ts cause mid] past := by
  obtain ⟨remarks, before, mid, hremarks, heq⟩ := remarks_skipTrivia hc h
  have hopen := h.grown remarks before [] mid
  have hread : roles.length ≤ (ts.significantFrom (b.grown remarks before [] mid).pos).length := by
    rw [← heq, pos_skipTrivia ts h, ts.significantFrom_nextSignificant]
    exact hread
  rw [Item.events, List.foldl_cons, List.foldl_append, List.foldl_cons, List.foldl_nil, step, step,
    openNode_eq_entered h, Item.eventsOf, Item.events, List.foldl_append, List.foldl_cons,
    List.foldl_nil, step, heq, addError_entered hopen]
  -- The error is recorded first, so that the node takes its number.
  generalize herror : errorAt ts cause (b.grown remarks before [] mid).pos = error
  have hrecord : { b.grown remarks before [] mid with
      errors := (b.grown remarks before [] mid).errors.push error } = b.grown remarks before [error] mid := by
    simp [grown]
  have hopen' := h.grown remarks before [error] mid
  rw [hrecord]
  obtain ⟨ids, nodes, errors, past, hmirrors, heq'⟩ := draws_leaves hc
    (isOpen_entered (b.grown remarks before [error] mid) (.error (b.grown remarks before [] mid).errors.size))
    roles hread
  obtain rfl : errors = [] := List.length_eq_zero_iff.1 hmirrors.count_leaves
  rw [heq', closeNode_entered hopen', grown_grown h]
  refine ⟨remarks, before, mid, ids, nodes, past, hremarks, ?_, ?_⟩
  · simpa [entered, add, grown, h.1, Nat.add_assoc] using hmirrors
  · rw [← herror]
    simp [grown]

lemma draws_reject (hc : ts.Closed) (h : b.IsOpen top outer) (cause : Complaint)
    (roles : List LeafRole) (hread : roles.length ≤ (ts.significantFrom b.pos).length) :
    Draws ts [.node (.error 0) (.error cause :: roles.map .leaf)] b
      ((Item.node (.error 0) (.error cause :: roles.map .leaf)).events.foldl (step ts) b) := by
  obtain ⟨remarks, before, mid, ids, nodes, past, hremarks, hmirrors, heq⟩ :=
    exists_foldl_reject hc h cause roles hread
  refine ⟨_, _, _, past, ?_, heq⟩
  have hnode := Mirrors.reject b.errors.size cause hremarks hmirrors (.nil _ _)
  simpa using hnode

lemma addError_eq_grown (h : b.IsOpen top outer) (hb : b.TopIsConstruct top) (cause : Complaint) :
    b.addError ts cause = b.grown [] [] [errorAt ts cause b.pos] b.pos := by
  have hnodes : b.nodes.modify top (fun node =>
      if node.kind.isError then { node with kind := .error b.errors.size } else node) = b.nodes := by
    refine modify_id _ _ _ fun n hn => ?_
    rw [hb n hn]
    rfl
  simp only [addError, grown, h.1, hnodes]
  simp [modify_id, errorAt]

/-- Items are folded one after the other. -/
lemma draws_items {items : List Item} (hitems : ∀ x ∈ items, x.Proper ∧ ∀ {b : Builder} {top : Nat}
      {outer : List Nat}, b.IsOpen top outer → b.TopIsConstruct top →
      x.leaves ≤ (ts.significantFrom b.pos).length → Draws ts [x] b (x.events.foldl (step ts) b))
    (hc : ts.Closed) (h : b.IsOpen top outer) (hb : b.TopIsConstruct top)
    (hread : Item.leavesOf items ≤ (ts.significantFrom b.pos).length) :
    Draws ts items b ((Item.eventsOf items).foldl (step ts) b) := by
  induction items generalizing b with
  | nil => exact ⟨[], [], [], b.pos, .nil _ _, b.grown_nil.symm⟩
  | cons x xs ih =>
    rw [Item.leavesOf] at hread
    rw [Item.eventsOf, List.foldl_append]
    obtain ⟨hproper, hx⟩ := hitems x (by simp)
    have hbuilds := (builds_item hc hproper h hb (by omega)).1
    have hxs := ih (fun y hy => hitems y (by simp [hy])) (hbuilds.isOpen h) (hb.builds h hbuilds)
      (by rw [hbuilds.significantFrom, List.length_drop]; omega)
    exact (hx h hb (by omega)).trans h hxs

/-- The arena mirrors every proper item that is folded into it. -/
lemma draws_item (hc : ts.Closed) {x : Item} (hx : x.Proper) (h : b.IsOpen top outer)
    (hb : b.TopIsConstruct top) (hread : x.leaves ≤ (ts.significantFrom b.pos).length) :
    Draws ts [x] b (x.events.foldl (step ts) b) := by
  induction hx generalizing b top outer with
  | leaf role => exact draws_addToken hc h role hread
  | error cause =>
    exact ⟨[], [], [errorAt ts cause b.pos], b.pos, .complain cause (.nil _ _), addError_eq_grown h hb cause⟩
  | reject cause roles =>
    have hleaves : (Item.node (.error 0) (.error cause :: roles.map .leaf)).leaves = roles.length := by
      simp [Item.leaves, Item.leavesOf]
    exact draws_reject hc h cause roles (hleaves ▸ hread)
  | @node kind items hkind hproper ih =>
    have hskip := builds_skipTrivia ts h false
    have hpos : ((b.skipTrivia ts).entered kind).pos = (b.skipTrivia ts).pos := rfl
    refine draws_node hc h hkind (draws_items (fun x hx => ⟨hproper x hx, ih x hx⟩) hc
      (isOpen_entered _ kind) (topIsConstruct_entered (hskip.isOpen h) hkind) ?_)
    rwa [hpos, hskip.significantFrom]

end Builder

/-! ### The tree of a source -/

lemma eq_of_make {nodes : Array Node} {root : Nat} {errors : Array SyntaxError}
    (h : make ts nodes root errors = .ok t) : t = ⟨ts, nodes, root, errors⟩ := by
  unfold make at h
  split at h
  · split at h
    · cases h
    · exact (Except.ok.inj h).symm
  · cases h

/-- An arena is one root over nodes that mirror the items of a forest. -/
def Reflects (t : Tree) (items : List Item) : Prop :=
  ∃ ids nodes past remarks before stop,
    Mirrors t.tokens 1 0 items ids nodes t.errors.size past
      ∧ Remarks t.tokens (1 + nodes.length) past remarks before stop
      ∧ t.root = 0
      ∧ t.nodes.toList = ⟨.root, 0, t.tokens.size, ids ++ remarks⟩ :: (nodes ++ before)

lemma reflects_of_ofEvents (hc : ts.Closed) (hproper : ∀ x ∈ items, x.Proper)
    (hread : Item.leavesOf items ≤ (ts.significantFrom 0).length)
    (h : ofEvents ts (Item.eventsOf [.node .root items]) = .ok t) : t.tokens = ts ∧ t.Reflects items := by
  let start : Builder := Builder.entered .root {}
  have hopen : start.IsOpen 0 [] := Builder.isOpen_entered {} .root
  have htop : start.TopIsConstruct 0 := by
    intro n hn
    obtain rfl := Option.some.inj hn
    rfl
  obtain ⟨ids, nodes, errors, past, hmirrors, heq⟩ := Builder.draws_items
    (fun x hx => ⟨hproper x hx, Builder.draws_item hc (hproper x hx)⟩) hc hopen htop hread
  have hgrown := hopen.grown ids nodes errors past
  obtain ⟨remarks, before, stop, hremarks, hskip⟩ := Builder.remarks_skipTrivia hc hgrown
  have hclose : (Item.eventsOf [.node .root items]).foldl (Builder.step ts) {}
      = (((Item.eventsOf items).foldl (Builder.step ts) start).closeNode ts) := by
    simp [Item.eventsOf, Item.events, Builder.step, start, Builder.entered, Builder.openNode]
  -- The outermost node takes the comments that are left, and spans all tokens.
  have hlast : (Item.eventsOf [.node .root items]).foldl (Builder.step ts) {}
      = ⟨ts.size, (⟨.root, 0, ts.size, ids ++ remarks⟩ :: (nodes ++ before)).toArray, [], errors.toArray,
          some 0⟩ := by
    rw [hclose, heq, Builder.closeNode, if_pos (by rw [hgrown.1]; rfl), hskip, Builder.grown_grown hopen]
    simp [Builder.grown, start, Builder.entered, Builder.add]
  rw [ofEvents, hlast] at h
  obtain rfl := eq_of_make h
  refine ⟨rfl, ids, nodes, past, remarks, before, stop, ?_, ?_, rfl, rfl⟩
  · simpa [start, Builder.entered, Builder.add] using hmirrors
  · simpa [start, Builder.entered, Builder.add, Builder.grown, Nat.add_comm] using hremarks

/-- The tree of a source mirrors the forest of its run. -/
lemma reflects_of_parse {source : Text} (h : parse source = .ok t) :
    t.tokens = .ofText source
      ∧ ∃ items, Grammar.forest (.ofText source) = [.node .root items] ∧ t.Reflects items := by
  have hc := TokenStream.closed_ofText source
  obtain ⟨hreads, items, hforest⟩ := Grammar.reads_forest hc
  have hproper : ∀ x ∈ items, x.Proper := by
    have hroot := hreads.proper
    rw [hforest] at hroot
    cases hroot _ (List.mem_singleton.2 rfl) with
    | node _ hitems => exact hitems
  have hread : Item.leavesOf items ≤ ((TokenStream.ofText source).significantFrom 0).length := by
    rw [← Grammar.leavesOf_forest hc, hforest]
    simp [Item.leavesOf, Item.leaves]
  have hevents : ofEvents (.ofText source) (Item.eventsOf [.node .root items]) = .ok t := by
    rw [parse_eq, Grammar.events_run hc, hforest] at h
    split at h
    · cases h
    · cases hof : ofEvents (.ofText source) (Item.eventsOf [.node .root items]) with
      | error fault => rw [hof] at h; cases h
      | ok t' =>
        rw [hof] at h
        exact congrArg Except.ok (Except.ok.inj h)
  obtain ⟨htokens, hreflects⟩ := reflects_of_ofEvents hc hproper hread hevents
  exact ⟨htokens, items, hforest, hreflects⟩

end Tree
end SqlLayout
