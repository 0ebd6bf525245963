import SqlLayout.Layout.Inline
import SqlLayout.Proofs.Layout.Written
import SqlLayout.Proofs.Tree.Preorder

/-!
# Layouts that lose nothing

A layout is judged by what it ensures on caches with a property, here that they keep only pieces that
show their nodes. The module holds the rules for such judgements, for the operations that all renderers
share, and for the form of a node on one line.

A piece shows all of a node, with one exception: a branch of `CASE` that is only measured is laid out up
to its `THEN`.
-/

namespace SqlLayout

/-- Whether a context asks for a branch of `CASE` only up to its `THEN`. -/
def Context.isMeasuring (ctx : Context) : Bool :=
  match ctx.overlay with
  | .caseBranch .measuring _ => true
  | _ => false

/--
Whether every comma among children comes before a child that it separates from those before it, and not
before a comma, a closing bracket or the end; `held` says that a comma came last. Comments do not count.
-/
def Tree.separates (t : Tree) (held : Bool) : List Nat → Bool
  | [] => !held
  | child :: rest =>
    if t.isLeafOf child .rParen then !held && t.separates false rest
    else if t.isLeafOf child .comma then !held && t.separates true rest
    else if t.kind child = .comment then t.separates held rest
    else t.separates false rest

namespace Sheet

open Text (Solid)

variable {sh : Sheet} {α β : Type}

/--
A sheet whose tree is faithful and whose leaves and comments are solid, so that trimming a line leaves
them alone. If commas start lines, those of declaration lists have declarations to stand before.
-/
structure Clean (sh : Sheet) : Prop where
  faithful : sh.tree.Faithful
  solid_leaf {id : Nat} {role : LeafRole} : id < sh.tree.size → sh.tree.kind id = .leaf role →
    Solid (sh.leafText id role)
  solid_comment {id : Nat} : id < sh.tree.size → sh.tree.kind id = .comment →
    Solid (Text.trimEnd (sh.tree.tokens.text (sh.tree.firstToken id)))
  commas {id : Nat} : sh.policy.lists.comma = .before → sh.tree.kind id = .declarationList →
    sh.tree.separates false (sh.tree.children id) = true

/-! ### The content of nodes -/

/-- The leaves below a node, and the comments that are not removed. -/
def content (sh : Sheet) (id : Nat) : Parts where
  leaves := (sh.tree.preorder id).filter sh.isLeaf
  comments := if sh.policy.removeComments then [] else (sh.tree.preorder id).filter sh.isComment

/-- The content of nodes one after the other. -/
def contents (sh : Sheet) (ids : List Nat) : Parts where
  leaves := ids.flatMap fun id => (sh.content id).leaves
  comments := ids.flatMap fun id => (sh.content id).comments

@[simp] lemma contents_nil : sh.contents [] = {} := rfl

@[simp] lemma contents_cons (id : Nat) (ids : List Nat) :
    sh.contents (id :: ids) = sh.content id ++ sh.contents ids := rfl

@[simp] lemma contents_append (ids ids' : List Nat) :
    sh.contents (ids ++ ids') = sh.contents ids ++ sh.contents ids' := by
  simp [contents, Parts.append_eq]

lemma contents_of_isPrefix {head ids : List Nat} (h : head <+: ids) :
    sh.contents head ++ sh.contents (ids.drop head.length) = sh.contents ids := by
  rw [← contents_append, List.prefix_iff_eq_append.1 h]

lemma Clean.preorder_piece (h : sh.Clean) {id : Nat} (hid : id < sh.tree.size)
    (hpiece : (sh.tree.kind id).isPiece = true) : sh.tree.preorder id = [id] := by
  rw [Tree.preorder_eq h.faithful.ordered, h.faithful.childless hid hpiece]
  rfl

lemma Clean.content_leaf (h : sh.Clean) {id : Nat} {role : LeafRole} (hid : id < sh.tree.size)
    (hkind : sh.tree.kind id = .leaf role) : sh.content id = sh.partsOf [id] := by
  have hcomment : sh.isComment id = false := by simp [isComment, hkind]
  rw [content, partsOf, h.preorder_piece hid (by rw [hkind]; rfl)]
  simp [hcomment]

lemma Clean.content_comment (h : sh.Clean) {id : Nat} (hid : id < sh.tree.size)
    (hkind : sh.tree.kind id = .comment) :
    sh.content id = if sh.policy.removeComments then {} else sh.partsOf [id] := by
  have hleaf : sh.isLeaf id = false := by simp [isLeaf, hkind]
  rw [content, partsOf, h.preorder_piece hid (by rw [hkind]; rfl)]
  split <;> simp [hleaf]

/-- Comments that are removed have no content. -/
lemma Clean.contents_visible (h : sh.Clean) {ids : List Nat} (hids : ∀ id ∈ ids, id < sh.tree.size) :
    sh.contents (ids.filter fun id => !(sh.policy.removeComments && sh.isComment id))
      = sh.contents ids := by
  induction ids with
  | nil => rfl
  | cons id ids ih =>
    have ih := ih fun i hi => hids i (by simp [hi])
    rw [List.filter_cons]
    split
    · rw [contents_cons, contents_cons, ih]
    · next hhidden =>
      obtain ⟨hremove, hkind⟩ : sh.policy.removeComments = true ∧ sh.tree.kind id = .comment := by
        simpa [isComment] using hhidden
      rw [contents_cons, h.content_comment (hids id (by simp)) hkind, if_pos hremove, ih]
      rfl

/-- The content of a node that is no leaf or comment is the content of the children laid out for it. -/
lemma Clean.content_eq (h : sh.Clean) {id : Nat} (hpiece : (sh.tree.kind id).isPiece = false) :
    sh.content id = sh.contents (sh.visibleChildren id) := by
  have hleaf : sh.isLeaf id = false := by
    unfold isLeaf
    split
    · next role hkind => exact absurd hpiece (by simp [hkind, NodeKind.isPiece])
    · rfl
  have hcomment : sh.isComment id = false := by
    rw [isComment, beq_eq_false_iff_ne]
    intro hkind
    exact absurd hpiece (by simp [hkind, NodeKind.isPiece])
  rw [visibleChildren, h.contents_visible fun child hchild => (h.faithful.ordered id child hchild).2,
    content, Tree.preorder_eq h.faithful.ordered, contents]
  simp only [content, List.filter_cons, hleaf, hcomment, Bool.false_eq_true, if_false,
    List.filter_flatMap]
  split <;> simp

/-! ### Judgements -/

/-- A piece shows its node, unless it is a branch that was only measured. -/
def Fits (sh : Sheet) (id : Nat) (ctx : Context) (piece : Piece) : Prop :=
  Shown sh piece (sh.content id) ∨ (ctx.isMeasuring = true ∧ sh.tree.kind id = .whenBranch)

/-- A cache keeps only pieces that show their nodes. -/
def Keeps (sh : Sheet) (cache : Cache Policy) : Prop :=
  ∀ id entry, cache.slots[id]? = some (some entry) → Fits sh id entry.context entry.piece

/-- What a layout ensures on caches with a property, which they keep. -/
def Ensures (I : Cache Policy → Prop) (layout : Layout α) (post : α → Prop) : Prop :=
  ∀ cache, I cache → post (layout cache).1 ∧ I (layout cache).2

variable {I : Cache Policy → Prop}

lemma Ensures.pure {post : α → Prop} {a : α} (h : post a) : Ensures I (Pure.pure a) post :=
  fun _ hcache => ⟨h, hcache⟩

lemma Ensures.bind {layout : Layout α} {next : α → Layout β} {mid : α → Prop} {post : β → Prop}
    (h : Ensures I layout mid) (hnext : ∀ a, mid a → Ensures I (next a) post) :
    Ensures I (layout >>= next) post := by
  intro cache hcache
  obtain ⟨hmid, hcache⟩ := h cache hcache
  exact hnext _ hmid _ hcache

lemma Ensures.mono {layout : Layout α} {mid post : α → Prop} (h : Ensures I layout mid)
    (hpost : ∀ a, mid a → post a) : Ensures I layout post := by
  intro cache hcache
  obtain ⟨hmid, hcache⟩ := h cache hcache
  exact ⟨hpost _ hmid, hcache⟩

lemma Ensures.and {layout : Layout α} {post post' : α → Prop} (h : Ensures I layout post)
    (h' : Ensures I layout post') : Ensures I layout fun a => post a ∧ post' a :=
  fun cache hcache => ⟨⟨(h cache hcache).1, (h' cache hcache).1⟩, (h cache hcache).2⟩

lemma Ensures.ite {c : Prop} [Decidable c] {layout layout' : Layout α} {post : α → Prop}
    (h : c → Ensures I layout post) (h' : ¬c → Ensures I layout' post) :
    Ensures I (if c then layout else layout') post := by
  split
  · next hc => exact h hc
  · next hc => exact h' hc

/-- What every step of a loop keeps, the loop keeps. -/
lemma Ensures.steps {σ γ : Type} {step : σ → γ → Layout σ} {xs : List γ} {inv : σ → Prop}
    (hstep : ∀ x ∈ xs, ∀ s, inv s → Ensures I (step s x) inv) {s : σ} (h : inv s) :
    Ensures I (xs.foldlM step s) inv := by
  induction xs generalizing s with
  | nil => exact .pure h
  | cons x xs ih =>
    rw [List.foldlM_cons]
    exact (hstep x (by simp) s h).bind fun s hs => ih (fun y hy => hstep y (by simp [hy])) hs

/-- What each step of a loop adds, the loop adds for all; `ids` are the nodes that a step lays out. -/
lemma Ensures.loop {σ γ : Type} {step : σ → γ → Layout σ} {xs : List γ} (inv : σ → Parts → Prop)
    (ids : γ → List Nat) (hstep : ∀ x ∈ xs, ∀ s parts, inv s parts →
      Ensures (Keeps sh) (step s x) (inv · (parts ++ sh.contents (ids x))))
    {s : σ} {parts : Parts} (h : inv s parts) :
    Ensures (Keeps sh) (xs.foldlM step s) (inv · (parts ++ sh.contents (xs.flatMap ids))) := by
  induction xs generalizing s parts with
  | nil => exact .pure (by simpa using h)
  | cons x xs ih =>
    rw [List.foldlM_cons]
    refine (hstep x (by simp) s parts h).bind fun s hs => ?_
    have hrest := ih (fun y hy => hstep y (by simp [hy])) hs
    simpa using hrest

/-- A layout that goes through children one after the other adds the content of each. -/
lemma Ensures.foldlM {γ : Type} {step : LineBuffer → γ → Layout LineBuffer} {xs : List γ}
    {children : List Nat} (child : γ → Nat) (hchildren : xs.map child = children)
    (hstep : ∀ x, child x ∈ children → ∀ buf parts, Shows sh buf parts →
      Ensures (Keeps sh) (step buf x) (Shows sh · (parts ++ sh.content (child x))))
    {buf : LineBuffer} {parts : Parts} (h : Shows sh buf parts) :
    Ensures (Keeps sh) (xs.foldlM step buf) (Shows sh · (parts ++ sh.contents children)) := by
  subst hchildren
  rw [List.map_eq_flatMap]
  refine .loop (Shows sh) (fun x => [child x]) (fun x hx buf parts h => ?_) h
  simpa using hstep x (List.mem_map_of_mem hx) buf parts h

lemma map_withRest {γ : Type} (xs : List γ) : (withRest xs).map Prod.fst = xs := by
  induction xs with
  | nil => rfl
  | cons x xs ih => simp [withRest, ih]

lemma map_withRest_zipIdx {γ : Type} (xs : List γ) :
    (withRest xs).zipIdx.map (Prod.fst ∘ Prod.fst) = xs := by
  rw [← List.map_map, List.zipIdx_map_fst, map_withRest]

/-! ### Appending to a buffer -/

variable {render : Render} {id : Nat} {ctx : Context} {buf : LineBuffer} {parts : Parts}

lemma Clean.pieceText_comment (h : sh.Clean) (hid : id < sh.tree.size)
    (hkind : sh.tree.kind id = .comment) :
    Text.join ['\n'] (Text.linesOf (Text.trimEnd (sh.tree.tokens.text (sh.tree.firstToken id))))
        = sh.pieceText id
      ∧ Solid (sh.pieceText id) := by
  have hsolid := h.solid_comment hid hkind
  have htext : sh.pieceText id
      = Text.withoutReturns (Text.trimEnd (sh.tree.tokens.text (sh.tree.firstToken id))) := by
    rw [pieceText, hkind]
  rw [htext]
  exact ⟨Text.join_linesOf hsolid, hsolid.withoutReturns⟩

/-- Appending a comment adds it, and a line comment ends the line. -/
lemma Shows.appendComment (hsh : sh.Clean) (hid : id < sh.tree.size)
    (hkind : sh.tree.kind id = .comment) (h : Shows sh buf parts) :
    Shows sh (sh.appendComment id buf) (parts ++ sh.content id) := by
  rw [hsh.content_comment hid hkind]
  unfold Sheet.appendComment
  split
  · simpa using h
  obtain ⟨htext, hsolid⟩ := hsh.pieceText_comment hid hkind
  dsimp only
  -- However the comment is placed, no line break is due before it.
  generalize hplaced : (if buf.pendingBreak || _ then buf.newline else buf.separate _) = placed
  have hshows : Shows sh placed parts := hplaced ▸ .ite h.newline (h.separate _)
  have hbreak : placed.pendingBreak = false := by
    rw [← hplaced]
    split
    · rfl
    · exact pendingBreak_separate _ _
  generalize hwritten : (placed.pushVerbatim _).setLast _ = written
  have hbody : written.body = placed.body ++ sh.pieceText id := by
    rw [← hwritten, LineBuffer.body_setLast, LineBuffer.body_pushVerbatim, hbreak,
      if_neg Bool.false_ne_true, htext]
  split
  · exact hshows.piece hbreak hsolid ((LineBuffer.body_forceBreak written).trans hbody) fun _ => rfl
  · next hend =>
    refine hshows.piece hbreak hsolid hbody fun hline => ?_
    rw [isLineComment, Bool.and_eq_true] at hline
    exact absurd (by simp [hline.2]) hend

/-- The layout of a node gives a piece that shows it. -/
def Renders (sh : Sheet) (render : Render) (id : Nat) : Prop :=
  id < sh.tree.size ∧ ∀ ctx column, Ensures (Keeps sh) (render id ctx column) (Fits sh id ctx)

/-- A context under which all of a node is laid out. -/
def Whole (sh : Sheet) (ctx : Context) (id : Nat) : Prop :=
  ctx.isMeasuring = false ∨ sh.tree.kind id ≠ .whenBranch

lemma Fits.shown {piece : Piece} (h : Fits sh id ctx piece) (hwhole : Whole sh ctx id) :
    Shown sh piece (sh.content id) := by
  rcases h with h | ⟨hctx, hkind⟩
  · exact h
  · rcases hwhole with hno | hno
    · rw [hctx] at hno
      exact absurd hno (by simp)
    · exact absurd hkind hno

lemma ensures_appendHere_of_closed (hr : Renders sh render id) (hwhole : Whole sh ctx id)
    (h : Closed sh buf parts) :
    Ensures (Keeps sh) (appendHere render id ctx buf) (Shows sh · (parts ++ sh.content id)) := by
  refine (hr.2 ctx buf.column).bind fun piece hpiece => .pure ?_
  exact h.append (hpiece.shown hwhole)

lemma ensures_appendHere (hr : Renders sh render id) (hwhole : Whole sh ctx id)
    (h : Shows sh buf parts) (hbreak : buf.pendingBreak = false) :
    Ensures (Keeps sh) (appendHere render id ctx buf) (Shows sh · (parts ++ sh.content id)) :=
  ensures_appendHere_of_closed hr hwhole (h.closed hbreak)

lemma ensures_appendChild (hsh : sh.Clean) (parent : NodeKind) (hr : Renders sh render id)
    (hwhole : Whole sh ctx id) (h : Shows sh buf parts) :
    Ensures (Keeps sh) (sh.appendChild render parent id ctx buf) (Shows sh · (parts ++ sh.content id)) := by
  unfold appendChild
  split
  · next hcomment =>
    exact .pure (h.appendComment hsh hr.1 (by simpa [isComment] using hcomment))
  · exact ensures_appendHere hr hwhole (h.separate _) (pendingBreak_separate _ _)

lemma ensures_appendChildren (hsh : sh.Clean) (parent : NodeKind) {children : List Nat}
    (hr : ∀ child ∈ children, Renders sh render child) (hwhole : ∀ child ∈ children, Whole sh ctx child)
    (h : Shows sh buf parts) :
    Ensures (Keeps sh) (sh.appendChildren render parent children ctx buf)
      (Shows sh · (parts ++ sh.contents children)) := by
  refine .foldlM (fun child => child) (List.map_id' _) (fun child hchild buf parts h => ?_) h
  exact ensures_appendChild hsh parent (hr child hchild) (hwhole child hchild) h

/-! ### Contexts -/

lemma whole_child (indent trailing : Nat) : Whole sh (Context.child indent trailing) id := .inl rfl

lemma whole_indentedAt (indent : Nat) : Whole sh (Context.indentedAt indent) id := .inl rfl

lemma whole_of_isLeafOf {kind : TokenKind} (h : sh.tree.isLeafOf id kind = true) : Whole sh ctx id := by
  refine .inr fun hkind => ?_
  rw [Tree.isLeafOf, hkind] at h
  exact absurd h (by simp)

/-! ### Nodes on one line -/

lemma ensures_inline (hsh : sh.Clean) (hr : ∀ child ∈ sh.visibleChildren id, Renders sh render child)
    (ctx : Context) (column : Nat) :
    Ensures (Keeps sh) (sh.inline render id ctx column) (Shown sh · (sh.contents (sh.visibleChildren id))) := by
  unfold inline
  dsimp only
  have hstart : Shows sh (LineBuffer.startingAt column) {} := shows_empty rfl
  refine (Ensures.foldlM Prod.fst (map_withRest _) (fun x hx buf parts h => ?_) hstart).bind
    fun buf hbuf => .pure hbuf
  refine ensures_appendChild hsh _ (hr x.1 hx) (.inl ?_) h
  dsimp only [Context.isMeasuring]
  split_ifs <;> rfl

/-- What both forms of a node ensure, the one that is taken ensures. -/
lemma ensures_onOneLineOr_of {post : Piece → Prop} {broken : Layout LineBuffer} {column : Nat}
    (hinline : Ensures I (sh.inline render id ctx column) post)
    (hbroken : Ensures I broken fun buf => post (.lines buf)) :
    Ensures I (sh.onOneLineOr render broken id ctx column) post := by
  -- The line is given up where it does not fit, and then nothing of it is used.
  have hsingle : Ensures I (sh.singleLine? render id ctx column)
      (fun piece? => ∀ piece, piece? = some piece → post piece) := by
    unfold singleLine?
    split
    · exact .pure nofun
    · refine .ite (fun _ => ?_) fun _ => .pure nofun
      refine hinline.bind fun piece hpiece => .pure ?_
      split
      · intro piece' heq
        obtain rfl := Option.some.inj heq
        exact hpiece
      · nofun
  refine hsingle.bind fun piece? hpiece? => ?_
  cases piece? with
  | some piece => exact .pure (hpiece? piece rfl)
  | none => exact hbroken.bind fun buf hbuf => .pure hbuf

/-- A node shows its children, on one line or broken. -/
lemma ensures_onOneLineOr (hsh : sh.Clean)
    (hr : ∀ child ∈ sh.visibleChildren id, Renders sh render child) {broken : Layout LineBuffer}
    {column : Nat} (hbroken : Ensures (Keeps sh) broken (Shows sh · (sh.contents (sh.visibleChildren id)))) :
    Ensures (Keeps sh) (sh.onOneLineOr render broken id ctx column)
      (Shown sh · (sh.contents (sh.visibleChildren id))) :=
  ensures_onOneLineOr_of (ensures_inline hsh hr ctx column) hbroken

end Sheet
end SqlLayout
