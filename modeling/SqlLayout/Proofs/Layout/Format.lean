import SqlLayout.Proofs.Content
import SqlLayout.Proofs.Layout.RoomEngine
import SqlLayout.Proofs.Layout.Routines
import SqlLayout.Proofs.Layout.Statements
import SqlLayout.Proofs.Token.Solid

/-!
# Formatting loses nothing

A piece that is taken from the cache shows its node as well as one that is laid out, so the layout of
every node shows it. The formatted text of a source is then made of its significant tokens and its
comments, each once and in order, with spaces and line feeds between them.
-/

namespace SqlLayout

namespace Sheet

/-! ### Kept pieces -/

variable {sh : Sheet} {render : Render} {id : Nat} {ctx : Context} {column : Nat}

lemma Shown.rebase {piece moved : Piece} {parts : Parts} (h : Shown sh piece parts)
    (hmoved : piece.rebase? column = some moved) : Shown sh moved parts := by
  cases piece with
  | fragment start text last =>
    obtain rfl := Option.some.inj hmoved
    exact h
  | lines buf =>
    rw [Piece.rebase?] at hmoved
    split at hmoved
    · obtain rfl := Option.some.inj hmoved
      refine Shows.congr h ?_ ?_
      · unfold LineBuffer.shifted LineBuffer.body
        split <;> rfl
      · unfold LineBuffer.shifted
        split <;> exact fun h => h
    · contradiction

/-- A cache keeps only pieces with a property of their nodes and contexts. -/
def Kept (P : Nat → Context → Piece → Prop) (cache : Cache Policy) : Prop :=
  ∀ id entry, cache.slots[id]? = some (some entry) → P id entry.context entry.piece

/-- The cache answers with pieces that have a property, and keeps what is laid out for it. -/
lemma ensures_cached_of {P : Nat → Context → Piece → Prop} {layout : Render}
    (hmove : ∀ {piece moved}, P id ctx piece → piece.rebase? column = some moved → P id ctx moved)
    (h : Ensures (Kept P) (layout id ctx column) (P id ctx)) :
    Ensures (Kept P) (sh.cached layout id ctx column) (P id ctx) := by
  intro cache hcache
  have hkept : Kept P (cache.get id ctx column sh.policy sh.lineWidth).2 := by
    rw [Kept, Cache.slots_get]
    exact hcache
  rw [cached_eq]
  cases hget : (cache.get id ctx column sh.policy sh.lineWidth).1 with
  | some piece =>
    obtain ⟨e, hslot, rfl, hpiece⟩ := Cache.get_eq_some hget
    refine ⟨?_, hkept⟩
    -- The kept piece is answered as it is, or moved to the column that is asked for.
    rcases hpiece with rfl | hmoved
    · exact hcache id e hslot
    · exact hmove (hcache id e hslot) hmoved
  | none =>
    obtain ⟨hpost, hkept⟩ := h _ hkept
    refine ⟨hpost, fun i e he => ?_⟩
    rcases Cache.slots_insert he with he | ⟨rfl, rfl⟩
    · exact hkept i e he
    · exact hpost

/-- The cache answers with pieces that show their nodes. -/
lemma ensures_cached {layout : Render}
    (h : ∀ ctx column, Ensures (Keeps sh) (layout id ctx column) (Fits sh id ctx)) :
    Ensures (Keeps sh) (sh.cached layout id ctx column) (Fits sh id ctx) :=
  ensures_cached_of (fun hfits hmoved => hfits.imp_left fun hshown => hshown.rebase hmoved) (h ctx column)

/-! ### The layout of every node -/

lemma ensures_layoutNode (hsh : sh.Clean) (hid : id < sh.tree.size)
    (hr : ∀ child ∈ sh.visibleChildren id, Renders sh render child) :
    Ensures (Keeps sh) (sh.layoutNode render id ctx column) (Fits sh id ctx) := by
  have fits {kind : NodeKind} {layout : Layout Piece} (hkind : sh.tree.kind id = kind)
      (hpiece : kind.isPiece = false)
      (h : Ensures (Keeps sh) layout (Shown sh · (sh.contents (sh.visibleChildren id)))) :
      Ensures (Keeps sh) layout (Fits sh id ctx) := by
    rw [← hsh.content_eq (hkind ▸ hpiece)] at h
    exact h.mono fun piece hshown => .inl hshown
  unfold layoutNode
  cases hkind : sh.tree.kind id with
  | root => exact fits hkind rfl (ensures_root hsh hr)
  | statementList => exact fits hkind rfl (ensures_statementList hsh hr)
  | statement => exact fits hkind rfl (ensures_statement hsh hr)
  | clause => exact fits hkind rfl (ensures_clause hsh hr)
  | commaList => exact fits hkind rfl (ensures_commaList hsh hr)
  | listElement | expression | declarationPart =>
    exact fits hkind rfl (ensures_expression hsh hr)
  | parenthesized => exact fits hkind rfl (ensures_group hsh hr)
  | functionCall => exact fits hkind rfl (ensures_functionCall hsh hr)
  | caseOf | caseStatement => exact fits hkind rfl (ensures_caseOf hsh hr)
  | whenBranch =>
    -- A branch that is only measured may be laid out in part.
    have hcontent : sh.content id = _ := hsh.content_eq (by rw [hkind]; rfl)
    refine (ensures_whenBranch hsh hr).mono fun piece hshown => ?_
    rw [← hcontent] at hshown
    cases hmeasuring : ctx.isMeasuring with
    | false => exact .inl (hshown hmeasuring)
    | true => exact .inr ⟨hmeasuring, hkind⟩
  | elseBranch => exact fits hkind rfl (ensures_elseBranch hsh hr)
  | functionDefinition => exact fits hkind rfl (ensures_routineDefinition hsh hr)
  | tableDefinition => exact fits hkind rfl (ensures_tableDefinition hsh hr)
  | doBlock => exact fits hkind rfl (ensures_doBlock hsh hr)
  | functionBody => exact fits hkind rfl (ensures_routineBody hsh hr)
  | declarationList => exact fits hkind rfl (ensures_declarationList hsh hkind hr)
  | declaration => exact fits hkind rfl (ensures_declaration hsh hr)
  | declareSection => exact fits hkind rfl (ensures_declareSection hsh hr)
  | exceptionSection => exact fits hkind rfl (ensures_exceptionSection hsh hr)
  | block | ifStatement | conditionalBranch | loopStatement =>
    exact fits hkind rfl (ensures_control hsh hr)
  | leaf role => exact .pure (.inl (shown_leaf hsh hid hkind))
  | comment => exact .pure (.inl (shown_comment hsh hid hkind))
  | error index =>
    -- A clean sheet has no such node.
    have hconstruct := hsh.faithful.construct hid (by rw [hkind]; rfl)
    rw [hkind] at hconstruct
    exact absurd hconstruct (by simp [Grammar.Item.isConstruct])

/-- Depth enough for all nodes after a node is enough to lay it out. -/
lemma renders_renderTo (hsh : sh.Clean) {depth : Nat} (hid : id < sh.tree.size)
    (hdepth : sh.tree.size ≤ depth + id) : Renders sh (sh.renderTo depth) id := by
  induction depth generalizing id with
  | zero => omega
  | succ depth ih =>
    -- Children have greater numbers than their node, so they need less depth than it does.
    refine ⟨hid, fun ctx column => ensures_cached fun ctx column => ?_⟩
    refine ensures_layoutNode hsh hid fun child hchild => ?_
    obtain ⟨hlt, hsize⟩ := hsh.faithful.ordered id child (List.mem_of_mem_filter hchild)
    exact ih hsize (by omega)

/-! ### Pieces and gaps -/

/-- Whether a text is made of spaces and line feeds. -/
def isGap (t : Text) : Bool :=
  t.all fun c => c == ' ' || c == '\n'

/--
A text is put together from a gap at its start and leaves and comments, each with the gap after it. The
gap after a line comment holds a line feed, unless it ends the text.
-/
structure Assembled (sh : Sheet) (out lead : Text) (written : List (Nat × Text)) : Prop where
  text : out = lead ++ written.flatMap fun w => sh.pieceText w.1 ++ w.2
  lead_gap : isGap lead = true
  gap : ∀ w ∈ written, isGap w.2 = true
  piece : ∀ w ∈ written, sh.isLeaf w.1 = true ∨ sh.isComment w.1 = true
  feed : ∀ w ∈ written.dropLast, sh.isLineComment w.1 = true → '\n' ∈ w.2

variable {t out lead : Text} {ids : List Nat} {d : Bool} {written : List (Nat × Text)} {parts : Parts}

lemma isGap_concat (h : isGap t = true) {c : Char} (hc : c = ' ' ∨ c = '\n') :
    isGap (t ++ [c]) = true := by
  rw [isGap, List.all_append, ← isGap, h]
  rcases hc with rfl | rfl <;> rfl

/-- A space or a line feed at the end belongs to the gap after the last piece. -/
lemma Assembled.concat (h : Assembled sh out lead written) {c : Char} (hc : c = ' ' ∨ c = '\n') :
    ∃ lead' written', Assembled sh (out ++ [c]) lead' written'
      ∧ written'.map Prod.fst = written.map Prod.fst
      ∧ (((∀ w ∈ written, sh.isLineComment w.1 = true → '\n' ∈ w.2) ∨ c = '\n') →
          ∀ w ∈ written', sh.isLineComment w.1 = true → '\n' ∈ w.2) := by
  rcases List.eq_nil_or_concat' written with rfl | ⟨front, w, rfl⟩
  · refine ⟨lead ++ [c], [], ⟨?_, isGap_concat h.lead_gap hc, nofun, nofun, nofun⟩, rfl, nofun⟩
    simp [h.text]
  · have hfront : ∀ w ∈ front, sh.isLineComment w.1 = true → '\n' ∈ w.2 := by simpa using h.feed
    have hgap := List.forall_mem_append.1 h.gap
    rw [List.forall_mem_singleton] at hgap
    have hpiece := List.forall_mem_append.1 h.piece
    rw [List.forall_mem_singleton] at hpiece
    refine ⟨lead, front ++ [(w.1, w.2 ++ [c])], ⟨?_, h.lead_gap, ?_, ?_, ?_⟩, by simp, ?_⟩
    · simp [h.text]
    · exact List.forall_mem_append.2 ⟨hgap.1, List.forall_mem_singleton.2 (isGap_concat hgap.2 hc)⟩
    · exact List.forall_mem_append.2 ⟨hpiece.1, List.forall_mem_singleton.2 hpiece.2⟩
    · simpa using hfront
    · intro hall
      refine List.forall_mem_append.2 ⟨hfront, List.forall_mem_singleton.2 fun hline => ?_⟩
      rcases hall with hall | rfl
      · exact List.mem_append_left _ (hall w (by simp) hline)
      · simp

lemma isLeaf_or_isComment_of_solid (h : Text.Solid (sh.pieceText id)) :
    sh.isLeaf id = true ∨ sh.isComment id = true := by
  have hne := h.ne_nil
  unfold pieceText at hne
  split at hne
  · next role hkind => exact .inl (by simp [isLeaf, hkind])
  · next hkind => exact .inr (by simp [isComment, hkind])
  · exact absurd rfl hne

/-- Written texts are put together from pieces and gaps. -/
lemma Written.assembled (h : Written sh t ids d) :
    ∃ lead written, Assembled sh t lead written ∧ written.map Prod.fst = ids
      ∧ (d = false → ∀ w ∈ written, sh.isLineComment w.1 = true → '\n' ∈ w.2) := by
  induction h with
  | nil => exact ⟨[], [], ⟨rfl, rfl, nofun, nofun, nofun⟩, rfl, nofun⟩
  | space _ ih =>
    obtain ⟨lead, written, hassembled, rfl, hclosed⟩ := ih
    obtain ⟨lead', written', hassembled', hids, hclosed'⟩ := hassembled.concat (.inl rfl)
    exact ⟨lead', written', hassembled', hids, fun hd => hclosed' (.inl (hclosed hd))⟩
  | feed _ ih =>
    obtain ⟨lead, written, hassembled, rfl, -⟩ := ih
    obtain ⟨lead', written', hassembled', hids, hclosed'⟩ := hassembled.concat (.inr rfl)
    exact ⟨lead', written', hassembled', hids, fun _ => hclosed' (.inr rfl)⟩
  | @piece t ids id hsolid _ ih =>
    obtain ⟨lead, written, hassembled, rfl, hclosed⟩ := ih
    refine ⟨lead, written ++ [(id, [])], ⟨?_, hassembled.lead_gap, ?_, ?_, ?_⟩, by simp, ?_⟩
    · simp [hassembled.text]
    · exact List.forall_mem_append.2 ⟨hassembled.gap, List.forall_mem_singleton.2 rfl⟩
    · refine List.forall_mem_append.2 ⟨hassembled.piece, List.forall_mem_singleton.2 ?_⟩
      exact isLeaf_or_isComment_of_solid hsolid
    · simpa using hclosed rfl
    · intro hline
      refine List.forall_mem_append.2 ⟨hclosed rfl, List.forall_mem_singleton.2 fun h => ?_⟩
      rw [hline] at h
      exact absurd h (by simp)

/-! ### The text of a source -/

lemma Shown.bufferOf {piece : Piece} (h : Shown sh piece parts) : Shows sh (bufferOf piece) parts := by
  cases piece with
  | fragment start text last =>
    have hshows : Shows sh (LineBuffer.startingAt 0) {} := shows_empty rfl
    exact (hshows.closed rfl).append h
  | lines buf => exact h

/-- The text of a whole tree is written from what the piece of its root shows. -/
lemma Shown.finish {piece : Piece} (h : Shown sh piece parts) :
    ∃ ids d, Written sh (sh.finish piece) ids d ∧ sh.partsOf ids = parts := by
  obtain ⟨ids, d, hw, hparts, -⟩ := h.bufferOf
  obtain ⟨d, hbody⟩ := hw.trimEnd
  have htext : Written sh ([] ++ (Sheet.bufferOf piece).trimTrailing.text) ids d := by
    rw [LineBuffer.text_eq]
    have hlead : Written sh ([] ++ Text.spaces (Sheet.bufferOf piece).trimTrailing.start) [] false :=
      Written.nil.spaces _
    exact hlead.append hbody
  obtain ⟨d, htext⟩ := htext.trimEnd
  rw [List.nil_append] at htext
  unfold Sheet.finish
  dsimp only
  split_ifs with hempty
  · rw [List.isEmpty_iff.1 hempty] at htext
    exact ⟨ids, d, htext, hparts⟩
  · exact ⟨ids, d, htext, hparts⟩
  · exact ⟨ids, false, .feed htext, hparts⟩

lemma clean_of_separates {policy : Policy} {source : Text} {tree : Tree}
    (hparse : Tree.parse source = .ok tree) (herrors : tree.errors.isEmpty = true)
    (hcommas : ∀ {id}, policy.lists.comma = .before → tree.kind id = .declarationList →
      tree.separates false (tree.children id) = true)
    (hlexed : ∀ token ∈ (TokenStream.ofText source).tokens, token.kind ≠ .error) :
    Clean ⟨tree, policy⟩ := by
  obtain ⟨htokens, hfaithful⟩ := Tree.faithful_of_parse hparse herrors
  have hkind (i : Nat) : (TokenStream.ofText source).kind i ≠ .error :=
    hlexed _ (Array.getElem_mem _)
  refine ⟨hfaithful, @fun id role hid hleaf => ?_, fun hid hcomment => ?_, hcommas⟩
  · obtain ⟨hlt, htrivia⟩ := hfaithful.leaf hid hleaf
    rw [htokens] at hlt htrivia
    have hsolid : Text.Solid (tree.leafText id) := by
      rw [Tree.leafText, htokens]
      exact TokenStream.solid_text hlt htrivia (hkind _)
    unfold leafText
    dsimp only
    split
    · exact hsolid.letterCase _
    · exact hsolid
  · obtain ⟨hlt, hkind⟩ := hfaithful.comment hid hcomment
    dsimp only
    rw [htokens] at hlt hkind ⊢
    exact TokenStream.solid_trimEnd_text hlt hkind

lemma clean_of_parse {policy : Policy} {source : Text} {tree : Tree} (hparse : Tree.parse source = .ok tree)
    (herrors : tree.errors.isEmpty = true) (hcomma : policy.lists.comma = .after)
    (hlexed : ∀ token ∈ (TokenStream.ofText source).tokens, token.kind ≠ .error) :
    Clean ⟨tree, policy⟩ :=
  clean_of_separates hparse herrors (fun hbefore => absurd (hcomma.symm.trans hbefore) nofun) hlexed

end Sheet

/--
The formatted text of a source without errors is put together from its significant tokens and its
comments, each once and in order, or without its comments if they are removed. This text is what the
program writes, unless its columns get out of bounds; that they do not is certain where the tree has space.
-/
theorem format_assembles_tokens {policy : Policy} {source : Text} {tree : Tree}
    (hparse : Tree.parse source = .ok tree) (herrors : tree.errors.isEmpty = true)
    (hlexed : ∀ token ∈ (TokenStream.ofText source).tokens, token.kind ≠ .error)
    (hcomma : policy.lists.comma = .after) :
    ∃ out lead written, format policy source = .ok out
      ∧ (formatBounded policy source = .ok out ∨ ∃ fault, formatBounded policy source = .error (.layout fault))
      ∧ ((Sheet.mk tree policy).HasSpace → formatBounded policy source = .ok out)
      ∧ Sheet.Assembled ⟨tree, policy⟩ out lead written
      ∧ ((written.map Prod.fst).filter (Sheet.mk tree policy).isLeaf).map tree.firstToken
        = Tree.tokensBetween (.ofText source) (!·.isTrivia) 0 (TokenStream.ofText source).lastIndex
      ∧ ((written.map Prod.fst).filter (Sheet.mk tree policy).isComment).map tree.firstToken
        = if policy.removeComments then []
          else Tree.tokensBetween (.ofText source) (·.isComment) 0
            (TokenStream.ofText source).lastIndex := by
  obtain ⟨htokens, hfaithful⟩ := Tree.faithful_of_parse hparse herrors
  have hclean := Sheet.clean_of_parse hparse herrors hcomma hlexed
  have hrenders : (Sheet.mk tree policy).Renders (Sheet.mk tree policy).render tree.root :=
    Sheet.renders_renderTo hclean hfaithful.root_lt (by dsimp only; omega)
  have hempty : (Sheet.mk tree policy).Keeps {} := by
    intro id entry hentry
    simp at hentry
  obtain ⟨hfits, -⟩ := hrenders.2 {} 0 {} hempty
  obtain ⟨ids, d, hw, hparts⟩ := (hfits.shown (.inl rfl)).finish
  obtain ⟨lead, written, hassembled, rfl, -⟩ := hw.assembled
  refine ⟨_, lead, written, format_of_parse hparse, formatBounded_eq_or_fault hparse policy,
    formatBounded_of_hasSpace hparse, hassembled, ?_, ?_⟩
  · have hleaves := congrArg (·.leaves.map tree.firstToken) hparts
    rw [← htokens]
    exact hleaves.trans hfaithful.leaves
  · have hcomments := congrArg (·.comments.map tree.firstToken) hparts
    rw [← htokens]
    refine hcomments.trans ?_
    dsimp only [Sheet.content]
    split
    · rfl
    · exact hfaithful.comments

/-- A query with comments of both sorts, of which tokens 0, 2, 3 and 8 carry content. -/
theorem format_assembles_tokens_of_query :
    ∃ tree out lead written,
      Tree.parse "select A, -- one\n b /* two */".toList = .ok tree
      ∧ format {} "select A, -- one\n b /* two */".toList = .ok out
      ∧ formatBounded {} "select A, -- one\n b /* two */".toList = .ok out
      ∧ Sheet.Assembled ⟨tree, {}⟩ out lead written
      ∧ ((written.map Prod.fst).filter (Sheet.mk tree {}).isLeaf).map tree.firstToken = [0, 2, 3, 8]
      ∧ ((written.map Prod.fst).filter (Sheet.mk tree {}).isComment).map tree.firstToken = [5, 10] := by
  obtain ⟨tree, hparse, hfine⟩ := Tree.exists_of_any "select A, -- one\n b /* two */".toList
    (fun tree => tree.errors.isEmpty && decide (Sheet.mk tree {}).HasSpace) (by decide +kernel)
  obtain ⟨herrors, hspace⟩ := Bool.and_eq_true_iff.1 hfine
  obtain ⟨out, lead, written, hout, -, hbounded, hassembled, hleaves, hcomments⟩ :=
    @format_assembles_tokens {} _ tree hparse herrors (by decide +kernel) rfl
  refine ⟨tree, out, lead, written, hparse, hout, hbounded (of_decide_eq_true hspace), hassembled, ?_, ?_⟩
  · rw [hleaves]
    decide +kernel
  · rw [hcomments]
    decide +kernel

/-- Data types that are to line up too far right for any line. -/
theorem no_text_of_far_types :
    ∃ tree, Tree.parse "create table t (id int, name text)".toList = .ok tree
      ∧ tree.errors.isEmpty = true
      ∧ (∀ token ∈ (TokenStream.ofText "create table t (id int, name text)".toList).tokens,
        token.kind ≠ .error)
      ∧ formatBounded
        { lineWidth := ⟨18446744073709551615, .one⟩, arguments := { dataType := .fixed 10000000000000000000 } }
        "create table t (id int, name text)".toList = .error (.layout .capacity) := by
  obtain ⟨tree, hparse, herrors⟩ := Tree.exists_of_any "create table t (id int, name text)".toList
    (fun tree => tree.errors.isEmpty) (by decide +kernel)
  exact ⟨tree, hparse, herrors, by decide +kernel, by decide +kernel⟩

end SqlLayout
