import SqlLayout.Proofs.Layout.Cached
import SqlLayout.Proofs.Layout.Ensures
import SqlLayout.Proofs.Tree.Formed

/-!
# Widths and layouts agree

A node with a width is laid out on one line of that width wherever it fits. Widths are found from the
last tokens of children and lines are written from the last token written, so the two meet in a buffer on
one line that knows both: `Straight b start column last`.
-/

namespace SqlLayout

/-! ### Limits -/

namespace Threshold

variable {ts : List Threshold} {limit : Weighted Nat} {n m : Nat}

lemma topWeight_append_of (ts : List Threshold) (n m : Nat) (limit : Weighted Nat) :
    topWeight (ts ++ [of n limit]) = topWeight (ts ++ [of m limit]) := by
  simp [topWeight, of]

/-- A quantity within its limit may take the place of any other. -/
lemma allow_of_le (h : allow (ts ++ [of n limit]) = true) (hm : m ≤ limit.value) :
    allow (ts ++ [of m limit]) = true := by
  rw [allow, List.all_eq_true] at h ⊢
  intro t ht
  obtain ⟨ht, hweight⟩ := List.mem_filter.1 ht
  rcases List.mem_append.1 ht with hmem | hmem
  · refine h t (List.mem_filter.2 ⟨List.mem_append_left _ hmem, ?_⟩)
    rwa [topWeight_append_of ts n m]
  · rw [List.mem_singleton.1 hmem]
    exact decide_eq_true hm

end Threshold

/-! ### Comments on one line -/

namespace Lexeme

open Text (Solid)

lemma solid_take_blockComment {depth n : Nat} {t : Text} (h : blockCommentLength? depth t = some n) :
    Solid (t.take n) := by
  fun_induction blockCommentLength? depth t generalizing n with
  | case1 depth rest ih =>
    obtain ⟨m, hm, rfl⟩ := Option.map_eq_some_iff.1 h
    exact (ih hm).append ['/', '*']
  | case2 rest =>
    obtain rfl := Option.some.inj h
    exact ⟨['*'], '/', rfl, by decide⟩
  | case3 depth rest ih =>
    obtain ⟨m, hm, rfl⟩ := Option.map_eq_some_iff.1 h
    exact (ih hm).append ['*', '/']
  | case4 depth c rest _ _ _ ih =>
    obtain ⟨m, hm, rfl⟩ := Option.map_eq_some_iff.1 h
    exact (ih hm).append [c]
  | case5 => contradiction

/-- A block comment ends with its closing mark. -/
lemma solid_blockComment (s : Surroundings) (first : Char) (rest : Text) :
    (front s first rest).1 = .blockComment → Solid (first :: rest.take (front s first rest).2) := by
  apply TokenStream.front_elim (P := fun token => token.1 = .blockComment →
    Solid (first :: rest.take token.2))
  case spacing => nofun
  case feed => nofun
  case line => nofun
  case block =>
    intro n _ hstar hn _
    obtain ⟨more, rfl⟩ := List.head?_eq_some_iff.1 hstar
    rw [Nat.add_comm]
    exact (solid_take_blockComment hn).append [first, '*']
  case unclosed => nofun
  case string => exact fun _ h => absurd (h ▸ quotedToken_kind _ _ _ _) (by simp)
  case name => exact fun _ h => absurd (h ▸ quotedToken_kind _ _ _ _) (by simp)
  case marked => exact fun _ h => absurd (h ▸ quotedToken_kind _ _ _ _) (by simp)
  case dollar => exact fun _ h => absurd (h ▸ dollarToken_kind _ _) (by simp)
  case number => exact fun _ h => absurd (h ▸ numberToken_kind _ _) (by simp)
  case word =>
    intro _ h
    unfold TokenKind.ofWord at h
    split at h <;> exact absurd h nofun
  case symbol => exact fun h => absurd (h ▸ symbolToken_kind _ _) (by simp)

end Lexeme

lemma TokenStream.solid_blockComment {source : Text} {i : Nat} (h : (ofText source).kind i = .blockComment) :
    Text.Solid ((ofText source).text i) := by
  obtain ⟨s, first, more, -, hkind, htext, -⟩ := exists_front (lt_lastIndex_of_kind h nofun)
  rw [htext]
  exact Lexeme.solid_blockComment s first more (hkind.trans h)

/-! ### Buffers on one line -/

/-- A buffer of one line from `start` to `column`, in which `last` is the last token written, if any is. -/
structure LineBuffer.Straight (b : LineBuffer) (start column : Nat) (last : Option Nat) : Prop where
  finished : b.finished = []
  start : b.start = start
  column : b.column = column
  pendingBreak : b.pendingBreak = false
  fresh : b.fresh = last.isNone
  last : b.last = last

/-- A piece of one line from `start` to `column`, in which `last` is the last token written. -/
def Piece.Straight (start column : Nat) (last : Option Nat) : Piece → Prop
  | .fragment s text l => s = start ∧ s + Text.width text = column ∧ l = last ∧ l.isSome
  | .lines b => b.Straight start column last

namespace LineBuffer.Straight

variable {b : LineBuffer} {start column : Nat} {last : Option Nat}

lemma startingAt (column : Nat) : (LineBuffer.startingAt column).Straight column column none :=
  ⟨rfl, rfl, rfl, rfl, rfl, rfl⟩

lemma separate (h : b.Straight start column last) (space : Bool) (hspace : space = true → last.isSome) :
    (b.separate space).Straight start (column + if space then 1 else 0) last := by
  unfold LineBuffer.separate
  rw [h.pendingBreak, if_neg Bool.false_ne_true]
  cases space with
  | false => exact h
  | true =>
    have hfresh : b.fresh = false := by
      rw [h.fresh]
      simpa using hspace rfl
    rw [if_pos rfl, if_pos rfl, LineBuffer.pushSpace, hfresh, h.pendingBreak]
    exact ⟨h.finished, h.start, by simp [write, h.column], h.pendingBreak, hfresh.symm.trans h.fresh,
      h.last⟩

lemma append {piece : Piece} {next i : Nat} (h : b.Straight start column last)
    (hpiece : piece.Straight column next (some i)) : (b.append piece).Straight start next (some i) := by
  cases piece with
  | fragment s text l =>
    obtain ⟨rfl, rfl, rfl, -⟩ := hpiece
    exact ⟨h.finished, h.start, by simp [LineBuffer.append, setLast, write, h.column], h.pendingBreak, rfl,
      rfl⟩
  | lines other =>
    have hother : other.Straight column next (some i) := hpiece
    simp only [LineBuffer.append, appendBuffer, hother.finished, List.reverse_nil]
    exact ⟨h.finished, h.start, hother.column, hother.pendingBreak, by simp [hother.fresh],
      by simp [hother.last]⟩

/-- A text on one line moves the cursor by its width. -/
lemma pushVerbatim (h : b.Straight start column last) {text : Text} (hsolid : Text.Solid text)
    (hfeed : '\n' ∉ text) (i : Nat) :
    ((b.pushVerbatim (Text.trimEnd text)).setLast (some i)).Straight start (column + Text.width text)
      (some i) := by
  have hlines : (Text.pieces '\n' text).map (Text.dropEndWhile (· == '\r')) = [text] :=
    hsolid.linesOf hfeed
  rw [hsolid.trimEnd, LineBuffer.pushVerbatim, hlines]
  dsimp only [List.foldl_nil]
  rw [LineBuffer.push, h.pendingBreak, if_neg Bool.false_ne_true]
  exact ⟨h.finished, h.start, by simp [write, setLast, h.column], h.pendingBreak, rfl, rfl⟩

end LineBuffer.Straight

/-! ### Widths -/

namespace Sheet

variable {sh : Sheet} {id column w : Nat} {ctx : Context}

/-- More is measured where more children are, and nothing else changes. -/
lemma runWidth?_mono {measure measure' : Nat → Option Nat}
    (h : ∀ child w, measure child = some w → measure' child = some w) {parent : NodeKind}
    {previous : Option Nat} {children : List Nat}
    (hrun : sh.runWidth? measure parent previous children = some w) :
    sh.runWidth? measure' parent previous children = some w := by
  induction children generalizing previous w with
  | nil => exact hrun
  | cons child rest ih =>
    rw [runWidth?] at hrun ⊢
    cases hchild : measure child with
    | none => simp [hchild] at hrun
    | some width =>
      rw [hchild] at hrun
      rw [h child width hchild]
      obtain ⟨total, htotal, hw⟩ := Option.map_eq_some_iff.1 hrun
      exact Option.map_eq_some_iff.2 ⟨total, ih htotal, hw⟩

lemma measureTo_succ {depth : Nat} (h : sh.measureTo depth id = some w) :
    sh.measureTo (depth + 1) id = some w := by
  induction depth generalizing id w with
  | zero => exact absurd h nofun
  | succ depth ih =>
    obtain ⟨hraw, hallowed⟩ := Option.filter_eq_some_iff.1 h
    refine Option.filter_eq_some_iff.2 ⟨?_, hallowed⟩
    unfold rawWidth? at hraw ⊢
    split at hraw
    · exact hraw
    · exact hraw
    · split at hraw
      · exact absurd hraw nofun
      · next hinline =>
        rw [if_neg hinline]
        exact runWidth?_mono (fun _ _ => ih) hraw

/-- A width that is found is found with any depth that is larger. -/
lemma measureTo_mono {depth depth' : Nat} (hle : depth ≤ depth') (h : sh.measureTo depth id = some w) :
    sh.measureTo depth' id = some w := by
  induction hle with
  | refl => exact h
  | step _ ih => exact measureTo_succ ih

lemma runWidth?_congr {measure measure' : Nat → Option Nat} {parent : NodeKind} {previous : Option Nat}
    {children : List Nat} (h : ∀ child ∈ children, measure child = measure' child) :
    sh.runWidth? measure parent previous children = sh.runWidth? measure' parent previous children := by
  induction children generalizing previous with
  | nil => rfl
  | cons child rest ih =>
    obtain ⟨hchild, hrest⟩ := List.forall_mem_cons.1 h
    rw [runWidth?, runWidth?, hchild, ih hrest]

/-- Nodes have larger numbers than their parents, so no more depth matters than there are numbers left. -/
lemma measureTo_congr (hordered : sh.tree.Ordered) {depth depth' : Nat} (hid : id < sh.tree.size)
    (hdepth : sh.tree.size ≤ depth + id) (hdepth' : sh.tree.size ≤ depth' + id) :
    sh.measureTo depth id = sh.measureTo depth' id := by
  induction depth generalizing depth' id with
  | zero => omega
  | succ depth ih =>
    obtain ⟨depth', rfl⟩ : ∃ n, depth' = n + 1 := ⟨depth' - 1, by omega⟩
    have hchildren : ∀ child ∈ sh.visibleChildren id, sh.measureTo depth child = sh.measureTo depth' child := by
      intro child hchild
      obtain ⟨hlt, hsize⟩ := hordered id child (List.mem_of_mem_filter hchild)
      exact ih hsize (by omega) (by omega)
    have hraw : sh.rawWidth? (sh.measureTo depth) id = sh.rawWidth? (sh.measureTo depth') id := by
      unfold rawWidth?
      split
      · rfl
      · rfl
      · rw [runWidth?_congr hchildren]
    rw [measureTo, measureTo, hraw]

/-- What follows a child is as wide as the run of children after it. -/
lemma suffixWidth_eq_add {parent : NodeKind} {outer before : Nat} {rest : List Nat}
    (h : sh.runWidth? sh.measure parent (some (sh.tree.lastToken before)) rest = some w) :
    sh.suffixWidth parent outer before rest = outer + w := by
  induction rest generalizing before w with
  | nil =>
    obtain rfl : 0 = w := Option.some.inj h
    rfl
  | cons child rest ih =>
    rw [runWidth?] at h
    cases hchild : sh.measure child with
    | none => simp [hchild] at h
    | some width =>
      rw [hchild] at h
      obtain ⟨total, htotal, rfl⟩ := Option.map_eq_some_iff.1 h
      rw [suffixWidth, ih htotal, measured, hchild, Option.any_some]
      simp only [Option.getD_some]
      omega

end Sheet

/-! ### Where nodes end -/

namespace Tree

variable {t : Tree} {id i : Nat}

/-- A node that ends on a token that is no whitespace. -/
structure EndsOnToken (t : Tree) (id : Nat) : Prop where
  lt : (t.node id).first < (t.node id).past
  token : (t.tokens.kind ((t.node id).past - 1)).isWhitespace = false

lemma EndsOnToken.lastToken_eq (h : t.EndsOnToken id) : t.lastToken id = (t.node id).past - 1 := by
  obtain ⟨n, hn⟩ : ∃ n, (t.node id).past = n + 1 := ⟨(t.node id).past - 1, by have := h.lt; omega⟩
  have hlt := h.lt
  have htoken := h.token
  rw [hn] at hlt htoken
  have hkind : (t.tokens.kind n).isWhitespace = false := htoken
  rw [lastToken]
  simp only [hn, TokenStream.findBackward, hkind, Bool.not_false, if_true]
  omega

lemma HoldsToken.isWhitespace (h : HoldsToken t.tokens (t.node id) i) :
    (t.tokens.kind i).isWhitespace = false := by
  have hpiece := h.piece
  cases hkind : (t.node id).kind with
  | leaf role => exact isWhitespace_of_not_isTrivia (h.leaf role hkind)
  | comment => exact isWhitespace_of_isComment (h.comment hkind)
  | _ => simp [hkind, NodeKind.isPiece] at hpiece

lemma HoldsToken.endsOnToken (h : HoldsToken t.tokens (t.node id) i) : t.EndsOnToken id := by
  have htoken := h.isWhitespace
  constructor
  · rw [h.node_eq]
    exact Nat.lt_succ_self i
  · rw [h.node_eq]
    exact htoken

lemma HoldsToken.lastToken_eq (h : HoldsToken t.tokens (t.node id) i) : t.lastToken id = i := by
  rw [h.endsOnToken.lastToken_eq, h.node_eq]
  rfl

/-- A node that holds a token, or a construct that starts and ends with its children. -/
structure IsWhole (t : Tree) (id : Nat) : Prop where
  lt : id < t.size
  whole : (∃ i, HoldsToken t.tokens (t.node id) i)
    ∨ (Grammar.Item.isConstruct (t.kind id) = true ∧ t.Framed id
      ∧ ∃ depth, Formed t (t.kind id) depth (t.children id))

/-- The children of a construct other than a loop are whole, apart from errors. -/
lemma IsWhole.child {depth child : Nat} {kind : NodeKind} {ids : List Nat} (hformed : Formed t kind depth ids)
    (hkind : kind ≠ .loopStatement) (hchild : child ∈ ids) (hlt : child < t.size)
    (herror : (t.kind child).isError = false) : t.IsWhole child := by
  refine ⟨hlt, ?_⟩
  cases hformed.mem hchild with
  | piece htoken _ => exact .inl ⟨_, htoken⟩
  | node hconstruct _ _ hframed hchildren =>
    refine .inr ⟨hconstruct, hframed.resolve_right fun hquery => hkind hquery.1, _, hchildren⟩
  | reject herr _ _ _ =>
    rw [herr] at herror
    exact absurd herror nofun

end Tree

namespace Sheet

variable {sh : Sheet} {id column w depth : Nat} {ctx : Context}

/-! ### Children of nodes with a width -/

lemma ne_comment (hbare : ∀ i, sh.isComment i = false) (id : Nat) : sh.tree.kind id ≠ .comment := by
  have := hbare id
  simpa [isComment] using this

/-- The width of a construct is that of the run of its children. -/
lemma run_of_measureTo (hpiece : (sh.tree.kind id).isPiece = false)
    (h : sh.measureTo (depth + 1) id = some w) :
    neverInline (sh.tree.kind id) = false
      ∧ sh.runWidth? (sh.measureTo depth) (sh.tree.kind id) none (sh.visibleChildren id) = some w
      ∧ sh.singleLineAllowed id w 0 0 = true := by
  obtain ⟨hraw, hallowed⟩ := Option.filter_eq_some_iff.1 h
  unfold rawWidth? at hraw
  split at hraw
  · next hkind => simp [hkind, NodeKind.isPiece] at hpiece
  · next hkind => simp [hkind, NodeKind.isPiece] at hpiece
  · split at hraw
    · contradiction
    · next hinline =>
      rw [Bool.or_eq_true, not_or] at hinline
      exact ⟨by simpa using hinline.1, hraw, hallowed⟩

/-- All children of a run with a width have one. -/
lemma exists_measure_of_run {measure : Nat → Option Nat} {parent : NodeKind} {previous : Option Nat}
    {children : List Nat} (h : sh.runWidth? measure parent previous children = some w) {child : Nat}
    (hchild : child ∈ children) : ∃ w, measure child = some w := by
  induction children generalizing previous w with
  | nil => simp at hchild
  | cons first rest ih =>
    rw [runWidth?] at h
    cases hfirst : measure first with
    | none => simp [hfirst] at h
    | some width =>
      rw [hfirst] at h
      obtain ⟨total, htotal, -⟩ := Option.map_eq_some_iff.1 h
      rcases List.mem_cons.1 hchild with rfl | hchild
      · exact ⟨width, hfirst⟩
      · exact ih htotal hchild

lemma not_isError_of_measureTo (h : sh.measureTo depth id = some w) : (sh.tree.kind id).isError = false := by
  cases depth with
  | zero => exact absurd h nofun
  | succ depth =>
    cases hkind : sh.tree.kind id with
    | error index =>
      obtain ⟨hinline, -⟩ := run_of_measureTo (by rw [hkind]; rfl) h
      rw [hkind] at hinline
      exact absurd hinline nofun
    | _ => rfl

/-- The last child of a node is visible unless it is a comment. -/
lemma getLast?_visibleChildren {child : Nat} (h : (sh.tree.children id).getLast? = some child)
    (hkind : sh.tree.kind child ≠ .comment) : (sh.visibleChildren id).getLast? = some child := by
  obtain ⟨before, hbefore⟩ := List.getLast?_eq_some_iff.1 h
  rw [visibleChildren, hbefore, List.filter_append, List.filter_cons_of_pos (by simp [isComment, hkind])]
  simp

/-- The children of a construct with a width are whole and have one. -/
lemma isWhole_child (hordered : sh.tree.Ordered) (hwhole : sh.tree.IsWhole id)
    (hpiece : (sh.tree.kind id).isPiece = false) (h : sh.measureTo (depth + 1) id = some w) {child : Nat}
    (hchild : child ∈ sh.visibleChildren id) :
    sh.tree.IsWhole child ∧ ∃ w, sh.measureTo depth child = some w := by
  obtain ⟨hinline, hrun, -⟩ := run_of_measureTo hpiece h
  obtain ⟨w', hw'⟩ := exists_measure_of_run hrun hchild
  have hmem := List.mem_of_mem_filter hchild
  obtain ⟨i, htoken⟩ | ⟨-, -, depth', hformed⟩ := hwhole.whole
  · have hpiece' : (sh.tree.kind id).isPiece = true := htoken.piece
    rw [hpiece] at hpiece'
    exact absurd hpiece' nofun
  · refine ⟨.child hformed ?_ hmem (hordered id child hmem).2 (not_isError_of_measureTo hw'), w', hw'⟩
    intro hloop
    rw [hloop] at hinline
    exact absurd hinline nofun

/-- A node with a width ends on a token. -/
lemma endsOnToken_of_measureTo (harena : sh.tree.IsArena) (hordered : sh.tree.Ordered)
    (hwhole : sh.tree.IsWhole id) (h : sh.measureTo depth id = some w) : sh.tree.EndsOnToken id := by
  induction depth generalizing id w with
  | zero => exact absurd h nofun
  | succ depth ih =>
    obtain ⟨i, htoken⟩ | ⟨hconstruct, hframed, -⟩ := hwhole.whole
    · exact htoken.endsOnToken
    · -- The last child ends where the node does.
      obtain ⟨child, hlast, hcomment, hpast⟩ := hframed.last
      have hmem := List.mem_of_getLast? (getLast?_visibleChildren hlast hcomment)
      obtain ⟨hchild, w', hw'⟩ :=
        isWhole_child hordered hwhole (Tree.isPiece_of_isConstruct hconstruct) h hmem
      have hends := ih hchild hw'
      have hinside := (harena.children hwhole.lt).2 child (List.mem_of_mem_filter hmem)
      have hlt := hends.lt
      exact ⟨by omega, hpast ▸ hends.token⟩

lemma lastToken_eq_of_measureTo (harena : sh.tree.IsArena) (hordered : sh.tree.Ordered)
    (hwhole : sh.tree.IsWhole id) (hpiece : (sh.tree.kind id).isPiece = false)
    (h : sh.measureTo depth id = some w) :
    (sh.visibleChildren id).getLast?.map sh.tree.lastToken = some (sh.tree.lastToken id) := by
  obtain ⟨i, htoken⟩ | ⟨hconstruct, hframed, -⟩ := hwhole.whole
  · have hpiece' : (sh.tree.kind id).isPiece = true := htoken.piece
    rw [hpiece] at hpiece'
    exact absurd hpiece' nofun
  · obtain ⟨child, hlast, hcomment, hpast⟩ := hframed.last
    have hvisible := getLast?_visibleChildren hlast hcomment
    cases depth with
    | zero => exact absurd h nofun
    | succ depth =>
      obtain ⟨hchild, w', hw'⟩ := isWhole_child hordered hwhole hpiece h (List.mem_of_getLast? hvisible)
      rw [hvisible, Option.map_some, (endsOnToken_of_measureTo harena hordered hchild hw').lastToken_eq,
        (endsOnToken_of_measureTo harena hordered hwhole h).lastToken_eq, hpast]

/-! ### Nodes on one line -/

/-- Caches that are switched off. -/
def IsOff (cache : Cache Policy) : Prop :=
  cache.enabled = false

/-- A cache that is switched off neither answers nor keeps anything. -/
lemma ensures_cached_of_off {layout : Render} {post : Piece → Prop}
    (h : Ensures IsOff (layout id ctx column) post) : Ensures IsOff (sh.cached layout id ctx column) post := by
  intro cache hoff
  have hget : cache.get id ctx column sh.policy sh.lineWidth = (none, cache) := by
    rw [Cache.get, show cache.enabled = false from hoff]
    rfl
  rw [cached_eq, hget]
  obtain ⟨hpost, hkept⟩ := h cache hoff
  exact ⟨hpost, by rw [IsOff, Cache.enabled_insert]; exact hkept⟩

/-- A context under which no node is laid out in another way than on its own. -/
def IsPlain (ctx : Context) : Prop :=
  ctx.overlay = .none ∨ ctx.overlay = .caseBranch .linear none

/-- Every construct that may stand on one line is tried on one first. -/
lemma exists_layoutNode_eq (render : Render) (hpiece : (sh.tree.kind id).isPiece = false)
    (hinline : neverInline (sh.tree.kind id) = false) (hctx : IsPlain ctx) :
    ∃ broken, sh.layoutNode render id ctx column = sh.onOneLineOr render broken id ctx column := by
  have hbranch : sh.whenMayInline ctx.caseBranch? = true := by
    rcases hctx with h | h <;> simp [Context.caseBranch?, whenMayInline, h]
  have hoffsets : ctx.offsets? = none := by
    rcases hctx with h | h <;> simp [Context.offsets?, h]
  unfold layoutNode
  cases hkind : sh.tree.kind id with
  | whenBranch =>
    refine ⟨sh.brokenWhen render id ctx column, ?_⟩
    simp only [whenBranch, hbranch, if_true]
  | declaration =>
    refine ⟨sh.brokenDeclaration render none id ctx column, ?_⟩
    simp only [declaration, hoffsets, Option.filter_none, Option.isSome_none, Bool.false_eq_true, if_false]
  | caseOf =>
    refine ⟨sh.brokenCase render id ctx column, ?_⟩
    simp only [caseOf, hkind, reduceCtorEq, if_false]
  | leaf | comment => simp [hkind, NodeKind.isPiece] at hpiece
  | error | root | statementList | block | ifStatement | conditionalBranch | loopStatement | caseStatement
  | declareSection | exceptionSection | doBlock => simp [hkind, neverInline] at hinline
  | _ => exact ⟨_, rfl⟩

/-- A construct is laid out on one line if that comes out on one line. -/
lemma ensures_onOneLineOr_of_inline {I : Cache Policy → Prop} {render : Render} {broken : Layout LineBuffer}
    {post : Piece → Prop} (hmeasure : sh.measure id = some w)
    (hallowed : sh.singleLineAllowed id w column ctx.trailing = true)
    (h : Ensures I (sh.inline render id ctx column) fun piece => post piece ∧ piece.isSingleLine = true) :
    Ensures I (sh.onOneLineOr render broken id ctx column) post := by
  have hsingle : Ensures I (sh.singleLine? render id ctx column) fun piece? => ∃ piece,
      piece? = some piece ∧ post piece := by
    unfold singleLine?
    rw [hmeasure]
    dsimp only
    rw [if_pos hallowed]
    refine h.bind fun piece hpiece => .pure ⟨piece, ?_, hpiece.1⟩
    rw [if_pos hpiece.2]
  refine hsingle.bind fun piece? hpiece? => ?_
  obtain ⟨piece, rfl, hpiece⟩ := hpiece?
  exact .pure hpiece

/-- A comment with a width is appended on the same line. -/
lemma straight_appendComment {source : Text} (htokens : sh.tree.tokens = .ofText source) {b : LineBuffer}
    {start : Nat} {last : Option Nat} (hremove : sh.policy.removeComments = false) {i : Nat}
    (htoken : Tree.HoldsToken sh.tree.tokens (sh.tree.node id) i) (hkind : sh.tree.kind id = .comment)
    (hwidth : sh.commentWidth? id = some w) (h : b.Straight start column last) :
    (sh.appendComment id b).Straight start
      (column + (if last.any fun p => sh.tree.tokens.spaceBetween p i then 1 else 0) + w) (some i) := by
  have hcomment := htoken.comment hkind
  unfold commentWidth? at hwidth
  dsimp only at hwidth
  rw [htoken.firstToken_eq] at hwidth
  split at hwidth
  · contradiction
  next hline =>
  simp only [Bool.or_eq_true, not_or, Bool.not_eq_true] at hline
  obtain ⟨⟨hnotLine, hstarts⟩, hfeed⟩ := hline
  have hblock : sh.tree.tokens.kind i = .blockComment := by
    generalize sh.tree.tokens.kind i = k at hcomment hnotLine
    cases k <;> first | rfl | simp [TokenKind.isComment] at hcomment hnotLine
  have hsolid : Text.Solid (sh.tree.tokens.text i) := by
    rw [htokens] at hblock ⊢
    exact TokenStream.solid_blockComment hblock
  obtain rfl := Option.some.inj hwidth
  have hfeed : '\n' ∉ sh.tree.tokens.text i := by simpa using hfeed
  have hplaced := h.separate (last.any fun p => sh.tree.tokens.spaceBetween p i) Option.isSome_of_any
  unfold appendComment
  rw [hremove, if_neg Bool.false_ne_true]
  dsimp only
  rw [htoken.firstToken_eq, hstarts, hnotLine, h.pendingBreak, h.last]
  simp only [Bool.false_or, Bool.false_and, Bool.false_eq_true, if_false]
  exact hplaced.pushVerbatim hsolid hfeed i

/-- A layout that puts whole nodes with a width on one line of that width where they fit. -/
def KeepsWidths (sh : Sheet) (render : Render) (depth : Nat) : Prop :=
  ∀ {id w : Nat} {ctx : Context} {column : Nat}, sh.tree.IsWhole id → sh.tree.kind id ≠ .comment →
    sh.measureTo depth id = some w → IsPlain ctx → column + w + ctx.trailing ≤ sh.lineWidth →
    Ensures IsOff (render id ctx column)
      (Piece.Straight column (column + w) (some (sh.tree.lastToken id)))

section Straight

variable {source : Text} (htokens : sh.tree.tokens = .ofText source)

include htokens

/-- A child with a width is appended on the same line. -/
lemma ensures_appendChild_of_measure {render : Render} (hrender : sh.KeepsWidths render depth)
    {parent : NodeKind} {b : LineBuffer} {start : Nat} {last : Option Nat} (hwhole : sh.tree.IsWhole id)
    (hvisible : sh.tree.kind id = .comment → sh.policy.removeComments = false)
    (hmeasure : sh.measureTo depth id = some w) (hctx : IsPlain ctx) (h : b.Straight start column last)
    {space : Nat} (hspace : space = if last.any fun p => sh.spaceBefore parent p id then 1 else 0)
    (hfit : column + (space + w) + ctx.trailing ≤ sh.lineWidth) :
    Ensures IsOff (sh.appendChild render parent id ctx b)
      (·.Straight start (column + (space + w)) (some (sh.tree.lastToken id))) := by
  subst hspace
  rw [← Nat.add_assoc] at hfit ⊢
  by_cases hkind : sh.tree.kind id = .comment
  · obtain ⟨i, htoken⟩ : ∃ i, Tree.HoldsToken sh.tree.tokens (sh.tree.node id) i := by
      obtain htoken | ⟨hconstruct, -⟩ := hwhole.whole
      · exact htoken
      · rw [hkind] at hconstruct
        contradiction
    have hwidth : sh.commentWidth? id = some w := by
      cases depth with
      | zero => contradiction
      | succ depth =>
        obtain ⟨hraw, -⟩ := Option.filter_eq_some_iff.1 hmeasure
        rwa [rawWidth?, hkind] at hraw
    have hspace : ∀ p, sh.spaceBefore parent p id = sh.tree.tokens.spaceBetween p i := by
      intro p
      unfold spaceBefore
      rw [hkind, htoken.firstToken_eq]
      cases parent <;> rfl
    rw [appendChild, if_pos (by simp [isComment, hkind]), htoken.lastToken_eq]
    simp only [hspace]
    exact .pure (straight_appendComment htokens (hvisible hkind) htoken hkind hwidth h)
  · have hplaced := h.separate (last.any fun p => sh.spaceBefore parent p id) Option.isSome_of_any
    rw [appendChild, if_neg (by simp [isComment, hkind]), spaceAfterLast, h.last, appendHere,
      hplaced.column]
    exact (hrender hwhole hkind hmeasure hctx hfit).bind fun piece hpiece => .pure (hplaced.append hpiece)

/-- Children with widths are appended on the same line, each told how wide those after it are. -/
lemma ensures_children_of_run {render : Render} (hrender : sh.KeepsWidths render depth)
    (hdepth : depth ≤ sh.tree.size + 1) {parent : NodeKind} {outer : Nat} (indent : Nat) (overlay : Overlay)
    (hctx : ∀ trailing, IsPlain { Context.child indent trailing with overlay := overlay })
    {children : List Nat} (hwhole : ∀ child ∈ children, sh.tree.IsWhole child)
    (hvisible : ∀ child ∈ children, sh.tree.kind child = .comment → sh.policy.removeComments = false)
    {b : LineBuffer} {start : Nat} {last : Option Nat}
    (hrun : sh.runWidth? (sh.measureTo depth) parent last children = some w)
    (h : b.Straight start column last) (hfit : column + w + outer ≤ sh.lineWidth) :
    Ensures IsOff
      ((withRest children).foldlM (fun b (child, rest) =>
        sh.appendChild render parent child
          { Context.child indent (sh.suffixWidth parent outer child rest) with overlay := overlay } b) b)
      (·.Straight start (column + w) ((children.getLast?.map sh.tree.lastToken).or last)) := by
  induction children generalizing b column last w with
  | nil =>
    obtain rfl : 0 = w := Option.some.inj hrun
    exact .pure h
  | cons child rest ih =>
    rw [runWidth?] at hrun
    cases hchild : sh.measureTo depth child with
    | none => simp [hchild] at hrun
    | some width =>
      rw [hchild] at hrun
      obtain ⟨total, htotal, rfl⟩ := Option.map_eq_some_iff.1 hrun
      -- The child is told how wide the rest is, so it fits where all fit.
      have htrailing : sh.suffixWidth parent outer child rest = outer + total :=
        suffixWidth_eq_add (runWidth?_mono (fun _ _ => measureTo_mono hdepth) htotal)
      rw [withRest, List.foldlM_cons]
      refine (ensures_appendChild_of_measure htokens hrender (hwhole child (by simp))
        (hvisible child (by simp)) hchild (hctx _) h rfl ?_).bind fun b hb => ?_
      · simp only [Context.child, htrailing]
        omega
      · have hrest := ih (fun c hc => hwhole c (by simp [hc])) (fun c hc => hvisible c (by simp [hc]))
          htotal hb (by omega)
        refine hrest.mono fun b hb => ?_
        rw [Nat.add_assoc] at hb
        rw [List.getLast?_cons]
        cases hlast : rest.getLast? with
        | none => simpa [hlast] using hb
        | some last => simpa [hlast] using hb

/-- What the layout of children does to widths, the layout of nodes does. -/
lemma keepsWidths_layoutNode (harena : sh.tree.IsArena) (hordered : sh.tree.Ordered) {render : Render}
    (hrender : sh.KeepsWidths render depth) (hdepth : depth < sh.tree.size + 1) :
    sh.KeepsWidths (sh.layoutNode render) (depth + 1) := by
  intro id w ctx column hwhole hcomment hmeasure hctx hfit
  cases hpiece : (sh.tree.kind id).isPiece with
  | true =>
    obtain ⟨i, htoken⟩ : ∃ i, Tree.HoldsToken sh.tree.tokens (sh.tree.node id) i := by
      obtain htoken | ⟨hconstruct, -⟩ := hwhole.whole
      · exact htoken
      · rw [Tree.isPiece_of_isConstruct hconstruct] at hpiece
        contradiction
    obtain ⟨role, hrole⟩ : ∃ role, sh.tree.kind id = .leaf role := by
      generalize sh.tree.kind id = kind at hpiece hcomment
      cases kind <;> simp [NodeKind.isPiece] at hpiece hcomment ⊢
    obtain ⟨hraw, -⟩ := Option.filter_eq_some_iff.1 hmeasure
    rw [rawWidth?, hrole] at hraw
    unfold leafWidth? at hraw
    dsimp only at hraw
    split at hraw
    · contradiction
    next hline =>
    obtain rfl := Option.some.inj hraw
    rw [Bool.or_eq_true, not_or] at hline
    rw [layoutNode, hrole, htoken.lastToken_eq]
    refine .pure ?_
    rw [leaf, if_neg hline.2, htoken.firstToken_eq]
    exact ⟨rfl, rfl, rfl, rfl⟩
  | false =>
    obtain ⟨hinline, hrun, hallowed⟩ := run_of_measureTo hpiece hmeasure
    obtain ⟨broken, hbroken⟩ := exists_layoutNode_eq render hpiece hinline hctx
    rw [hbroken]
    refine ensures_onOneLineOr_of_inline (measureTo_mono hdepth hmeasure)
      (Threshold.allow_of_le hallowed hfit) ?_
    have hchildren := ensures_children_of_run htokens hrender hdepth.le ctx.indent
      (if sh.tree.kind id = .caseOf then .caseBranch .linear none else .none)
      (fun trailing => by unfold IsPlain; split <;> simp)
      (fun child hchild => (isWhole_child hordered hwhole hpiece hmeasure hchild).1)
      (fun child hchild hkind => by
        have hshown := (List.mem_filter.1 hchild).2
        simpa [isComment, hkind] using hshown)
      hrun (.startingAt column) hfit
    unfold inline
    refine hchildren.bind fun b hb => .pure ?_
    rw [lastToken_eq_of_measureTo harena hordered hwhole hpiece hmeasure, Option.some_or] at hb
    refine ⟨hb, ?_⟩
    rw [Piece.isSingleLine, Piece.height, LineBuffer.height, hb.finished]
    rfl

lemma keepsWidths_renderTo (harena : sh.tree.IsArena) (hordered : sh.tree.Ordered)
    (hdepth : depth ≤ sh.tree.size + 1) : sh.KeepsWidths (sh.renderTo depth) depth := by
  induction depth with
  | zero => exact fun _ _ hmeasure => absurd hmeasure nofun
  | succ depth ih =>
    intro id w ctx column hwhole hcomment hmeasure hctx hfit
    exact ensures_cached_of_off
      (keepsWidths_layoutNode htokens harena hordered (ih (by omega)) hdepth hwhole hcomment hmeasure hctx hfit)

end Straight

/-- A construct without children is laid out on a line without text. -/
lemma ensures_render_of_childless (hpiece : (sh.tree.kind id).isPiece = false)
    (hchildren : sh.tree.children id = []) (hmeasure : sh.measure id = some w) (hctx : IsPlain ctx)
    (hfit : column + w + ctx.trailing ≤ sh.lineWidth) :
    Ensures IsOff (sh.render id ctx column) (Piece.Straight column (column + w) none) := by
  obtain ⟨hinline, hrun, hallowed⟩ := run_of_measureTo hpiece hmeasure
  have hvisible : sh.visibleChildren id = [] := by rw [visibleChildren, hchildren, List.filter_nil]
  obtain rfl : 0 = w := by
    rw [hvisible] at hrun
    exact Option.some.inj hrun
  obtain ⟨broken, hbroken⟩ := exists_layoutNode_eq (sh.renderTo sh.tree.size) hpiece hinline hctx
  refine ensures_cached_of_off ?_
  rw [hbroken]
  refine ensures_onOneLineOr_of_inline hmeasure (Threshold.allow_of_le hallowed hfit) ?_
  unfold inline
  rw [hvisible]
  exact .pure ⟨.startingAt column, rfl⟩

/-- All nodes with a width that are no comments are whole, or constructs without children. -/
lemma isWhole_or_childless {source : Text} (h : Tree.parse source = .ok sh.tree) (hid : id < sh.tree.size)
    (hmeasure : sh.measure id = some w) : sh.tree.IsWhole id
      ∨ ((sh.tree.kind id).isPiece = false ∧ sh.tree.children id = []) := by
  have harena := (Tree.isGrown_of_parse h).2.isArena
  have hroot : id ≠ sh.tree.root := by
    rintro rfl
    have hkind : sh.tree.kind sh.tree.root = .root := by rw [harena.root_eq, harena.kind_root]
    obtain ⟨hinline, -⟩ := run_of_measureTo (by rw [hkind]; rfl) hmeasure
    rw [hkind] at hinline
    exact absurd hinline nofun
  obtain ⟨parent, depth, -, -, hchild⟩ := Tree.exists_parent h hid hroot
  cases hchild with
  | piece htoken _ => exact .inl ⟨hid, .inl ⟨_, htoken⟩⟩
  | node hconstruct _ _ hframed hformed =>
    obtain hframed | ⟨-, -, hchildren⟩ := hframed
    · exact .inl ⟨hid, .inr ⟨hconstruct, hframed, _, hformed⟩⟩
    · exact .inr ⟨Tree.isPiece_of_isConstruct hconstruct, hchildren⟩
  | reject hkind =>
    have herror := not_isError_of_measureTo hmeasure
    rw [hkind] at herror
    exact absurd herror nofun

section

variable {source : Text} {child : Nat} (h : Tree.parse source = .ok sh.tree) (hid : id < sh.tree.size)
  (hloop : sh.tree.kind id ≠ .loopStatement) (hchild : child ∈ sh.tree.children id)
  (hmeasure : sh.measure child = some w) (hdepth : sh.tree.size ≤ depth + child)

include h hid hloop hchild hmeasure hdepth

/-- A child of a node other than a loop is whole if it has a width, which is found with enough depth. -/
lemma isWhole_and_measureTo_of_child : sh.tree.IsWhole child ∧ sh.measureTo depth child = some w := by
  have hordered := Tree.ordered_of_parse h
  obtain ⟨-, hlt⟩ := hordered id child hchild
  obtain ⟨depth', hformed⟩ := Tree.formed_children h hid
  refine ⟨.child hformed hloop hchild hlt (not_isError_of_measureTo hmeasure), ?_⟩
  rw [← hmeasure]
  exact measureTo_congr hordered hlt hdepth (by omega)

/-- Such a child is laid out straight where it fits. -/
lemma straight_renderTo_of_child {cache : Cache Policy} (hoff : cache.enabled = false)
    (hcomment : sh.tree.kind child ≠ .comment) (hsize : depth ≤ sh.tree.size + 1) (hctx : IsPlain ctx)
    (hfit : column + w + ctx.trailing ≤ sh.lineWidth) :
    (sh.renderTo depth child ctx column cache).1.Straight column (column + w)
      (some (sh.tree.lastToken child)) := by
  obtain ⟨htokens, hgrown⟩ := Tree.isGrown_of_parse h
  have harena := hgrown.isArena
  obtain ⟨hwhole, hmeasure⟩ := isWhole_and_measureTo_of_child h hid hloop hchild hmeasure hdepth
  exact (keepsWidths_renderTo htokens harena (Tree.ordered_of_parse h) hsize hwhole hcomment hmeasure hctx hfit
    cache hoff).1

end

end Sheet

/-! ### Pieces on one line -/

namespace Piece

variable {piece : Piece} {start column : Nat} {last : Option Nat}

/-- A piece on one line from `start` to `column`, after which the line goes on. -/
structure IsRun (piece : Piece) (start column : Nat) : Prop where
  height : piece.height = 1
  start : piece.start = start
  endColumn : piece.endColumn = column
  pendingBreak : piece.pendingBreak = false

lemma Straight.isRun (h : piece.Straight start column last) : piece.IsRun start column := by
  cases piece with
  | fragment s text l =>
    obtain ⟨rfl, hcolumn, -⟩ := h
    exact ⟨rfl, rfl, hcolumn, rfl⟩
  | lines b =>
    have hb : b.Straight start column last := h
    refine ⟨?_, hb.start, hb.column, hb.pendingBreak⟩
    rw [height, LineBuffer.height, hb.finished]
    rfl

end Piece

/-- A node with a width, where it fits, is laid out on one line that is as wide as was measured. -/
theorem Sheet.render_isRun_of_measure {source : Text} {sh : Sheet} (h : Tree.parse source = .ok sh.tree)
    {id w column : Nat} {ctx : Context} (hid : id < sh.tree.size) (hkind : sh.tree.kind id ≠ .comment)
    (hmeasure : sh.measure id = some w) (hctx : ctx.overlay = .none)
    (hfit : column + w + ctx.trailing ≤ sh.policy.lineWidth.value) {cache : Cache Policy}
    (hcache : cache.enabled = false) : (sh.render id ctx column cache).1.IsRun column (column + w) := by
  obtain ⟨htokens, hgrown⟩ := Tree.isGrown_of_parse h
  have harena := hgrown.isArena
  rcases isWhole_or_childless h hid hmeasure with hwhole | ⟨hpiece, hchildren⟩
  · have hrender := keepsWidths_renderTo htokens harena (Tree.ordered_of_parse h) (Nat.le_refl _) hwhole
      hkind hmeasure (.inl hctx) hfit
    exact (hrender cache hcache).1.isRun
  · have hrender := ensures_render_of_childless hpiece hchildren hmeasure (.inl hctx) hfit
    exact (hrender cache hcache).1.isRun

/-- A statement with a comment, which fits on a line up to the last column. -/
theorem Sheet.render_isRun_of_statement :
    ∃ t, Tree.parse "select f(a, -1) /* c */ from t".toList = .ok t ∧ 1 < t.size ∧ t.kind 1 = .statement
      ∧ (Sheet.mk t {}).measure 1 = some 30
      ∧ ((Sheet.mk t {}).render 1 { indent := 40, trailing := 3 } 47 .disabled).1.IsRun 47 77 := by
  obtain ⟨t, ht, hall⟩ := Tree.exists_of_any "select f(a, -1) /* c */ from t".toList
    (fun t => decide (1 < t.size ∧ t.kind 1 = .statement ∧ (Sheet.mk t {}).measure 1 = some 30))
    (by decide +kernel)
  obtain ⟨hid, hkind, hmeasure⟩ := of_decide_eq_true hall
  exact ⟨t, ht, hid, hkind, hmeasure,
    render_isRun_of_measure ht hid (by simp [hkind]) hmeasure rfl (Nat.le_refl 80) rfl⟩

end SqlLayout
