import SqlLayout.Proofs.Layout.Measured

/-!
# Texts on one line

The text of a node on one line is that of its leaves, with a space between two of its children where their
tokens call for one. Without comments, a node with a width is laid out as this text wherever it fits: neither
its column nor what it is told about its surroundings matters.
-/

namespace SqlLayout

/-! ### What buffers and pieces spell -/

/-- A piece whose last line is the given text. -/
def Piece.Spells (t : Text) : Piece → Prop
  | .fragment _ text _ => text = t
  | .lines b => b.current = t

namespace LineBuffer.Straight

variable {b : LineBuffer} {piece : Piece} {start column next : Nat} {last last' : Option Nat} {t : Text}

lemma current_separate (h : b.Straight start column last) (space : Bool) (hspace : space = true → last.isSome) :
    (b.separate space).current = b.current ++ if space then [' '] else [] := by
  unfold LineBuffer.separate
  rw [h.pendingBreak, if_neg Bool.false_ne_true]
  cases space with
  | false => exact (List.append_nil _).symm
  | true =>
    have hfresh : b.fresh = false := by
      rw [h.fresh]
      simpa using hspace rfl
    rw [if_pos rfl, LineBuffer.pushSpace, hfresh, h.pendingBreak]
    rfl

end LineBuffer.Straight

lemma LineBuffer.current_append_of_straight {b : LineBuffer} {piece : Piece} {start column : Nat}
    {last : Option Nat} {t : Text} (hpiece : piece.Straight start column last) (ht : piece.Spells t) :
    (b.append piece).current = b.current ++ t := by
  cases piece with
  | fragment s text l =>
    obtain rfl : text = t := ht
    rfl
  | lines other =>
    obtain rfl : other.current = t := ht
    have hother : other.Straight start column last := hpiece
    rw [append, appendBuffer, hother.finished]
    rfl

namespace Sheet

/--
Texts of children one after the other with the spaces between them. `previous` is the last token before them.
-/
def runText (sh : Sheet) (text : Nat → Text) (parent : NodeKind) : Option Nat → List Nat → Text
  | _, [] => []
  | previous, child :: rest =>
    (if previous.any fun p => sh.spaceBefore parent p child then [' '] else [])
      ++ (text child ++ runText sh text parent (some (sh.tree.lastToken child)) rest)

/-- Text of a node without comments on one line, looking at descendants down to the given depth. -/
def lineTextTo (sh : Sheet) : Nat → Nat → Text
  | 0, _ => []
  | depth + 1, id =>
    match sh.tree.kind id with
    | .leaf role => sh.leafText id role
    | kind => sh.runText (lineTextTo sh depth) kind none (sh.visibleChildren id)

/-- Text of a node without comments on one line. -/
def lineText (sh : Sheet) (id : Nat) : Text :=
  sh.lineTextTo (sh.tree.size + 1) id

variable {sh : Sheet} {source : Text} {id column w depth : Nat} {ctx : Context}

lemma runText_congr {text text' : Nat → Text} {parent : NodeKind} {previous : Option Nat} {children : List Nat}
    (h : ∀ child ∈ children, text child = text' child) :
    sh.runText text parent previous children = sh.runText text' parent previous children := by
  induction children generalizing previous with
  | nil => rfl
  | cons child rest ih =>
    obtain ⟨hchild, hrest⟩ := List.forall_mem_cons.1 h
    rw [runText, runText, hchild, ih hrest]

/-- Texts, as widths, do not change with a depth that is large enough. -/
lemma lineTextTo_congr (hordered : sh.tree.Ordered) {depth depth' : Nat} (hid : id < sh.tree.size)
    (hdepth : sh.tree.size ≤ depth + id) (hdepth' : sh.tree.size ≤ depth' + id) :
    sh.lineTextTo depth id = sh.lineTextTo depth' id := by
  induction depth generalizing depth' id with
  | zero => omega
  | succ depth ih =>
    obtain ⟨depth', rfl⟩ : ∃ n, depth' = n + 1 := ⟨depth' - 1, by omega⟩
    have hchildren : ∀ child ∈ sh.visibleChildren id, sh.lineTextTo depth child = sh.lineTextTo depth' child := by
      intro child hchild
      obtain ⟨hlt, hsize⟩ := hordered id child (List.mem_of_mem_filter hchild)
      exact ih hsize (by omega) (by omega)
    unfold lineTextTo
    split
    · rfl
    · exact runText_congr hchildren

lemma exists_leaf_of_isPiece (hbare : ∀ i, sh.isComment i = false) (hpiece : (sh.tree.kind id).isPiece = true) :
    ∃ role, sh.tree.kind id = .leaf role := by
  have hcomment := ne_comment hbare id
  generalize sh.tree.kind id = kind at hpiece hcomment
  cases kind <;> simp [NodeKind.isPiece] at hpiece hcomment ⊢

/-- A leaf with a width has the width of its text, which is on one line. -/
lemma leafWidth_of_measureTo {role : LeafRole} (hrole : sh.tree.kind id = .leaf role)
    (hmeasure : sh.measureTo (depth + 1) id = some w) :
    w = Text.width (sh.leafText id role) ∧ (sh.leafText id role).contains '\n' = false := by
  obtain ⟨hraw, -⟩ := Option.filter_eq_some_iff.1 hmeasure
  rw [rawWidth?, hrole] at hraw
  unfold leafWidth? at hraw
  dsimp only at hraw
  split at hraw
  · contradiction
  next hline =>
  rw [Bool.or_eq_true, not_or, Bool.not_eq_true, Bool.not_eq_true] at hline
  exact ⟨(Option.some.inj hraw).symm, hline.2⟩

lemma lineTextTo_of_construct (hpiece : (sh.tree.kind id).isPiece = false) : sh.lineTextTo (depth + 1) id
    = sh.runText (sh.lineTextTo depth) (sh.tree.kind id) none (sh.visibleChildren id) := by
  rw [lineTextTo]
  split
  · next hkind => simp [hkind, NodeKind.isPiece] at hpiece
  · rfl

/-- Where each child has as many characters as its width, so has a run of them. -/
lemma length_runText {text : Nat → Text} {measure : Nat → Option Nat} {parent : NodeKind} {previous : Option Nat}
    {children : List Nat}
    (h : ∀ child w, measure child = some w → (∀ c ∈ text child, Text.isPrintableAscii c) → (text child).length = w)
    (hrun : sh.runWidth? measure parent previous children = some w)
    (hprintable : ∀ c ∈ sh.runText text parent previous children, Text.isPrintableAscii c) :
    (sh.runText text parent previous children).length = w := by
  induction children generalizing previous w with
  | nil => exact Option.some.inj hrun
  | cons child rest ih =>
    rw [runWidth?] at hrun
    cases hchild : measure child with
    | none => simp [hchild] at hrun
    | some width =>
      rw [hchild] at hrun
      obtain ⟨total, htotal, rfl⟩ := Option.map_eq_some_iff.1 hrun
      rw [runText, List.forall_mem_append, List.forall_mem_append] at hprintable
      obtain ⟨-, htext, hrest⟩ := hprintable
      rw [runText, List.length_append, List.length_append, h child width hchild htext, ih htotal hrest,
        ← Nat.add_assoc]
      split <;> rfl

/-- Printable ASCII texts have as many characters as their width. -/
lemma length_lineTextTo (hbare : ∀ i, sh.isComment i = false) (hmeasure : sh.measureTo depth id = some w)
    (hprintable : ∀ c ∈ sh.lineTextTo depth id, Text.isPrintableAscii c) :
    (sh.lineTextTo depth id).length = w := by
  induction depth generalizing id w with
  | zero => exact absurd hmeasure nofun
  | succ depth ih =>
    cases hpiece : (sh.tree.kind id).isPiece with
    | true =>
      obtain ⟨role, hrole⟩ := exists_leaf_of_isPiece hbare hpiece
      rw [lineTextTo, hrole] at hprintable ⊢
      rw [(leafWidth_of_measureTo hrole hmeasure).1]
      exact (Text.width_of_isPrintableAscii hprintable).symm
    | false =>
      obtain ⟨-, hrun, -⟩ := run_of_measureTo hpiece hmeasure
      rw [lineTextTo_of_construct hpiece] at hprintable ⊢
      exact length_runText (fun child w => ih) hrun hprintable

/-! ### Layouts spell texts -/

/-- A layout that spells the texts of whole nodes with a width where they fit. -/
def SpellsTexts (sh : Sheet) (render : Render) (depth : Nat) : Prop :=
  ∀ {id w : Nat} {ctx : Context} {column : Nat}, sh.tree.IsWhole id → sh.measureTo depth id = some w →
    IsPlain ctx → column + w + ctx.trailing ≤ sh.lineWidth →
    Ensures IsOff (render id ctx column) (Piece.Spells (sh.lineTextTo depth id))

section

variable (hbare : ∀ i, sh.isComment i = false)

include hbare

/-- Children with widths are spelled one after the other. -/
lemma ensures_children_spell {render : Render} (hwidths : sh.KeepsWidths render depth)
    (htexts : sh.SpellsTexts render depth) (hdepth : depth ≤ sh.tree.size + 1) {parent : NodeKind} {outer : Nat}
    (indent : Nat) (overlay : Overlay)
    (hctx : ∀ trailing, IsPlain { Context.child indent trailing with overlay := overlay })
    {children : List Nat} (hwhole : ∀ child ∈ children, sh.tree.IsWhole child) {b : LineBuffer} {start : Nat}
    {last : Option Nat} (hrun : sh.runWidth? (sh.measureTo depth) parent last children = some w)
    (h : b.Straight start column last) (hfit : column + w + outer ≤ sh.lineWidth) :
    Ensures IsOff
      ((withRest children).foldlM (fun b (child, rest) =>
        sh.appendChild render parent child
          { Context.child indent (sh.suffixWidth parent outer child rest) with overlay := overlay } b) b)
      fun b' => b'.current = b.current ++ sh.runText (sh.lineTextTo depth) parent last children := by
  induction children generalizing b column last w with
  | nil => exact .pure (List.append_nil _).symm
  | cons child rest ih =>
    rw [runWidth?] at hrun
    cases hchild : sh.measureTo depth child with
    | none => simp [hchild] at hrun
    | some width =>
      rw [hchild] at hrun
      obtain ⟨total, htotal, rfl⟩ := Option.map_eq_some_iff.1 hrun
      have htrailing : sh.suffixWidth parent outer child rest = outer + total :=
        suffixWidth_eq_add (runWidth?_mono (fun _ _ => measureTo_mono hdepth) htotal)
      have hspace : (last.any fun p => sh.spaceBefore parent p child) = true → last.isSome :=
        Option.isSome_of_any
      have hplaced := h.separate _ hspace
      have hcurrent := h.current_separate _ hspace
      rw [withRest, List.foldlM_cons]
      dsimp only
      rw [appendChild, if_neg (by simp [hbare child]), spaceAfterLast, h.last, appendHere, hplaced.column,
        htrailing]
      have hwhole' := hwhole child List.mem_cons_self
      have hfits : column + (if last.any fun p => sh.spaceBefore parent p child then 1 else 0) + width
          + (outer + total) ≤ sh.lineWidth := by omega
      have hpiece := (hwidths hwhole' (ne_comment hbare child) hchild (hctx (outer + total)) hfits).and
        (htexts hwhole' hchild (hctx (outer + total)) hfits)
      rw [bind_assoc]
      apply hpiece.bind
      rintro piece ⟨hstraight, hspells⟩
      rw [pure_bind]
      have hrest := ih (fun c hc => hwhole c (List.mem_cons_of_mem _ hc)) htotal (hplaced.append hstraight)
        (by omega)
      refine hrest.mono fun b' hb' => ?_
      rw [hb', LineBuffer.current_append_of_straight hstraight hspells, hcurrent, runText]
      simp only [List.append_assoc]

variable (htokens : sh.tree.tokens = .ofText source)

include htokens

/-- What the layout of children spells, the layout of nodes spells. -/
lemma spellsTexts_layoutNode (hordered : sh.tree.Ordered) {render : Render}
    (hwidths : sh.KeepsWidths render depth) (htexts : sh.SpellsTexts render depth)
    (hdepth : depth < sh.tree.size + 1) : sh.SpellsTexts (sh.layoutNode render) (depth + 1) := by
  intro id w ctx column hwhole hmeasure hctx hfit
  cases hpiece : (sh.tree.kind id).isPiece with
  | true =>
    obtain ⟨role, hrole⟩ := exists_leaf_of_isPiece hbare hpiece
    obtain ⟨-, hline⟩ := leafWidth_of_measureTo hrole hmeasure
    rw [layoutNode, lineTextTo, hrole]
    refine .pure ?_
    rw [leaf, if_neg (Bool.eq_false_iff.1 hline)]
    rfl
  | false =>
    obtain ⟨hinline, hrun, hallowed⟩ := run_of_measureTo hpiece hmeasure
    obtain ⟨broken, hbroken⟩ := exists_layoutNode_eq render hpiece hinline hctx
    rw [hbroken, lineTextTo_of_construct hpiece]
    refine ensures_onOneLineOr_of_inline (measureTo_mono hdepth hmeasure)
      (Threshold.allow_of_le hallowed hfit) ?_
    have hwhole' : ∀ child ∈ sh.visibleChildren id, sh.tree.IsWhole child :=
      fun child hchild => (isWhole_child hordered hwhole hpiece hmeasure hchild).1
    have hplain (trailing : Nat) : IsPlain { Context.child ctx.indent trailing with
        overlay := if sh.tree.kind id = .caseOf then .caseBranch .linear none else .none } := by
      unfold IsPlain
      split <;> simp
    have hchildren := (ensures_children_of_run htokens hwidths hdepth.le ctx.indent _ hplain hwhole'
      (fun child _ hkind => absurd hkind (ne_comment hbare child)) hrun (.startingAt column) hfit).and
      (ensures_children_spell hbare hwidths htexts hdepth.le ctx.indent _ hplain hwhole' hrun
        (.startingAt column) hfit)
    unfold inline
    apply hchildren.bind
    rintro b ⟨hstraight, hb⟩
    refine .pure ⟨hb, ?_⟩
    rw [Piece.isSingleLine, Piece.height, LineBuffer.height, hstraight.finished]
    rfl

lemma spellsTexts_renderTo (harena : sh.tree.IsArena) (hordered : sh.tree.Ordered)
    (hdepth : depth ≤ sh.tree.size + 1) : sh.SpellsTexts (sh.renderTo depth) depth := by
  induction depth with
  | zero => exact fun _ hmeasure => absurd hmeasure nofun
  | succ depth ih =>
    intro id w ctx column hwhole hmeasure hctx hfit
    exact ensures_cached_of_off (spellsTexts_layoutNode hbare htokens hordered
      (keepsWidths_renderTo htokens harena hordered (by omega)) (ih (by omega)) hdepth hwhole hmeasure hctx hfit)

end

/-- A child of a node other than a loop, with a width, is laid out as its text where it fits. -/
lemma spells_renderTo_of_child {child : Nat} (h : Tree.parse source = .ok sh.tree) (hid : id < sh.tree.size)
    (hloop : sh.tree.kind id ≠ .loopStatement) (hchild : child ∈ sh.tree.children id)
    (hmeasure : sh.measure child = some w) (hdepth : sh.tree.size ≤ depth + child)
    (hbare : ∀ i, sh.isComment i = false) {cache : Cache Policy} (hoff : cache.enabled = false)
    (hsize : depth ≤ sh.tree.size + 1) (hctx : IsPlain ctx) (hfit : column + w + ctx.trailing ≤ sh.lineWidth) :
    (sh.renderTo depth child ctx column cache).1.Spells (sh.lineText child) := by
  obtain ⟨htokens, hgrown⟩ := Tree.isGrown_of_parse h
  have harena := hgrown.isArena
  have hordered := Tree.ordered_of_parse h
  obtain ⟨-, hlt⟩ := hordered id child hchild
  obtain ⟨hwhole, hmeasure⟩ := isWhole_and_measureTo_of_child h hid hloop hchild hmeasure hdepth
  rw [lineText, lineTextTo_congr hordered hlt (by omega) hdepth]
  exact (spellsTexts_renderTo hbare htokens harena hordered hsize hwhole hmeasure hctx hfit cache hoff).1

end Sheet
end SqlLayout
