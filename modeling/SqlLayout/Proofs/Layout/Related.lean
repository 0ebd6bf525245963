import Mathlib.Data.Option.Basic
import SqlLayout.Proofs.Layout.Coupling
import SqlLayout.Proofs.Text.Folding
import SqlLayout.Proofs.Tree.Preorder

/-!
# Layouts side by side

Two layouts are compared as they run side by side on two caches, on two trees and under two policies
that may set other letter cases. A correspondence says which numbers of tokens stand for one another, as
they may differ from stream to stream, and which characters count as equal. Buffers and pieces are alike
if they agree up to a correspondence. Trees are alike if they have the same nodes, at tokens that
correspond and that call for the same spaces, and leaves that are written with the same characters.

The module holds the widths of alike trees, and the operations that the layouts of all kinds of nodes
share. Which caches correspond, and of which kinds the layouts are, is left open.
-/

namespace SqlLayout

lemma any_eq_of_rel {r : Nat → Nat → Prop} {i j : Option Nat} (h : Option.Rel r i j) {f g : Nat → Bool}
    (hfg : ∀ i j, r i j → f i = g j) : i.any f = j.any g := by
  cases h with
  | some hij => exact hfg _ _ hij
  | none => rfl

lemma eq_or_eq_of_rel {α β : Type} {r : α → β → Prop} {x : Option α} {y : Option β}
    (h : Option.Rel r x y) : (∃ a b, x = some a ∧ y = some b ∧ r a b) ∨ (x = none ∧ y = none) := by
  cases h with
  | some hab => exact .inl ⟨_, _, rfl, rfl, hab⟩
  | none => exact .inr ⟨rfl, rfl⟩

/-- Which numbers of tokens stand for one another, and which characters count as equal. -/
structure Correspondence extends Text.Folding where
  token : Nat → Nat → Prop

/-- Letter cases of keywords, function names and type names. -/
structure LetterCases where
  keyword : LetterCase
  function : LetterCase
  dataType : LetterCase

/-- The letter cases that a policy sets. -/
def Policy.letterCases (p : Policy) : LetterCases :=
  ⟨p.keywordCase, p.functionCase, p.typeCase⟩

/-- A policy with other letter cases. -/
abbrev Policy.cased (p : Policy) (k : LetterCases) : Policy :=
  { p with keywordCase := k.keyword, functionCase := k.function, typeCase := k.dataType }

variable {R : Correspondence}

/-! ### Buffers and pieces -/

/-- Buffers that agree in their columns, and up to a correspondence in their texts and last tokens. -/
structure LineBuffer.Like (R : Correspondence) (b₁ b₂ : LineBuffer) : Prop where
  finished : List.Forall₂ R.Same b₁.finished b₂.finished
  current : R.Same b₁.current b₂.current
  start_eq : b₁.start = b₂.start
  column_eq : b₁.column = b₂.column
  width_eq : b₁.width = b₂.width
  indentBase_eq : b₁.indentBase = b₂.indentBase
  localIndent_eq : b₁.localIndent = b₂.localIndent
  fresh_eq : b₁.fresh = b₂.fresh
  pendingBreak_eq : b₁.pendingBreak = b₂.pendingBreak
  last_rel : Option.Rel R.token b₁.last b₂.last

namespace LineBuffer

variable {b₁ b₂ : LineBuffer}

lemma Like.of_none {b : LineBuffer} (h : b.last = none) : Like R b b where
  finished := List.forall₂_same.2 fun _ _ => .refl _
  current := .refl _
  start_eq := rfl
  column_eq := rfl
  width_eq := rfl
  indentBase_eq := rfl
  localIndent_eq := rfl
  fresh_eq := rfl
  pendingBreak_eq := rfl
  last_rel := h ▸ .none

/-- A buffer is like itself if every number of a token stands for itself. -/
lemma Like.self (htoken : ∀ i, R.token i i) (b : LineBuffer) : Like R b b :=
  { of_none (b := { b with last := none }) rfl with
    last_rel := by
      cases b.last with
      | none => exact .none
      | some i => exact .some (htoken i) }

namespace Like

variable (h : Like R b₁ b₂)

include h

lemma height_eq : b₁.height = b₂.height := by
  rw [height, height, h.finished.length_eq]

lemma text : R.Same b₁.text b₂.text := by
  have hlines : List.Forall₂ R.Same b₁.lines b₂.lines :=
    List.rel_append (List.rel_reverse h.finished) (.cons h.current .nil)
  unfold LineBuffer.text
  rw [h.start_eq]
  exact (Text.Folding.Same.refl _).append (Text.Folding.same_join hlines)

lemma newlineAt (column : Nat) : Like R (b₁.newlineAt column) (b₂.newlineAt column) :=
  { h with
    finished := .cons h.current.trimEnd h.finished
    current := .refl _
    column_eq := rfl
    fresh_eq := rfl
    pendingBreak_eq := rfl }

lemma newline : Like R b₁.newline b₂.newline := by
  unfold LineBuffer.newline lineIndent
  rw [h.indentBase_eq, h.localIndent_eq]
  exact h.newlineAt _

lemma forceBreak : Like R b₁.forceBreak b₂.forceBreak :=
  { h with pendingBreak_eq := rfl }

lemma write {s t : Text} (hst : R.Same s t) (width : Nat) : Like R (b₁.write s width) (b₂.write t width) :=
  { h with
    current := h.current.append hst
    column_eq := congrArg (· + width) h.column_eq
    width_eq := congrArg₂ max h.width_eq (congrArg (· + width) h.column_eq)
    fresh_eq := rfl }

/-- The cursor moves back by the same number of bytes. -/
lemma trimTrailing : Like R b₁.trimTrailing b₂.trimTrailing := by
  unfold LineBuffer.trimTrailing
  dsimp only
  rw [h.current.byteLength_eq, h.current.trimEnd.byteLength_eq]
  exact { h with
    current := h.current.trimEnd
    column_eq := congrArg (· - _) h.column_eq }

lemma setLast {i j : Option Nat} (hij : Option.Rel R.token i j) :
    Like R (b₁.setLast i) (b₂.setLast j) := by
  cases hij with
  | some hij => exact { h with last_rel := .some hij }
  | none => exact h

/-- Cases on equal conditions keep buffers alike. -/
lemma ite {c₁ c₂ : Prop} [Decidable c₁] [Decidable c₂] {o₁ o₂ : LineBuffer} (hc : c₁ ↔ c₂)
    (ho : Like R o₁ o₂) : Like R (if c₁ then b₁ else o₁) (if c₂ then b₂ else o₂) := by
  by_cases hc₁ : c₁
  · rw [if_pos hc₁, if_pos (hc.1 hc₁)]
    exact h
  · rw [if_neg hc₁, if_neg (hc₁ ∘ hc.2)]
    exact ho

lemma beginLineAt (column : Nat) : Like R (b₁.beginLineAt column) (b₂.beginLineAt column) := by
  unfold LineBuffer.beginLineAt
  rw [h.fresh_eq, h.pendingBreak_eq, h.column_eq]
  exact .ite h Iff.rfl (h.newlineAt column)

lemma pushSpace : Like R b₁.pushSpace b₂.pushSpace := by
  unfold LineBuffer.pushSpace
  rw [h.fresh_eq, h.pendingBreak_eq]
  exact .ite h Iff.rfl { h.write (.refl [' ']) 1 with fresh_eq := rfl }

lemma separate (space : Bool) : Like R (b₁.separate space) (b₂.separate space) := by
  unfold LineBuffer.separate
  rw [h.pendingBreak_eq]
  exact .ite h.newline Iff.rfl (.ite h.pushSpace Iff.rfl h)

lemma padTo (column : Nat) : Like R (b₁.padTo column) (b₂.padTo column) := by
  unfold LineBuffer.padTo
  rw [h.column_eq, h.width_eq]
  refine .ite ?_ Iff.rfl h
  exact { h with
    current := h.current.append (.refl _)
    column_eq := rfl
    width_eq := rfl }

lemma pushLine {s t : Text} (hst : R.Same s t) : Like R (b₁.pushLine s) (b₂.pushLine t) := by
  unfold LineBuffer.pushLine
  rw [hst.width_eq, h.width_eq]
  exact { h with
    finished := .cons h.current h.finished
    current := hst
    column_eq := rfl
    width_eq := rfl
    fresh_eq := rfl }

lemma push {s t : Text} (hst : R.Same s t) : Like R (b₁.push s) (b₂.push t) := by
  unfold LineBuffer.push
  rw [hst.width_eq, h.pendingBreak_eq]
  exact (Like.ite h.newline Iff.rfl h).write hst _

lemma pushVerbatim {s t : Text} (hst : R.Same s t) : Like R (b₁.pushVerbatim s) (b₂.pushVerbatim t) := by
  have hlines {lines₁ lines₂ : List Text} (hlines : List.Forall₂ R.Same lines₁ lines₂)
      {b₁ b₂ : LineBuffer} (h : Like R b₁ b₂) :
      Like R (lines₁.foldl LineBuffer.pushLine b₁) (lines₂.foldl LineBuffer.pushLine b₂) := by
    induction hlines generalizing b₁ b₂ with
    | nil => exact h
    | cons hline _ ih => exact ih (h.pushLine hline)
  have hall := hst.lines
  unfold LineBuffer.pushVerbatim
  generalize (Text.pieces '\n' s).map _ = lines₁ at hall ⊢
  generalize (Text.pieces '\n' t).map _ = lines₂ at hall ⊢
  cases hall with
  | nil => exact h
  | cons hfirst hrest => exact hlines hrest (h.push hfirst)

lemma shifted (column : Nat) : Like R (b₁.shifted column) (b₂.shifted column) := by
  unfold LineBuffer.shifted
  rw [h.start_eq, h.column_eq, h.width_eq, h.indentBase_eq]
  dsimp only
  split
  · exact { h with start_eq := rfl, column_eq := rfl, width_eq := rfl, indentBase_eq := rfl }
  · exact { h with start_eq := rfl, column_eq := rfl, width_eq := rfl, indentBase_eq := rfl }

lemma appendBuffer {o₁ o₂ : LineBuffer} (ho : Like R o₁ o₂) :
    Like R (b₁.appendBuffer o₁) (b₂.appendBuffer o₂) := by
  unfold LineBuffer.appendBuffer
  dsimp only
  have hlast : Option.Rel R.token (o₁.last.orElse fun _ => b₁.last) (o₂.last.orElse fun _ => b₂.last) :=
    (h.setLast ho.last_rel).last_rel
  have hwidth := congrArg₂ max h.width_eq ho.width_eq
  have hlines := List.rel_reverse ho.finished
  generalize o₁.finished.reverse = lines₁ at hlines ⊢
  generalize o₂.finished.reverse = lines₂ at hlines ⊢
  cases hlines with
  | nil =>
    exact { h with
      current := h.current.append ho.current
      column_eq := ho.column_eq
      width_eq := hwidth
      fresh_eq := congrArg₂ and h.fresh_eq ho.fresh_eq
      pendingBreak_eq := ho.pendingBreak_eq
      last_rel := hlast }
  | cons hfirst hmiddle =>
    exact { h with
      finished := List.rel_append (List.rel_reverse hmiddle) (.cons (h.current.append hfirst) h.finished)
      current := ho.current
      column_eq := ho.column_eq
      width_eq := hwidth
      fresh_eq := ho.fresh_eq
      pendingBreak_eq := ho.pendingBreak_eq
      last_rel := hlast }

end Like
end LineBuffer

/-- Pieces that agree up to a correspondence in their texts and last tokens. -/
inductive Piece.Like (R : Correspondence) : Piece → Piece → Prop where
  | fragment (start : Nat) {s t : Text} {i j : Option Nat} : R.Same s t → Option.Rel R.token i j →
    Like R (.fragment start s i) (.fragment start t j)
  | lines {b₁ b₂ : LineBuffer} : LineBuffer.Like R b₁ b₂ → Like R (.lines b₁) (.lines b₂)

namespace Piece.Like

variable {p₁ p₂ : Piece} (h : Like R p₁ p₂)

include h

lemma isSingleLine_eq : p₁.isSingleLine = p₂.isSingleLine := by
  cases h with
  | fragment start _ _ => rfl
  | lines h => simp only [isSingleLine, height, h.height_eq]

lemma endColumn_eq : p₁.endColumn = p₂.endColumn := by
  cases h with
  | fragment start htext _ => exact congrArg (start + ·) htext.width_eq
  | lines h => exact h.column_eq

lemma width_eq : p₁.width = p₂.width := by
  cases h with
  | fragment start htext _ => exact congrArg (start + ·) htext.width_eq
  | lines h => exact h.width_eq

lemma start_eq : p₁.start = p₂.start := by
  cases h with
  | fragment start _ _ => rfl
  | lines h => exact h.start_eq

lemma rebase? (column : Nat) : Option.Rel (Like R) (p₁.rebase? column) (p₂.rebase? column) := by
  cases h with
  | fragment start htext hlast => exact .some (.fragment column htext hlast)
  | lines h =>
    unfold Piece.rebase?
    dsimp only
    rw [h.height_eq]
    split
    · exact .some (.lines (h.shifted column))
    · exact .none

end Piece.Like

lemma LineBuffer.Like.append {b₁ b₂ : LineBuffer} (h : Like R b₁ b₂) {p₁ p₂ : Piece}
    (hp : Piece.Like R p₁ p₂) : Like R (b₁.append p₁) (b₂.append p₂) := by
  cases hp with
  | fragment start htext hlast =>
    unfold LineBuffer.append
    dsimp only
    rw [htext.width_eq]
    exact (h.write htext _).setLast hlast
  | lines ho => exact h.appendBuffer ho

/-! ### Alike trees -/

/--
Trees with the same nodes, at tokens that correspond and call for the same spaces. Their leaves are
written with the same characters under a policy and under the policy with other letter cases.
-/
structure Tree.Alike (R : Correspondence) (p : Policy) (k : LetterCases) (t₁ t₂ : Tree) : Prop where
  ordered : t₁.Ordered
  size : t₁.size = t₂.size
  kind (id : Nat) : t₁.kind id = t₂.kind id
  children (id : Nat) : t₁.children id = t₂.children id
  first {id : Nat} : id < t₁.size → R.token (t₁.firstToken id) (t₂.firstToken id)
  last {id : Nat} : id < t₁.size → R.token (t₁.lastToken id) (t₂.lastToken id)
  token {i j : Nat} : R.token i j → t₁.tokens.kind i = t₂.tokens.kind j
  text {i j : Nat} : R.token i j → t₁.tokens.text i = t₂.tokens.text j
  parenLevel {i j : Nat} : R.token i j → (t₁.tokens.get i).parenLevel = (t₂.tokens.get j).parenLevel
  space {i j i' j' : Nat} : R.token i j → R.token i' j' →
    t₁.tokens.spaceBetween i i' = t₂.tokens.spaceBetween j j'
  labelClose {i j : Nat} : R.token i j → t₁.tokens.isLabelClose i = t₂.tokens.isLabelClose j
  startsLine {id : Nat} : id < t₁.size → t₁.kind id = .comment →
    t₁.tokens.startsLine (t₁.firstToken id) = t₂.tokens.startsLine (t₂.firstToken id)
  endsLine {id : Nat} : id < t₁.size → t₁.kind id = .comment →
    t₁.tokens.endsLine (t₁.firstToken id) = t₂.tokens.endsLine (t₂.firstToken id)
  leaf {id : Nat} (role : LeafRole) : id < t₁.size →
    R.Same (Sheet.leafText ⟨t₁, p⟩ id role) (Sheet.leafText ⟨t₂, p.cased k⟩ id role)
  error {id index : Nat} : id < t₁.size → t₁.kind id = .error index → ∀ column,
    Piece.Like R (Sheet.errorPiece ⟨t₁, p⟩ id column) (Sheet.errorPiece ⟨t₂, p.cased k⟩ id column)

namespace Sheet

variable {t₁ t₂ : Tree} {p : Policy} {k : LetterCases} {id : Nat}

section

variable (ht : t₁.Alike R p k t₂)

include ht

lemma isComment_eq (id : Nat) : isComment ⟨t₁, p⟩ id = isComment ⟨t₂, p.cased k⟩ id := by
  simp only [isComment, ht.kind]

lemma isLeaf_eq (id : Nat) : isLeaf ⟨t₁, p⟩ id = isLeaf ⟨t₂, p.cased k⟩ id := by
  simp only [isLeaf, ht.kind]

lemma isKeywordLeaf_eq (id : Nat) : isKeywordLeaf ⟨t₁, p⟩ id = isKeywordLeaf ⟨t₂, p.cased k⟩ id := by
  simp only [isKeywordLeaf, ht.kind]

lemma visibleChildren_eq (id : Nat) : visibleChildren ⟨t₁, p⟩ id = visibleChildren ⟨t₂, p.cased k⟩ id := by
  simp only [visibleChildren, ht.children, isComment_eq ht]

lemma lt_of_mem_visibleChildren {child : Nat} (h : child ∈ visibleChildren ⟨t₁, p⟩ id) :
    child < t₁.size :=
  (ht.ordered id child (List.mem_of_mem_filter h)).2

lemma tokenKind_eq (hid : id < t₁.size) : t₁.tokenKind id = t₂.tokenKind id :=
  ht.token (ht.first hid)

lemma treeLeafText_eq (hid : id < t₁.size) : t₁.leafText id = t₂.leafText id :=
  ht.text (ht.first hid)

/-- Numbers that no node has stand for no leaf. -/
lemma isLeafOf_eq (id : Nat) (kind : TokenKind) : t₁.isLeafOf id kind = t₂.isLeafOf id kind := by
  rcases Nat.lt_or_ge id t₁.size with hid | hid
  · simp only [Tree.isLeafOf, ht.kind, tokenKind_eq ht hid]
  · rw [Tree.isLeafOf, Tree.isLeafOf, ← ht.kind, Tree.kind_of_le hid]

lemma spaceBefore_eq (parent : NodeKind) {i j : Nat} (hij : R.token i j) (hid : id < t₁.size) :
    spaceBefore ⟨t₁, p⟩ parent i id = spaceBefore ⟨t₂, p.cased k⟩ parent j id := by
  simp only [spaceBefore, ht.kind, ht.space hij (ht.first hid)]

/-! ### Widths -/

lemma forcesOnePerLine_eq (id : Nat) : forcesOnePerLine ⟨t₁, p⟩ id = forcesOnePerLine ⟨t₂, p.cased k⟩ id := by
  simp only [forcesOnePerLine, ht.children, ht.kind]

lemma singleLineAllowed_eq (id width column trailing : Nat) :
    singleLineAllowed ⟨t₁, p⟩ id width column trailing
      = singleLineAllowed ⟨t₂, p.cased k⟩ id width column trailing := by
  simp only [singleLineAllowed, kindThresholds, ht.children, ht.kind]

lemma leafWidth?_eq (hid : id < t₁.size) (role : LeafRole) :
    leafWidth? ⟨t₁, p⟩ id role = leafWidth? ⟨t₂, p.cased k⟩ id role := by
  simp only [leafWidth?, (ht.leaf role hid).contains_eq, (ht.leaf role hid).width_eq, tokenKind_eq ht hid]

lemma commentWidth?_eq (hid : id < t₁.size) (hkind : t₁.kind id = .comment) :
    commentWidth? ⟨t₁, p⟩ id = commentWidth? ⟨t₂, p.cased k⟩ id := by
  simp only [commentWidth?, ht.token (ht.first hid), ht.text (ht.first hid), ht.startsLine hid hkind]

lemma runWidth?_eq {measure₁ measure₂ : Nat → Option Nat} {children : List Nat}
    (hlt : ∀ child ∈ children, child < t₁.size)
    (hmeasure : ∀ child ∈ children, measure₁ child = measure₂ child) (parent : NodeKind)
    {i j : Option Nat} (hij : Option.Rel R.token i j) :
    runWidth? ⟨t₁, p⟩ measure₁ parent i children = runWidth? ⟨t₂, p.cased k⟩ measure₂ parent j children := by
  induction children generalizing i j with
  | nil => rfl
  | cons child rest ih =>
    have hchild := hlt child (by simp)
    have hspace := any_eq_of_rel hij fun i j hij => spaceBefore_eq ht parent hij hchild
    have hrest := ih (fun c hc => hlt c (by simp [hc])) (fun c hc => hmeasure c (by simp [hc]))
      (.some (ht.last hchild))
    simp only [runWidth?, hmeasure child (by simp), hspace, hrest]

lemma measureTo_eq (depth : Nat) (hid : id < t₁.size) :
    measureTo ⟨t₁, p⟩ depth id = measureTo ⟨t₂, p.cased k⟩ depth id := by
  induction depth generalizing id with
  | zero => rfl
  | succ depth ih =>
    have hchildren (child : Nat) (hchild : child ∈ visibleChildren ⟨t₁, p⟩ id) :=
      lt_of_mem_visibleChildren ht hchild
    have hrun := runWidth?_eq ht hchildren (fun c hc => ih (hchildren c hc)) (t₁.kind id) .none
    have hraw : rawWidth? ⟨t₁, p⟩ (measureTo ⟨t₁, p⟩ depth) id
        = rawWidth? ⟨t₂, p.cased k⟩ (measureTo ⟨t₂, p.cased k⟩ depth) id := by
      unfold rawWidth?
      dsimp only
      rw [← ht.kind, ← visibleChildren_eq ht, ← forcesOnePerLine_eq ht]
      split
      · exact leafWidth?_eq ht hid _
      · next hkind => exact commentWidth?_eq ht hid hkind
      · rw [hrun]
    simp only [measureTo, hraw, singleLineAllowed_eq ht]

lemma measure_eq (hid : id < t₁.size) : measure ⟨t₁, p⟩ id = measure ⟨t₂, p.cased k⟩ id := by
  rw [measure, measure, measureTo_eq ht _ hid]
  dsimp only
  rw [ht.size]

lemma measured_eq (hid : id < t₁.size) : measured ⟨t₁, p⟩ id = measured ⟨t₂, p.cased k⟩ id := by
  rw [measured, measured, measure_eq ht hid]

lemma suffixWidth_eq (parent : NodeKind) (outer : Nat) {before : Nat} {children : List Nat}
    (hbefore : before < t₁.size) (hlt : ∀ child ∈ children, child < t₁.size) :
    suffixWidth ⟨t₁, p⟩ parent outer before children = suffixWidth ⟨t₂, p.cased k⟩ parent outer before children := by
  induction children generalizing before with
  | nil => rfl
  | cons child rest ih =>
    have hchild := hlt child (by simp)
    simp only [suffixWidth, spaceBefore_eq ht parent (ht.last hbefore) hchild, measured_eq ht hchild,
      ih hchild fun c hc => hlt c (by simp [hc])]

lemma gluedTrailing_eq (parent : NodeKind) (outer : Nat) {before : Nat} {children : List Nat}
    (hbefore : before < t₁.size) (hlt : ∀ child ∈ children, child < t₁.size) :
    gluedTrailing ⟨t₁, p⟩ parent outer before children
      = gluedTrailing ⟨t₂, p.cased k⟩ parent outer before children := by
  induction children generalizing before with
  | nil => rfl
  | cons child rest ih =>
    have hchild := hlt child (by simp)
    simp only [gluedTrailing, isLeaf_eq ht, spaceBefore_eq ht parent (ht.last hbefore) hchild,
      measured_eq ht hchild, ih hchild fun c hc => hlt c (by simp [hc])]

end

/-! ### Appending to buffers -/

variable {m₁ m₂ : Type → Type} [Monad m₁] [Monad m₂] [Faulting m₁] [Faulting m₂]
  [MonadStateOf (Cache Policy) m₁] [MonadStateOf (Cache Policy) m₂] [Coupling m₁ m₂]

/-- A node whose layouts are related in every context. -/
structure RenderAlike (C : Cache Policy → Cache Policy → Prop) (R : Correspondence) (t₁ : Tree)
    (r₁ : RenderIn m₁) (r₂ : RenderIn m₂) (id : Nat) : Prop where
  lt : id < t₁.size
  related (ctx : Context) (column : Nat) :
    Related C (r₁ id ctx column) (r₂ id ctx column) (Piece.Like R)

variable {C : Cache Policy → Cache Policy → Prop} {r₁ : RenderIn m₁} {r₂ : RenderIn m₂} {b₁ b₂ : LineBuffer}
  {ctx : Context} {column : Nat}

lemma related_appendHere (hr : RenderAlike C R t₁ r₁ r₂ id) (h : LineBuffer.Like R b₁ b₂) :
    Related C (appendHere r₁ id ctx b₁) (appendHere r₂ id ctx b₂) (LineBuffer.Like R) := by
  unfold appendHere
  rw [h.column_eq]
  exact (hr.related ctx b₂.column).bind fun _ _ hpiece => .pure (h.append hpiece)

variable (ht : t₁.Alike R p k t₂)

include ht

lemma like_appendComment (hid : id < t₁.size) (hkind : t₁.kind id = .comment)
    (h : LineBuffer.Like R b₁ b₂) :
    LineBuffer.Like R (appendComment ⟨t₁, p⟩ id b₁) (appendComment ⟨t₂, p.cased k⟩ id b₂) := by
  have hfirst := ht.first hid
  have hspace := any_eq_of_rel h.last_rel fun i j hij => ht.space hij hfirst
  unfold appendComment
  dsimp only
  rw [hspace, ht.text hfirst, ht.token hfirst, ht.startsLine hid hkind, ht.endsLine hid hkind,
    h.pendingBreak_eq, h.fresh_eq]
  refine .ite h Iff.rfl ?_
  have hplaced (breaks space : Bool) : LineBuffer.Like R
      (if breaks then b₁.newline else b₁.separate space) (if breaks then b₂.newline else b₂.separate space) :=
    .ite h.newline Iff.rfl (h.separate space)
  have hwritten (breaks space : Bool) (text : Text) :=
    ((hplaced breaks space).pushVerbatim (.refl text)).setLast (.some hfirst)
  exact .ite (hwritten _ _ _).forceBreak Iff.rfl (hwritten _ _ _)

lemma spaceAfterLast_eq (parent : NodeKind) (hid : id < t₁.size) (h : LineBuffer.Like R b₁ b₂) :
    spaceAfterLast ⟨t₁, p⟩ parent id b₁ = spaceAfterLast ⟨t₂, p.cased k⟩ parent id b₂ :=
  any_eq_of_rel h.last_rel fun _ _ hij => spaceBefore_eq ht parent hij hid

lemma related_appendChild (parent : NodeKind) (hr : RenderAlike C R t₁ r₁ r₂ id)
    (h : LineBuffer.Like R b₁ b₂) :
    Related C (appendChild ⟨t₁, p⟩ r₁ parent id ctx b₁) (appendChild ⟨t₂, p.cased k⟩ r₂ parent id ctx b₂)
      (LineBuffer.Like R) := by
  refine .ite (by rw [isComment_eq ht]) (fun hcomment => .pure ?_) fun _ => ?_
  · exact like_appendComment ht hr.lt (by simpa [isComment] using hcomment) h
  · rw [spaceAfterLast_eq ht parent hr.lt h]
    exact related_appendHere hr (h.separate _)

lemma related_appendChildren (parent : NodeKind) {children : List Nat}
    (hr : ∀ child ∈ children, RenderAlike C R t₁ r₁ r₂ child) (h : LineBuffer.Like R b₁ b₂) :
    Related C (appendChildren ⟨t₁, p⟩ r₁ parent children ctx b₁)
      (appendChildren ⟨t₂, p.cased k⟩ r₂ parent children ctx b₂) (LineBuffer.Like R) := by
  refine Related.foldlM (fun child hchild _ _ h => ?_) h
  exact related_appendChild ht parent (hr child hchild) h

end Sheet

/-! ### Nodes on one line -/

namespace Sheet

variable {m₁ m₂ : Type → Type} [Monad m₁] [Monad m₂] [Faulting m₁] [Faulting m₂]
  [MonadStateOf (Cache Policy) m₁] [MonadStateOf (Cache Policy) m₂] [Coupling m₁ m₂]
  {t₁ t₂ : Tree} {p : Policy} {k : LetterCases} {id : Nat} {C : Cache Policy → Cache Policy → Prop}
  {r₁ : RenderIn m₁} {r₂ : RenderIn m₂} {ctx : Context} {column : Nat} (ht : t₁.Alike R p k t₂)
  (hr : ∀ child ∈ visibleChildren ⟨t₁, p⟩ id, RenderAlike C R t₁ r₁ r₂ child)

include ht hr

lemma related_inline : Related C (inline ⟨t₁, p⟩ r₁ id ctx column) (inline ⟨t₂, p.cased k⟩ r₂ id ctx column)
    (Piece.Like R) := by
  unfold inline
  dsimp only
  rw [← ht.kind, ← visibleChildren_eq ht]
  refine (Related.foldlM (fun x hx b₁ b₂ h => ?_) (LineBuffer.Like.of_none rfl)).bind
    fun _ _ h => .pure (.lines h)
  obtain ⟨hchild, hrest⟩ := mem_of_mem_withRest hx
  rw [suffixWidth_eq ht _ _ (hr x.1 hchild).lt fun c hc => (hr c (hrest c hc)).lt]
  exact related_appendChild ht _ (hr x.1 hchild) h

/-- A node is laid out alike if its broken form is. -/
lemma related_onOneLineOr {broken₁ : m₁ LineBuffer} {broken₂ : m₂ LineBuffer} (hid : id < t₁.size)
    (hbroken : Related C broken₁ broken₂ (LineBuffer.Like R)) :
    Related C (onOneLineOr ⟨t₁, p⟩ r₁ broken₁ id ctx column) (onOneLineOr ⟨t₂, p.cased k⟩ r₂ broken₂ id ctx column)
      (Piece.Like R) := by
  have hsingle : Related C (singleLine? ⟨t₁, p⟩ r₁ id ctx column) (singleLine? ⟨t₂, p.cased k⟩ r₂ id ctx column)
      (Option.Rel (Piece.Like R)) := by
    unfold singleLine?
    rw [← measure_eq ht hid]
    split
    · exact .pure .none
    · rw [singleLineAllowed_eq ht]
      refine .ite Iff.rfl (fun _ => ?_) fun _ => .pure .none
      refine (related_inline ht hr).bind fun piece₁ piece₂ hpiece => .pure ?_
      rw [hpiece.isSingleLine_eq]
      split
      · exact .some hpiece
      · exact .none
  refine hsingle.bind fun piece₁? piece₂? hpiece => ?_
  cases hpiece with
  | some hpiece => exact .pure hpiece
  | none => exact hbroken.bind fun _ _ h => .pure (.lines h)

end Sheet
end SqlLayout
