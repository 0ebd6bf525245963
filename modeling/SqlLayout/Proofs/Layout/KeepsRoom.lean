import SqlLayout.Proofs.Layout.Expressions
import SqlLayout.Proofs.Layout.Room

/-!
# Layouts that keep within their room

A layout goes on without a fault as long as its columns stay below their bounds. A construct goes through its
children in a buffer that gets further right by the room of each of them. What it moves them for itself, and
what the columns of its context come to, is in the room of the construct.
-/

namespace SqlLayout

open Text (byteLength)

namespace Sheet

variable {α β : Type} {I : Cache Policy → Prop}

/-! ### Judgements -/

/-- A bounded layout that gives a result on caches with a property, and not a fault. -/
def Succeeds (I : Cache Policy → Prop) (layout : BoundedLayout α) (post : α → Prop) : Prop :=
  ∀ cache, I cache → ∃ a cache', layout cache = .ok (a, cache') ∧ post a ∧ I cache'

namespace Succeeds

lemma pure {post : α → Prop} {a : α} (h : post a) : Succeeds I (Pure.pure a) post :=
  fun cache hcache => ⟨a, cache, rfl, h, hcache⟩

lemma bind {layout : BoundedLayout α} {next : α → BoundedLayout β} {mid : α → Prop} {post : β → Prop}
    (h : Succeeds I layout mid) (hnext : ∀ a, mid a → Succeeds I (next a) post) :
    Succeeds I (layout >>= next) post := by
  intro cache hcache
  obtain ⟨a, cache', hresult, hmid, hcache'⟩ := h cache hcache
  have hbind : (layout >>= next) cache = next a cache' := by
    show Except.bind (layout cache) _ = _
    rw [hresult]
    rfl
  rw [hbind]
  exact hnext a hmid cache' hcache'

lemma mono {layout : BoundedLayout α} {mid post : α → Prop} (h : Succeeds I layout mid)
    (hpost : ∀ a, mid a → post a) : Succeeds I layout post := by
  intro cache hcache
  obtain ⟨a, cache', hresult, hmid, hcache'⟩ := h cache hcache
  exact ⟨a, cache', hresult, hpost a hmid, hcache'⟩

lemma ite {c : Prop} [Decidable c] {layout layout' : BoundedLayout α} {post : α → Prop}
    (h : c → Succeeds I layout post) (h' : ¬c → Succeeds I layout' post) :
    Succeeds I (if c then layout else layout') post := by
  split
  · next hc => exact h hc
  · next hc => exact h' hc

/-- What every step of a loop keeps, the loop keeps. -/
lemma steps {σ γ : Type} {step : σ → γ → BoundedLayout σ} {xs : List γ} {inv : σ → Prop}
    (hstep : ∀ x ∈ xs, ∀ s, inv s → Succeeds I (step s x) inv) {s : σ} (h : inv s) :
    Succeeds I (xs.foldlM step s) inv := by
  induction xs generalizing s with
  | nil => exact .pure h
  | cons x xs ih =>
    rw [List.foldlM_cons]
    exact (hstep x (by simp) s h).bind fun s hs => ih (fun y hy => hstep y (by simp [hy])) hs

lemma modifyGet {post : α → Prop} {f : Cache Policy → α × Cache Policy}
    (h : ∀ cache, I cache → post (f cache).1 ∧ I (f cache).2) :
    Succeeds I (MonadStateOf.modifyGet f : BoundedLayout α) post :=
  fun cache hcache => ⟨_, _, rfl, h cache hcache⟩

/-- There is nothing to stop for. -/
lemma stopFor {layout : BoundedLayout α} {fault? : Option LayoutFault} {post : α → Prop} (hfault : fault? = none)
    (h : Succeeds I layout post) : Succeeds I (do Faulting.stopFor fault?; layout) post := by
  subst hfault
  exact h

end Succeeds

end Sheet

/-- Offsets of parts that are no larger than a bound. -/
def AlignmentOffsets.AtMost (bound : Nat) (offsets : AlignmentOffsets) : Prop :=
  ∀ role offset, offsets.get role = some offset → offset ≤ bound

namespace Sheet

variable {sh : Sheet} {γ : Type} {I : Cache Policy → Prop} {render : RenderIn BoundedLayout}
  {id child : Nat} {children : List Nat} {ctx : Context} {b : LineBuffer}
  {start low high column r n : Nat}

/-! ### Nodes with room -/

/-- Columns that a node needs in a context: a branch that is only measured ends before its `THEN`. -/
def needs (sh : Sheet) (id : Nat) (ctx : Context) : Nat :=
  if sh.tree.kind id = .whenBranch ∧ ctx.isMeasuring = true then sh.headRoom id else sh.pieceRoom id

/--
Room for a node that needs so many columns, laid out in a context from a column on: it stays below a bound
there. A branch also needs room behind the column of its `THEN`, and a declaration behind the offsets of its
parts.
-/
structure HasRoom (sh : Sheet) (need id : Nat) (ctx : Context) (column right : Nat) : Prop where
  line : sh.lineWidth + need ≤ right
  column : column + need ≤ right
  indent : ctx.indent + need ≤ right
  bound : 2 * right < Text.sizeBound
  thenColumn : sh.tree.kind id = .whenBranch →
    ∀ phase target, ctx.caseBranch? = some (phase, some target) → target + sh.resultRoom id ≤ right
  offsets : sh.tree.kind id = .declaration →
    ∀ offsets, ctx.offsets? = some offsets → offsets.AtMost sh.farthestOffset ∧ ctx.trailing ≤ 1

/-- A node that keeps within its room. -/
def KeepsRoom (sh : Sheet) (I : Cache Policy → Prop) (render : RenderIn BoundedLayout) (id : Nat) : Prop :=
  ∀ ctx column right, sh.HasRoom (sh.needs id ctx) id ctx column right →
    Succeeds I (render id ctx column) (·.InRoom column right (sh.pieceRoom id))

lemma needs_le (id : Nat) (ctx : Context) : sh.needs id ctx ≤ sh.pieceRoom id := by
  unfold needs
  split
  · next h => exact (headRoom_add_resultRoom h.1).symm ▸ Nat.le_add_right _ _
  · exact Nat.le_refl _

lemma needs_of_whole (h : Whole sh ctx id) : sh.needs id ctx = sh.pieceRoom id := by
  refine if_neg fun hmeasured => ?_
  rcases h with hno | hno
  · exact absurd (hno.symm.trans hmeasured.2) Bool.false_ne_true
  · exact hno hmeasured.1

/-- A context that tells a node of no column of `THEN`, and of offsets in bounds only. -/
def Suits (sh : Sheet) (id : Nat) (ctx : Context) : Prop :=
  (sh.tree.kind id = .whenBranch → ∀ phase target, ctx.caseBranch? ≠ some (phase, some target))
    ∧ (sh.tree.kind id = .declaration →
      ∀ offsets, ctx.offsets? = some offsets → offsets.AtMost sh.farthestOffset ∧ ctx.trailing ≤ 1)

lemma suits_of_none (h : ctx.overlay = .none) : sh.Suits id ctx := by
  refine ⟨fun _ phase target => ?_, fun _ offsets heq => ?_⟩
  · simp [Context.caseBranch?, h]
  · simp [Context.offsets?, h] at heq

lemma suits_of_kind (hbranch : sh.tree.kind id ≠ .whenBranch) (hdeclaration : sh.tree.kind id ≠ .declaration) :
    sh.Suits id ctx :=
  ⟨fun hkind => absurd hkind hbranch, fun hkind => absurd hkind hdeclaration⟩

/-- A leaf has no use for either. -/
lemma suits_of_isLeafOf {kind : TokenKind} (h : sh.tree.isLeafOf id kind = true) : sh.Suits id ctx := by
  rw [Tree.isLeafOf] at h
  refine suits_of_kind ?_ ?_ <;> intro hkind <;> rw [hkind] at h <;> contradiction

/-- What the layout of a construct takes for granted while its buffer gets from one bound to another. -/
structure Frame (sh : Sheet) (low high : Nat) : Prop where
  ordered : sh.tree.Ordered
  line : sh.lineWidth ≤ low
  bound : 2 * high < Text.sizeBound

/-- The columns that a construct starts from leave room for all its children. -/
lemma HasRoom.frame {right : Nat} (h : sh.HasRoom (sh.pieceRoom id) id ctx column right) (ht : sh.tree.Ordered) :
    ∃ low, sh.Frame low right ∧ column + sh.reach ≤ low ∧ ctx.indent + sh.reach ≤ low
      ∧ low + sh.rooms (sh.visibleChildren id) + sh.reach ≤ right := by
  obtain ⟨hline, hcolumn, hindent, hbound, -, -⟩ := h
  rw [pieceRoom, ownRoom] at hline hcolumn hindent
  refine ⟨right - sh.rooms (sh.visibleChildren id) - sh.reach, ⟨ht, ?_, hbound⟩, ?_, ?_, ?_⟩ <;> omega

/-! ### Steps -/

/-- A step on buffers by which they get further right by at most some columns, and no further than a bound. -/
def Widens (I : Cache Policy → Prop) (start low high cost : Nat) (step : LineBuffer → BoundedLayout LineBuffer) :
    Prop :=
  ∀ b r n, low ≤ r → r + cost ≤ high → b.InRoom start r n →
    Succeeds I (step b) (·.InRoom start (r + cost) (n + cost))

namespace Widens

variable {cost cost' : Nat} {step next : LineBuffer → BoundedLayout LineBuffer}

/-- A step after another. -/
lemma after (h : Widens I start low high cost' next) (hlow : low ≤ r) (hhigh : r + (cost + cost') ≤ high)
    (hb : b.InRoom start (r + cost) (n + cost)) :
    Succeeds I (next b) (·.InRoom start (r + (cost + cost')) (n + (cost + cost'))) := by
  have hnext := h b (r + cost) (n + cost) (by omega) (by omega) hb
  rwa [Nat.add_assoc, Nat.add_assoc] at hnext

lemma bind (h : Widens I start low high cost step) (hnext : Widens I start low high cost' next) :
    Widens I start low high (cost + cost') fun b => step b >>= next := by
  intro b r n hlow hhigh hb
  exact (h b r n hlow (by omega) hb).bind fun b hb => hnext.after hlow hhigh hb

lemma pure (start low high : Nat) : Widens I start low high 0 fun b => Pure.pure b :=
  fun _ _ _ _ _ hb => .pure hb

/-- A loop over things with costs of their own. -/
lemma foldlM {step : LineBuffer → γ → BoundedLayout LineBuffer} {xs : List γ} (child : γ → Nat)
    (hchildren : xs.map child = children)
    (hstep : ∀ x, child x ∈ children → Widens I start low high (sh.room (child x)) fun b => step b x) :
    Widens I start low high (sh.rooms children) fun b => xs.foldlM step b := by
  subst hchildren
  induction xs with
  | nil => exact .pure start low high
  | cons x xs ih =>
    simp only [List.foldlM_cons, List.map_cons, rooms_cons]
    exact (hstep x (by simp)).bind (ih fun y hy => hstep y (by simp [hy]))

end Widens

/-! ### Appending nodes -/

/-- A comment takes the columns of its text, and one for a space before it. -/
lemma inRoom_appendComment (hkind : sh.tree.kind child = .comment) (hb : b.InRoom start r n) :
    (sh.appendComment child b).InRoom start (r + 3 * byteLength (sh.ownText child) + 1)
      (n + byteLength (sh.ownText child)) := by
  have htrim := Text.byteLength_dropEndWhile_le Text.isBlank (sh.tree.tokens.text (sh.tree.firstToken child))
  rw [ownText, hkind]
  dsimp only
  unfold appendComment
  split
  · exact hb.mono (by omega) (by omega)
  dsimp only
  generalize hplaced : (if b.pendingBreak || _ then b.newline else b.separate _) = placed
  have hinRoom : placed.InRoom start (r + 1) n := by
    rw [← hplaced]
    split
    · exact hb.newline.further 1
    · exact hb.separate _
  have hwritten := ((hinRoom.pushVerbatim (Text.trimEnd (sh.tree.tokens.text (sh.tree.firstToken child)))).setLast
    (some (sh.tree.firstToken child)))
  rw [Text.trimEnd] at hwritten ⊢
  split
  · exact (hwritten.mono (by omega) (by omega)).forceBreak
  · exact hwritten.mono (by omega) (by omega)

lemma inRoom_appendComment_room (ht : sh.tree.Ordered) (hkind : sh.tree.kind child = .comment)
    (hb : b.InRoom start (r + 3) n) :
    (sh.appendComment child b).InRoom start (r + sh.room child) (n + sh.room child) := by
  have hroom := sh.pieceRoom_add_le_room ht child
  rw [pieceRoom, ownRoom] at hroom
  exact (inRoom_appendComment hkind hb).mono (by omega) (by omega)

namespace KeepsRoom

/-- What a node comes to where it is appended, up to four columns further on. -/
lemma append (h : sh.KeepsRoom I render child) (hframe : sh.Frame low high) (hctx : sh.Suits child ctx)
    (hlow : low ≤ r) (hindent : ctx.indent ≤ r + 4) (hhigh : r + sh.room child ≤ high)
    (hb : b.InRoom start (r + 4) n) :
    Succeeds I (render child ctx b.column)
      fun piece => (b.append piece).InRoom start (r + sh.room child) (n + sh.room child) := by
  have hroom := sh.pieceRoom_add_le_room hframe.ordered child
  have hline := hframe.line
  have hbound := hframe.bound
  have hcolumn := hb.column
  have hneeds := sh.needs_le child ctx
  have hhas : sh.HasRoom (sh.needs child ctx) child ctx b.column (r + sh.room child) :=
    ⟨by omega, by omega, by omega, by omega, fun hkind phase target heq => absurd heq (hctx.1 hkind phase target),
      hctx.2⟩
  exact (h ctx b.column _ hhas).mono fun piece hpiece =>
    (hb.append hpiece (by omega)).mono (Nat.le_refl _) (by omega)

lemma appendHere (h : sh.KeepsRoom I render child) (hframe : sh.Frame low high) (hctx : sh.Suits child ctx)
    (hlow : low ≤ r) (hindent : ctx.indent ≤ r + 4) (hhigh : r + sh.room child ≤ high)
    (hb : b.InRoom start (r + 4) n) :
    Succeeds I (appendHere render child ctx b) (·.InRoom start (r + sh.room child) (n + sh.room child)) :=
  (h.append hframe hctx hlow hindent hhigh hb).bind fun _ hpiece => .pure hpiece

/-- A node at the start of a line. -/
lemma appendOnLine (h : sh.KeepsRoom I render child) (hframe : sh.Frame low high) (hctx : sh.Suits child ctx)
    (hlow : low ≤ r) (hindent : ctx.indent ≤ r + 4) (hcolumn : column ≤ r) (hhigh : r + sh.room child ≤ high)
    (hb : b.InRoom start r n) :
    Succeeds I (Sheet.appendHere render child ctx (b.newlineAt column))
      (·.InRoom start (r + sh.room child) (n + sh.room child)) := by
  have hline : (b.newlineAt column).InRoom start r n := hb.newlineAt hcolumn
  exact h.appendHere hframe hctx hlow hindent hhigh (hline.further 4)

lemma appendChild (h : sh.KeepsRoom I render child) (hframe : sh.Frame low high) (hctx : sh.Suits child ctx)
    (parent : NodeKind) (hlow : low ≤ r) (hindent : ctx.indent ≤ r + 4) (hhigh : r + sh.room child ≤ high)
    (hb : b.InRoom start (r + 3) n) :
    Succeeds I (sh.appendChild render parent child ctx b)
      (·.InRoom start (r + sh.room child) (n + sh.room child)) := by
  unfold Sheet.appendChild
  split
  · next hcomment => exact .pure (inRoom_appendComment_room hframe.ordered (by simpa [isComment] using hcomment) hb)
  · exact h.appendHere hframe hctx hlow hindent hhigh (hb.separate _)

end KeepsRoom

/-- A step through all children of a construct, from an empty buffer on. -/
lemma Widens.run {right indent : Nat} {step : LineBuffer → BoundedLayout LineBuffer}
    (h : Widens I column low right (sh.rooms (sh.visibleChildren id)) step) (hcolumn : column + sh.reach ≤ low)
    (hindent : indent ≤ low) (hright : low + sh.rooms (sh.visibleChildren id) + sh.reach ≤ right) :
    Succeeds I (step { LineBuffer.startingAt column with indentBase := indent })
      (·.InRoom column right (sh.pieceRoom id)) := by
  have hrooms : sh.rooms (sh.visibleChildren id) ≤ sh.pieceRoom id := Nat.le_add_left _ _
  have hstart : LineBuffer.InRoom column low 0 { LineBuffer.startingAt column with indentBase := indent } :=
    .startingAt (by omega) hindent 0
  exact (h _ low 0 (Nat.le_refl _) (by omega) hstart).mono fun b hb => hb.mono (by omega) (by omega)

end Sheet
end SqlLayout
