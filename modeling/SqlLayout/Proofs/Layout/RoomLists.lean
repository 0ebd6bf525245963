import SqlLayout.Proofs.Layout.Items
import SqlLayout.Proofs.Layout.RoomExpressions

/-!
# Lists keep within their room

A comma that is written before the next item is held back until then, and its room with it.
-/

namespace SqlLayout.Sheet

variable {sh : Sheet} {I : Cache Policy → Prop} {render : RenderIn BoundedLayout}
  {id child : Nat} {children : List Nat} {ctx : Context} {b : LineBuffer}
  {start low high column r n : Nat}

/-! ### Lists -/

section Lists

variable {item : ListItem} {items : List ListItem} {p : ListProgress}

/-- Room of the comma that is held back until the next item. -/
def heldRoom (sh : Sheet) (p : ListProgress) : Nat :=
  sh.rooms (if sh.commaFirst then p.previousComma else none).toList

/-- Items that have got no further right than a bound, with the comma that is held back. -/
def ItemsInRoom (sh : Sheet) (start low right spare : Nat) (p : ListProgress) : Prop :=
  ∃ r n, low ≤ r ∧ r + sh.heldRoom p ≤ right ∧ n + sh.heldRoom p ≤ spare ∧ p.buf.InRoom start r n
    ∧ ∀ c, p.previousComma = some c → sh.tree.isLeafOf c .comma = true

lemma widens_appendComma {comma : Option Nat} (hframe : sh.Frame low high) (hindent : ctx.indent ≤ low)
    (hr : ∀ c, comma = some c → sh.KeepsRoom I render c ∧ sh.tree.isLeafOf c .comma = true) :
    Widens I start low high (sh.rooms comma.toList) (sh.appendComma render comma ctx) := by
  cases comma with
  | none => exact .pure start low high
  | some comma =>
    obtain ⟨hkeeps, hleaf⟩ := hr comma rfl
    rw [rooms_toList_some]
    intro b r n hlow hhigh hb
    exact hkeeps.appendChild hframe (suits_of_isLeafOf hleaf) _ hlow (by omega) hhigh (hb.further 3)

lemma succeeds_startGroup (hframe : sh.Frame low high) (hindent : ctx.indent ≤ low) (hcolumn : column ≤ low)
    (hr : ∀ c, p.previousComma = some c → sh.KeepsRoom I render c ∧ sh.tree.isLeafOf c .comma = true)
    (hlow : low ≤ r) (hhigh : r + sh.heldRoom p ≤ high) (hb : p.buf.InRoom start r n) :
    Succeeds I (sh.startGroup render column p ctx)
      (·.InRoom start (r + sh.heldRoom p + 1) (n + sh.heldRoom p)) := by
  unfold startGroup
  split
  · next comma hcomma hfirst =>
    obtain ⟨hkeeps, hleaf⟩ := hr comma hcomma
    have hheld : sh.heldRoom p = sh.room comma := by
      rw [heldRoom, hfirst, if_pos rfl, hcomma, rooms_toList_some]
    rw [hheld] at hhigh ⊢
    have hline : (p.buf.newlineAt (column - 2)).InRoom start r n := hb.newlineAt (by omega)
    refine (hkeeps.appendHere hframe (suits_of_isLeafOf hleaf) hlow (by omega) hhigh (hline.further 4)).bind
      fun b hb => .pure (hb.pushSpace.padTo (by omega))
  · exact .pure ((hb.newlineAt (by omega)).mono (by omega) (Nat.le_refl _))

/-- An element is laid out where a space may have been added. -/
lemma succeeds_placeItem (hframe : sh.Frame low high) (hindent : ctx.indent ≤ low) (hcolumn : column ≤ low)
    (hr : ∀ c, p.previousComma = some c → sh.KeepsRoom I render c ∧ sh.tree.isLeafOf c .comma = true)
    (hlow : low ≤ r) (hhigh : r + sh.heldRoom p ≤ high) (hb : p.buf.InRoom start r n) (onePerLine : Bool)
    (trailing : Nat) :
    Succeeds I (sh.placeItem render onePerLine column ctx item trailing p) fun p' =>
      p'.buf.InRoom start (r + sh.heldRoom p + item.element.toList.length) (n + sh.heldRoom p) := by
  have hcomma : Widens I start low high (sh.heldRoom p)
      (sh.appendComma render (if sh.commaFirst then p.previousComma else none) ctx) := by
    refine widens_appendComma hframe hindent fun c hc => ?_
    split at hc
    · exact hr c hc
    · contradiction
  unfold placeItem
  dsimp only
  refine .ite (fun _ => .pure (hb.mono (by omega) (by omega))) fun _ => .ite (fun hnone => ?_) fun hsome => ?_
  · exact (hcomma _ r n hlow hhigh hb).bind fun b hb => .pure (hb.further _)
  · have hone : item.element.toList.length = 1 := by
      cases helement : item.element with
      | none => exact absurd (by rw [helement]; rfl) hsome
      | some element => rfl
    rw [hone]
    refine .ite (fun _ => ?_) fun _ => ?_
    · exact (hcomma _ r n hlow hhigh hb).bind fun b hb => .pure hb.pushSpace
    · exact (succeeds_startGroup hframe hindent hcolumn hr hlow hhigh hb).bind fun b hb => .pure hb

lemma succeeds_appendElement {element : Option Nat} (hframe : sh.Frame low high)
    (hr : ∀ e, element = some e → sh.KeepsRoom I render e) (hlow : low ≤ r)
    (hhigh : r + sh.rooms element.toList ≤ high) (hb : b.InRoom start (r + element.toList.length) n)
    (trailing : Nat) :
    Succeeds I (appendElement render element trailing b) fun result =>
      result.1.InRoom start (r + sh.rooms element.toList) (n + sh.rooms element.toList) := by
  cases element with
  | none => exact .pure hb
  | some e =>
    have hcolumn : b.column ≤ r + 1 := hb.column
    rw [rooms_toList_some] at hhigh ⊢
    exact ((hr e rfl).append hframe (suits_of_none rfl) hlow (show b.column ≤ r + 4 by omega) hhigh
      (hb.further 3)).bind fun piece hpiece => .pure hpiece

lemma inRoom_comments {comments : List Nat} (ht : sh.tree.Ordered)
    (hkind : ∀ c ∈ comments, sh.tree.kind c = .comment) (hb : b.InRoom start r n) :
    (comments.foldl (fun b comment => sh.appendComment comment b) b).InRoom start (r + sh.rooms comments)
      (n + sh.rooms comments) := by
  induction comments generalizing b r n with
  | nil => exact hb
  | cons comment comments ih =>
    have hcomment := inRoom_appendComment_room ht (hkind comment (by simp)) (hb.further 3)
    rw [rooms_cons, ← Nat.add_assoc, ← Nat.add_assoc]
    exact ih (fun c hc => hkind c (by simp [hc])) hcomment

lemma rooms_ids (item : ListItem) :
    sh.rooms item.ids = sh.rooms item.element.toList + sh.rooms item.comma.toList + sh.rooms item.comments := by
  rw [ListItem.ids, rooms_append, rooms_append]

/-- Each item takes the room of its nodes, but for a comma that is held back, and that of the comma before it. -/
lemma succeeds_appendItem {right spare : Nat} (hframe : sh.Frame low high) (hindent : ctx.indent ≤ low)
    (hcolumn : column ≤ low) (hr : IsItem sh (sh.KeepsRoom I render) item)
    (hcommas : ∀ c, p.previousComma = some c → sh.KeepsRoom I render c)
    (hp : sh.ItemsInRoom start low right spare p)
    (hright : right + sh.rooms item.ids ≤ high) (onePerLine isLast : Bool) :
    Succeeds I (sh.appendItem render onePerLine column ctx item isLast p) fun p' =>
      sh.ItemsInRoom start low (right + sh.rooms item.ids) (spare + sh.rooms item.ids) p'
        ∧ p'.previousComma = item.comma := by
  obtain ⟨r, n, hlow, hr', hn, hb, hleaf⟩ := hp
  rw [rooms_ids] at hright ⊢
  unfold appendItem
  refine (succeeds_placeItem hframe hindent hcolumn (fun c hc => ⟨hcommas c hc, hleaf c hc⟩) hlow (by omega) hb
    onePerLine _).bind fun p' hp' => ?_
  refine (succeeds_appendElement (r := r + sh.heldRoom p) hframe (fun e he => hr.element he) (by omega) (by omega)
    hp' _).bind fun result hresult => ?_
  obtain ⟨b, isSingle⟩ := result
  have hcomma : Widens I start low high (sh.rooms (if sh.commaFirst then none else item.comma).toList)
      (sh.appendComma render (if sh.commaFirst then none else item.comma) ctx) := by
    refine widens_appendComma hframe hindent fun c hc => ?_
    split at hc
    · contradiction
    · exact hr.comma hc
  have hsplit : sh.rooms (if sh.commaFirst then none else item.comma).toList
      + sh.rooms (if sh.commaFirst then item.comma else none).toList = sh.rooms item.comma.toList := by
    split
    · exact Nat.zero_add _
    · exact Nat.add_zero _
  refine (hcomma b _ _ (by omega) (by omega) hresult).bind fun b hb => .pure ⟨⟨_, _, ?_, ?_, ?_,
    inRoom_comments hframe.ordered (fun c hc => (hr.comments c hc).2) hb, fun c hc => (hr.comma hc).2⟩, rfl⟩
  all_goals dsimp only [heldRoom] at *
  all_goals omega

/-- The items of a list need no more room than its children. -/
lemma rooms_itemsFrom_le (item : ListItem) (children : List Nat) :
    ((sh.itemsFrom item children).map fun i => sh.rooms i.ids).sum ≤ sh.rooms item.ids + sh.rooms children := by
  fun_induction itemsFrom sh item children with
  | case1 => exact Nat.zero_le _
  | case2 => simp
  | case3 item child rest _ ih =>
    simp only [rooms_ids, rooms_append, rooms_cons, rooms_nil] at ih ⊢
    omega
  | case4 item child rest _ _ ih =>
    simp only [List.map_cons, List.sum_cons, rooms_ids, Option.toList_none, Option.toList_some, rooms_cons,
      rooms_nil] at ih ⊢
    omega
  | case5 item child rest _ _ _ ih =>
    simp only [rooms_ids, Option.toList_some, rooms_cons, rooms_nil] at ih ⊢
    omega
  | case6 item child rest _ _ _ ih =>
    simp only [List.map_cons, List.sum_cons, rooms_ids, Option.toList_none, Option.toList_some, rooms_cons,
      rooms_nil] at ih ⊢
    omega

lemma succeeds_items {right spare : Nat} (hframe : sh.Frame low high) (hindent : ctx.indent ≤ low)
    (hcolumn : column ≤ low) (hr : ∀ item ∈ items, IsItem sh (sh.KeepsRoom I render) item)
    (hcommas : ∀ c, p.previousComma = some c → sh.KeepsRoom I render c)
    (hp : sh.ItemsInRoom start low right spare p)
    (hright : right + (items.map fun i => sh.rooms i.ids).sum ≤ high) (onePerLine : Bool) :
    Succeeds I ((withRest items).foldlM
      (fun p (item, rest) => sh.appendItem render onePerLine column ctx item rest.isEmpty p) p) fun p' =>
        sh.ItemsInRoom start low (right + (items.map fun i => sh.rooms i.ids).sum)
          (spare + (items.map fun i => sh.rooms i.ids).sum) p'
          ∧ ∀ c, p'.previousComma = some c → sh.KeepsRoom I render c := by
  induction items generalizing p right spare with
  | nil => exact .pure ⟨hp, hcommas⟩
  | cons item items ih =>
    have hitem := hr item (by simp)
    rw [List.map_cons, List.sum_cons] at hright ⊢
    rw [withRest, List.foldlM_cons, ← Nat.add_assoc, ← Nat.add_assoc]
    refine (succeeds_appendItem hframe hindent hcolumn hitem hcommas hp (by omega) onePerLine _).bind
      fun p' hp' => ih (fun i hi => hr i (by simp [hi])) (fun c hc => ?_) hp'.1 (by omega)
    rw [hp'.2] at hc
    exact (hitem.comma hc).1

lemma succeeds_commaList {right : Nat} (ht : sh.tree.Ordered)
    (hr : ∀ child ∈ sh.visibleChildren id, sh.KeepsRoom I render child)
    (h : sh.HasRoom (sh.pieceRoom id) id ctx column right) :
    Succeeds I (sh.commaList render id ctx column) (·.New column right (sh.pieceRoom id)) := by
  obtain ⟨low, hframe, hcolumn, hindent, hright⟩ := h.frame ht
  have hown : sh.rooms (sh.visibleChildren id) ≤ sh.pieceRoom id := Nat.le_add_left _ _
  have hitems : ∀ item ∈ sh.listItems id, IsItem sh (sh.KeepsRoom I render) item :=
    isItem_itemsFrom hr isItem_empty
  have hsum : ((sh.listItems id).map fun i => sh.rooms i.ids).sum ≤ sh.rooms (sh.visibleChildren id) := by
    have hle := sh.rooms_itemsFrom_le {} (sh.visibleChildren id)
    rw [rooms_ids] at hle
    simpa [listItems] using hle
  have hgroup : sh.groupColumn ctx column ≤ low := by
    rw [reach] at hcolumn hindent
    unfold groupColumn
    split_ifs
    · omega
    · split <;> omega
  refine succeeds_onOneLineOr ht hr h ?_
  unfold brokenList
  dsimp only
  have hstart : sh.ItemsInRoom column low low 0
      { buf := { LineBuffer.startingAt column with indentBase := sh.groupColumn ctx column } } := by
    refine ⟨low, 0, Nat.le_refl _, ?_, ?_, .startingAt (by omega) hgroup 0,
      fun c hc => absurd hc (Option.not_mem_none c)⟩
    all_goals simp [heldRoom]
  have hnone : ∀ c, (none : Option Nat) = some c → sh.KeepsRoom I render c :=
    fun c hc => absurd hc (Option.not_mem_none c)
  refine (succeeds_items hframe (by omega) hgroup hitems hnone hstart (by omega) _).bind fun p hp => ?_
  obtain ⟨⟨r, n, hlow, hr', hn, hb, hleaf⟩, hcommas⟩ := hp
  have hcomma : Widens I column low right (sh.heldRoom p)
      (sh.appendComma render (if sh.commaFirst then p.previousComma else none) ctx) := by
    refine widens_appendComma hframe (by omega) fun c hc => ?_
    split at hc
    · exact ⟨hcommas c hc, hleaf c hc⟩
    · contradiction
  exact (hcomma p.buf r n hlow (by omega) hb).mono fun b hb => hb.mono (by omega) (by omega)

end Lists

end SqlLayout.Sheet
