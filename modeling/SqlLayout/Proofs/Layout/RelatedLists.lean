import SqlLayout.Layout.Declaration
import SqlLayout.Proofs.Layout.Items
import SqlLayout.Proofs.Layout.Related

/-!
# Lists and declarations side by side

Lists in alike trees have the same items, and declarations the same offsets. Their layouts are related, if
those of their children are.
-/

namespace SqlLayout.Sheet

open LineBuffer (Like)

variable {m₁ m₂ : Type → Type} [Monad m₁] [Monad m₂] [Faulting m₁] [Faulting m₂]
  [MonadStateOf (Cache Policy) m₁] [MonadStateOf (Cache Policy) m₂] [Coupling m₁ m₂]
  {R : Correspondence} {C : Cache Policy → Cache Policy → Prop} {t₁ t₂ : Tree} {p : Policy} {k : LetterCases}
  {r₁ : RenderIn m₁} {r₂ : RenderIn m₂} {id : Nat} {ctx : Context} {column : Nat} {children : List Nat} {b₁ b₂ : LineBuffer}

/-- Stages of lists that agree in all but their buffers, which are alike, and can go on with their comma. -/
inductive ProgressLike (C : Cache Policy → Cache Policy → Prop) (R : Correspondence) (t₁ : Tree)
    (r₁ : RenderIn m₁) (r₂ : RenderIn m₂) : ListProgress → ListProgress → Prop where
  | of (progress : ListProgress) {b₁ b₂ : LineBuffer} : Like R b₁ b₂ →
    (∀ c, progress.previousComma = some c → RenderAlike C R t₁ r₁ r₂ c) →
    ProgressLike C R t₁ r₁ r₂ { progress with buf := b₁ } { progress with buf := b₂ }

lemma related_appendElement {element : Option Nat} (trailing : Nat)
    (hr : ∀ e, element = some e → RenderAlike C R t₁ r₁ r₂ e) (h : Like R b₁ b₂) :
    Related C (appendElement r₁ element trailing b₁) (appendElement r₂ element trailing b₂)
      fun x y => Like R x.1 y.1 ∧ x.2 = y.2 := by
  cases element with
  | none => exact .pure ⟨h, rfl⟩
  | some e =>
    unfold appendElement
    rw [h.column_eq]
    exact ((hr e rfl).related _ _).bind fun _ _ hpiece =>
      .pure ⟨h.append hpiece, hpiece.isSingleLine_eq⟩

variable (ht : t₁.Alike R p k t₂)

include ht

/-! ### Lists -/

lemma itemsFrom_eq (item : ListItem) (children : List Nat) :
    itemsFrom ⟨t₁, p⟩ item children = itemsFrom ⟨t₂, p.cased k⟩ item children := by
  induction children generalizing item with
  | nil => rfl
  | cons child rest ih => simp only [itemsFrom, isComment_eq ht, isLeafOf_eq ht, ih]

lemma itemWidth_eq {item : ListItem} (hlt : ∀ e, item.element = some e → e < t₁.size) :
    itemWidth ⟨t₁, p⟩ item = itemWidth ⟨t₂, p.cased k⟩ item := by
  unfold itemWidth
  cases helement : item.element with
  | none => simp only [Option.bind_none]
  | some e => simp only [Option.bind_some, measure_eq ht (hlt e helement)]

lemma hasBrokenElement_eq {items : List ListItem}
    (hlt : ∀ item ∈ items, ∀ e, item.element = some e → e < t₁.size) :
    hasBrokenElement ⟨t₁, p⟩ items = hasBrokenElement ⟨t₂, p.cased k⟩ items := by
  unfold hasBrokenElement
  rw [Bool.eq_iff_iff, List.any_eq_true, List.any_eq_true]
  refine exists_congr fun item => and_congr_right fun hitem => ?_
  cases helement : item.element with
  | none => simp only [Option.any_none]
  | some e => simp only [Option.any_some, measure_eq ht (hlt item hitem e helement)]

lemma related_appendComma {comma : Option Nat} (hr : ∀ c, comma = some c → RenderAlike C R t₁ r₁ r₂ c)
    (h : Like R b₁ b₂) :
    Related C (appendComma ⟨t₁, p⟩ r₁ comma ctx b₁) (appendComma ⟨t₂, p.cased k⟩ r₂ comma ctx b₂) (Like R) := by
  cases comma with
  | none => exact .pure h
  | some c => exact related_appendChild ht _ (hr c rfl) h

omit ht in
lemma related_startGroup {x y : ListProgress} (h : ProgressLike C R t₁ r₁ r₂ x y) :
    Related C (startGroup ⟨t₁, p⟩ r₁ column x ctx) (startGroup ⟨t₂, p.cased k⟩ r₂ column y ctx) (Like R) := by
  cases h with
  | of progress h hcomma =>
    unfold startGroup commaFirst
    dsimp only
    split
    · next c hc _ =>
      exact (related_appendHere (hcomma c hc) (h.newlineAt _)).bind
        fun _ _ h => .pure (h.pushSpace.padTo column)
    · exact .pure (h.newlineAt column)

lemma related_placeItem {item : ListItem} (hlt : ∀ e, item.element = some e → e < t₁.size)
    (onePerLine : Bool) (trailing : Nat) {x y : ListProgress} (h : ProgressLike C R t₁ r₁ r₂ x y) :
    Related C (placeItem ⟨t₁, p⟩ r₁ onePerLine column ctx item trailing x)
      (placeItem ⟨t₂, p.cased k⟩ r₂ onePerLine column ctx item trailing y) (ProgressLike C R t₁ r₁ r₂) := by
  have hgroup : Related C (startGroup ⟨t₁, p⟩ r₁ column x ctx) (startGroup ⟨t₂, p.cased k⟩ r₂ column y ctx)
      (Like R) := related_startGroup h
  cases h with
  | of progress h hcomma =>
    have hheld (c : Nat) (hc : (if commaFirst ⟨t₁, p⟩ then progress.previousComma else none) = some c) :
        RenderAlike C R t₁ r₁ r₂ c := by
      split at hc
      · exact hcomma c hc
      · exact absurd hc (by simp)
    unfold placeItem joinsGroup
    dsimp only
    rw [itemWidth_eq ht hlt, h.pendingBreak_eq, h.column_eq]
    refine .ite Iff.rfl (fun _ => .pure ?_) fun _ => .ite Iff.rfl (fun _ => ?_) fun _ =>
      .ite Iff.rfl (fun _ => ?_) fun _ => ?_
    · exact .of { progress with count := 1, length := _ } h hcomma
    · exact (related_appendComma ht hheld h).bind fun _ _ h => .pure (.of progress h hcomma)
    · exact (related_appendComma ht hheld h).bind fun _ _ h => .pure
        (.of { progress with count := _, length := _ } h.pushSpace hcomma)
    · exact hgroup.bind fun _ _ h => .pure (.of { progress with count := 1, length := _ } h hcomma)

lemma like_appendComments {comments : List Nat}
    (hcomments : ∀ c ∈ comments, c < t₁.size ∧ t₁.kind c = .comment) (h : Like R b₁ b₂) :
    Like R (comments.foldl (fun buf comment => appendComment ⟨t₁, p⟩ comment buf) b₁)
      (comments.foldl (fun buf comment => appendComment ⟨t₂, p.cased k⟩ comment buf) b₂) := by
  induction comments generalizing b₁ b₂ with
  | nil => exact h
  | cons c comments ih =>
    obtain ⟨hc, hkind⟩ := hcomments c (by simp)
    exact ih (fun c hc => hcomments c (by simp [hc])) (like_appendComment ht hc hkind h)

lemma related_appendItem {item : ListItem} (hitem : IsItem ⟨t₁, p⟩ (RenderAlike C R t₁ r₁ r₂) item)
    (onePerLine isLast : Bool) {x y : ListProgress} (h : ProgressLike C R t₁ r₁ r₂ x y) :
    Related C (appendItem ⟨t₁, p⟩ r₁ onePerLine column ctx item isLast x)
      (appendItem ⟨t₂, p.cased k⟩ r₂ onePerLine column ctx item isLast y) (ProgressLike C R t₁ r₁ r₂) := by
  unfold appendItem
  dsimp only
  refine (related_placeItem ht (fun e he => (hitem.element he).lt) onePerLine _ h).bind fun x y h => ?_
  cases h with
  | of progress h _ =>
    refine (related_appendElement _ (fun e he => hitem.element he) h).bind fun x y hxy => ?_
    obtain ⟨h, hsingle⟩ := hxy
    have hcomma (c : Nat) (hc : (if commaFirst ⟨t₁, p⟩ then none else item.comma) = some c) :
        RenderAlike C R t₁ r₁ r₂ c := by
      split at hc
      · exact absurd hc (by simp)
      · exact (hitem.comma hc).1
    refine (related_appendComma ht hcomma h).bind fun x y h => .pure ?_
    have h := like_appendComments ht
      (fun c hc => ⟨(hitem.comments c hc).1.lt, (hitem.comments c hc).2⟩) h
    rw [hsingle, h.pendingBreak_eq]
    exact .of { progress with closed := _, isFirst := _, previousComma := item.comma } h
      fun c hc => (hitem.comma hc).1

lemma related_commaList (hid : id < t₁.size)
    (hr : ∀ child ∈ visibleChildren ⟨t₁, p⟩ id, RenderAlike C R t₁ r₁ r₂ child) :
    Related C (commaList ⟨t₁, p⟩ r₁ id ctx column) (commaList ⟨t₂, p.cased k⟩ r₂ id ctx column)
      (Piece.Like R) := by
  have hitems : ∀ item ∈ itemsFrom ⟨t₁, p⟩ {} (visibleChildren ⟨t₁, p⟩ id), IsItem ⟨t₁, p⟩ _ item :=
    isItem_itemsFrom hr isItem_empty
  refine related_onOneLineOr ht hr hid ?_
  unfold brokenList listItems
  dsimp only
  rw [← visibleChildren_eq ht, ← itemsFrom_eq ht,
    ← hasBrokenElement_eq ht fun item hitem e he => ((hitems item hitem).element he).lt]
  have hstart {b : LineBuffer} (hb : b.last = none) :
      ProgressLike C R t₁ r₁ r₂ { buf := b } { buf := b } := .of { buf := b } (.of_none hb) nofun
  refine (Related.foldlM (fun x hx _ _ h => ?_) (hstart rfl)).bind fun x y h => ?_
  · exact related_appendItem ht (hitems x.1 (mem_of_mem_withRest hx).1) _ _ h
  · cases h with
    | of progress h hcomma =>
      refine related_appendComma ht (fun c hc => ?_) h
      split at hc
      · exact hcomma c hc
      · exact absurd hc (by simp)

/-! ### Declarations -/

lemma naturalOffsetFrom_eq (offsets : AlignmentOffsets) (role : PartRole) (stop : Option Nat)
    (hlt : ∀ child ∈ children, child < t₁.size) :
    naturalOffsetFrom ⟨t₁, p⟩ offsets role stop children
      = naturalOffsetFrom ⟨t₂, p.cased k⟩ offsets role stop children := by
  induction children generalizing stop with
  | nil => rfl
  | cons child rest ih =>
    simp only [naturalOffsetFrom, ht.kind, measure_eq ht (hlt child (by simp)),
      ih _ fun c hc => hlt c (by simp [hc])]

lemma naturalOffset?_eq (offsets : AlignmentOffsets) (role : PartRole) :
    naturalOffset? ⟨t₁, p⟩ offsets role = naturalOffset? ⟨t₂, p.cased k⟩ offsets role := by
  funext declaration
  unfold naturalOffset?
  rw [← visibleChildren_eq ht]
  exact naturalOffsetFrom_eq ht offsets role none fun c hc => lt_of_mem_visibleChildren ht hc

lemma declarationContext_eq (children : List Nat) (column : Nat) :
    declarationContext ⟨t₁, p⟩ children column = declarationContext ⟨t₂, p.cased k⟩ children column := by
  simp only [declarationContext, alignmentOffsets, commonOffset?, declarationsOf, naturalOffset?_eq ht, ht.kind]

lemma naturalOverflows_eq (offsets : AlignmentOffsets) (role : PartRole) (stop : Option Nat)
    (hlt : ∀ child ∈ children, child < t₁.size) :
    naturalOverflows ⟨t₁, p⟩ offsets role stop children
      = naturalOverflows ⟨t₂, p.cased k⟩ offsets role stop children := by
  induction children generalizing stop with
  | nil => rfl
  | cons child rest ih =>
    simp only [naturalOverflows, ht.kind, measure_eq ht (hlt child (by simp)),
      ih _ fun c hc => hlt c (by simp [hc])]

lemma alignmentFault?_eq (declarations : List Nat) (start : Nat) :
    alignmentFault? ⟨t₁, p⟩ declarations start = alignmentFault? ⟨t₂, p.cased k⟩ declarations start := by
  have hnatural (offsets : AlignmentOffsets) (role : PartRole) (declaration : Nat) :
      naturalOverflows ⟨t₁, p⟩ offsets role none (visibleChildren ⟨t₁, p⟩ declaration)
        = naturalOverflows ⟨t₂, p.cased k⟩ offsets role none (visibleChildren ⟨t₂, p.cased k⟩ declaration) := by
    rw [← visibleChildren_eq ht]
    exact naturalOverflows_eq ht offsets role none fun c hc => lt_of_mem_visibleChildren ht hc
  have hroles (offsets : AlignmentOffsets) (roles : List PartRole) :
      alignmentOverflows ⟨t₁, p⟩ declarations start offsets roles
        = alignmentOverflows ⟨t₂, p.cased k⟩ declarations start offsets roles := by
    induction roles generalizing offsets with
    | nil => rfl
    | cons role rest ih =>
      simp only [alignmentOverflows, hnatural, commonOffset?, naturalOffset?_eq ht, ih]
  rw [alignmentFault?, alignmentFault?, hroles]

lemma like_moveToPart (continuation trailing : Nat) (target : Option Nat) (hid : id < t₁.size)
    (h : Like R b₁ b₂) :
    Like R (moveToPart ⟨t₁, p⟩ continuation id trailing target b₁)
      (moveToPart ⟨t₂, p.cased k⟩ continuation id trailing target b₂) := by
  unfold moveToPart
  dsimp only
  rw [measure_eq ht hid, spaceAfterLast_eq ht _ hid h, h.column_eq]
  have hfollow (space : Bool) (c : Prop) [Decidable c] :
      Like R (if c then b₁.newline else b₁.separate space) (if c then b₂.newline else b₂.separate space) :=
    .ite h.newline Iff.rfl (h.separate space)
  split
  · exact .ite (.ite h.newline Iff.rfl (h.padTo _)) Iff.rfl (hfollow _ _)
  · exact hfollow _ _

lemma targetFault?_eq (moves : Bool) (trailing : Nat) (target : Option Nat) (hid : id < t₁.size)
    (h : Like R b₁ b₂) :
    targetFault? ⟨t₁, p⟩ moves id trailing target b₁
      = targetFault? ⟨t₂, p.cased k⟩ moves id trailing target b₂ := by
  unfold targetFault? LineBuffer.padFault?
  rw [measure_eq ht hid, h.column_eq, h.current.byteLength_eq]
  rfl

lemma related_brokenDeclaration (offsets : Option AlignmentOffsets)
    (hr : ∀ child ∈ visibleChildren ⟨t₁, p⟩ id, RenderAlike C R t₁ r₁ r₂ child) :
    Related C (brokenDeclaration ⟨t₁, p⟩ r₁ offsets id ctx column)
      (brokenDeclaration ⟨t₂, p.cased k⟩ r₂ offsets id ctx column) (Like R) := by
  unfold brokenDeclaration partTarget?
  dsimp only
  rw [← visibleChildren_eq ht]
  refine Related.foldlM (fun x hx b₁ b₂ h => ?_) (.of_none rfl)
  obtain ⟨hmem, hrest⟩ := mem_of_mem_withRest (List.fst_mem_of_mem_zipIdx hx)
  have hchild := hr x.1.1 hmem
  refine .ite (by rw [isComment_eq ht]) (fun hcomment => .pure ?_) fun _ => ?_
  · exact like_appendComment ht hchild.lt (by simpa [isComment] using hcomment) h
  · rw [gluedTrailing_eq ht _ _ hchild.lt fun c hc => (hr c (hrest c hc)).lt, ← ht.kind]
    rw [h.pendingBreak_eq]
    refine .stopFor (targetFault?_eq ht _ _ _ hchild.lt h) (related_appendHere hchild ?_)
    exact .ite (like_moveToPart ht _ _ _ hchild.lt h) Iff.rfl (h.separate false)

lemma related_declaration (hid : id < t₁.size)
    (hr : ∀ child ∈ visibleChildren ⟨t₁, p⟩ id, RenderAlike C R t₁ r₁ r₂ child) :
    Related C (declaration ⟨t₁, p⟩ r₁ id ctx column) (declaration ⟨t₂, p.cased k⟩ r₂ id ctx column)
      (Piece.Like R) := by
  refine .ite Iff.rfl (fun _ => ?_) fun _ => ?_
  · exact (related_brokenDeclaration ht _ hr).bind fun _ _ h => .pure (.lines h)
  · exact related_onOneLineOr ht hr hid (related_brokenDeclaration ht _ hr)

omit ht in
lemma related_startDeclaration {comma : Option Nat}
    (hr : ∀ c, comma = some c → RenderAlike C R t₁ r₁ r₂ c) (inner : Nat) (h : Like R b₁ b₂) :
    Related C (startDeclaration r₁ comma inner ctx b₁) (startDeclaration r₂ comma inner ctx b₂)
      (Like R) := by
  cases comma with
  | none => exact .pure (h.newlineAt inner)
  | some c => exact (related_appendHere (hr c rfl) (h.newlineAt _)).bind fun _ _ h => .pure (h.padTo inner)

lemma related_appendDeclarations (hr : ∀ child ∈ children, RenderAlike C R t₁ r₁ r₂ child)
    (declCtx : Context) (inner : Nat) {held : Option Nat}
    (hheld : ∀ c, held = some c → RenderAlike C R t₁ r₁ r₂ c) (h : Like R b₁ b₂) :
    Related C (appendDeclarations ⟨t₁, p⟩ r₁ declCtx ctx inner held children b₁)
      (appendDeclarations ⟨t₂, p.cased k⟩ r₂ declCtx ctx inner held children b₂) (Like R) := by
  induction children generalizing held b₁ b₂ with
  | nil => exact .pure h
  | cons child rest ih =>
    have hchild := hr child (by simp)
    have hrest : ∀ c ∈ rest, RenderAlike C R t₁ r₁ r₂ c := fun c hc => hr c (by simp [hc])
    unfold appendDeclarations
    simp only [← isLeafOf_eq ht, ← isComment_eq ht]
    refine .ite Iff.rfl (fun _ => ?_) fun _ => .ite Iff.rfl (fun _ => ?_) fun _ =>
      .ite Iff.rfl (fun hcomment => ?_) fun _ => ?_
    · exact (related_appendHere hchild (h.newlineAt _)).bind fun _ _ h => ih hrest hheld h
    · refine .ite Iff.rfl (fun _ => ih hrest (fun c hc => ?_) h) fun _ => ?_
      · obtain rfl := Option.some.inj hc
        exact hchild
      · exact (related_appendChild ht _ hchild h).bind fun _ _ h => ih hrest hheld h
    · exact ih hrest hheld (like_appendComment ht hchild.lt (by simpa [isComment] using hcomment) h)
    · refine (related_startDeclaration hheld inner h).bind fun _ _ h => ?_
      exact (related_appendHere hchild h).bind fun _ _ h => ih hrest (by simp) h

lemma related_declarationList (hid : id < t₁.size)
    (hr : ∀ child ∈ visibleChildren ⟨t₁, p⟩ id, RenderAlike C R t₁ r₁ r₂ child) :
    Related C (declarationList ⟨t₁, p⟩ r₁ id ctx column) (declarationList ⟨t₂, p.cased k⟩ r₂ id ctx column)
      (Piece.Like R) := by
  refine related_onOneLineOr ht hr hid ?_
  unfold brokenDeclarationList
  simp only [← visibleChildren_eq ht, ← isLeafOf_eq ht, ← declarationContext_eq ht, declarationsOf, ← ht.kind]
  refine .stopFor (alignmentFault?_eq ht _ _) ?_
  refine (related_appendChildren ht _ (fun c hc => hr c (List.mem_of_mem_take (List.mem_of_mem_filter hc)))
    (.of_none rfl)).bind fun _ _ h => ?_
  exact related_appendDeclarations ht (fun c hc => hr c (List.mem_of_mem_drop hc)) _ _ nofun h

lemma related_declareSection
    (hr : ∀ child ∈ visibleChildren ⟨t₁, p⟩ id, RenderAlike C R t₁ r₁ r₂ child) :
    Related C (declareSection ⟨t₁, p⟩ r₁ id column) (declareSection ⟨t₂, p.cased k⟩ r₂ id column)
      (Piece.Like R) := by
  unfold declareSection
  simp only [← visibleChildren_eq ht, ← ht.kind, ← declarationContext_eq ht, declarationsOf]
  refine .stopFor (alignmentFault?_eq ht _ _) ?_
  refine (Related.foldlM (fun child hchild _ _ h => ?_) (Like.of_none rfl)).bind
    fun _ _ h => .pure (.lines h)
  refine .ite Iff.rfl (fun _ => ?_) fun _ => related_appendChild ht _ (hr child hchild) h
  exact related_appendHere (hr child hchild) (h.newlineAt _)

end SqlLayout.Sheet
