import SqlLayout.Layout.Declaration
import SqlLayout.Layout.Routine
import SqlLayout.Proofs.Layout.Expressions
import SqlLayout.Proofs.Layout.Items

/-!
# Lists, declarations and routines lose nothing

Lists are split into items and put together again, each element with its comma before the comments that
stand between them. If commas start lines, the comma of an item is held back until the next item, or
until the end of the list. Declaration lists hold commas back as well, but only until a declaration.
Declarations and routines show their children in order.
-/

namespace SqlLayout

namespace Sheet

variable {sh : Sheet} {render : Render} {id : Nat} {ctx : Context} {column : Nat} {children : List Nat}
  {buf : LineBuffer} {parts : Parts}

/-! ### Items of lists -/

lemma leaves_contents_comments (hsh : sh.Clean) {ids : List Nat}
    (h : ∀ c ∈ ids, c < sh.tree.size ∧ sh.tree.kind c = .comment) : (sh.contents ids).leaves = [] := by
  induction ids with
  | nil => rfl
  | cons c ids ih =>
    obtain ⟨hc, hkind⟩ := h c (by simp)
    have hleaf : sh.isLeaf c = false := by simp [isLeaf, hkind]
    rw [contents_cons, hsh.content_comment hc hkind, Parts.append_eq, ih fun c hc => h c (by simp [hc])]
    split <;> simp [partsOf, hleaf]

lemma comments_content_leaf (hsh : sh.Clean) {kind : TokenKind} (hid : id < sh.tree.size)
    (h : sh.tree.isLeafOf id kind = true) : (sh.content id).comments = [] := by
  unfold Tree.isLeafOf at h
  split at h
  · next role hkind =>
    rw [hsh.content_leaf hid hkind]
    simp [partsOf, isComment, hkind]
  · exact absurd h (by simp)

/-- Splitting children into items moves commas before comments, and nothing else. -/
lemma contents_itemsFrom (hsh : sh.Clean) (hr : ∀ child ∈ children, Renders sh render child)
    {item : ListItem} (hitem : IsItem sh (Renders sh render) item) (hopen : item.comma = none) :
    sh.contents ((sh.itemsFrom item children).flatMap ListItem.ids)
      = sh.contents item.ids ++ sh.contents children := by
  induction children generalizing item with
  | nil =>
    unfold itemsFrom
    split
    · next hempty =>
      rw [ListItem.isEmpty, beq_iff_eq] at hempty
      rw [hempty]
      rfl
    · simp
  | cons child rest ih =>
    have hchild := hr child (by simp)
    have ih {item} := @ih (fun c hc => hr c (by simp [hc])) item
    unfold itemsFrom
    split_ifs with hcomment hcomma hfree
    · rw [ih (hitem.withComment hchild hcomment) hopen]
      simp [ListItem.ids]
    · -- The comments of the item are written after the comma.
      have hmove := Parts.append_comm (comments_content_leaf hsh hchild.1 hcomma)
        (leaves_contents_comments hsh fun c hc => ⟨(hitem.comments c hc).1.1, (hitem.comments c hc).2⟩)
      rw [List.flatMap_cons, contents_append, ih isItem_empty rfl]
      simp only [ListItem.ids, hopen, Option.toList, contents_append, contents_cons, contents_nil,
        Parts.append_empty, Parts.empty_append, Parts.append_assoc]
      rw [← Parts.append_assoc (sh.content child), hmove, Parts.append_assoc]
    · obtain ⟨helement, hcomments⟩ : item.element = none ∧ item.comments = [] := by
        simpa using hfree
      rw [ih (hitem.withElement hchild) hopen]
      simp [ListItem.ids, helement, hcomments, hopen]
    · rw [List.flatMap_cons, contents_append, ih (isItem_empty.withElement hchild) rfl]
      simp [ListItem.ids]

/-! ### Lists -/

/-- The comma that is held back until the next item, if commas start lines. -/
def heldComma (sh : Sheet) (p : ListProgress) : Option Nat :=
  if sh.commaFirst then p.previousComma else none

/-- A stage of a list that shows parts, save for the comma that is held back. -/
structure ListShows (sh : Sheet) (render : Render) (p : ListProgress) (parts : Parts) : Prop where
  shows : ∃ shown, Shows sh p.buf shown ∧ shown ++ sh.contents (sh.heldComma p).toList = parts
  comma {c : Nat} : p.previousComma = some c → Renders sh render c ∧ sh.tree.isLeafOf c .comma = true
  first : p.isFirst = true → p.previousComma = none ∧ p.buf.pendingBreak = false

lemma listShows_start (hbody : buf.body = []) (hbreak : buf.pendingBreak = false) :
    ListShows sh render { buf := buf } {} :=
  ⟨⟨{}, shows_empty hbody, by simp [heldComma]⟩, by simp, fun _ => ⟨rfl, hbreak⟩⟩

lemma ListShows.heldComma {p : ListProgress} (h : ListShows sh render p parts) {c : Nat}
    (hc : sh.heldComma p = some c) : Renders sh render c ∧ sh.tree.isLeafOf c .comma = true := by
  unfold Sheet.heldComma at hc
  split at hc
  · exact h.comma hc
  · exact absurd hc nofun

/-- After a comma no line comment is open. -/
lemma ensures_commaHere (hsh : sh.Clean) {c : Nat} (hr : Renders sh render c)
    (hleaf : sh.tree.isLeafOf c .comma = true) (h : Closed sh buf parts) :
    Ensures (Keeps sh) (appendHere render c ctx buf) (Closed sh · (parts ++ sh.content c)) := by
  refine (hr.2 ctx buf.column).bind fun piece hpiece => .pure ?_
  exact h.append_of_comments (hpiece.shown (whole_of_isLeafOf hleaf)) (comments_content_leaf hsh hr.1 hleaf)

lemma ensures_appendComma (hsh : sh.Clean) {comma : Option Nat}
    (hr : ∀ c, comma = some c → Renders sh render c ∧ sh.tree.isLeafOf c .comma = true)
    (h : Shows sh buf parts) :
    Ensures (Keeps sh) (sh.appendComma render comma ctx buf) fun b =>
      Shows sh b (parts ++ sh.contents comma.toList)
        ∧ (buf.pendingBreak = false → Closed sh b (parts ++ sh.contents comma.toList)) := by
  cases comma with
  | none =>
    refine .pure ⟨by simpa using h, fun hbreak => ?_⟩
    simpa using h.closed hbreak
  | some c =>
    obtain ⟨hc, hleaf⟩ := hr c rfl
    have hcomment : sh.isComment c = false := by
      unfold Tree.isLeafOf at hleaf
      split at hleaf
      · next hkind => simp [isComment, hkind]
      · exact absurd hleaf (by simp)
    rw [Option.toList, contents_cons, contents_nil, Parts.append_empty]
    unfold appendComma appendChild
    simp only [hcomment, Bool.false_eq_true, if_false]
    refine (ensures_commaHere hsh hc hleaf ((h.separate _).closed (pendingBreak_separate _ _))).mono
      fun b hb => ⟨hb.shows, fun _ => hb⟩

/-- A group starts with the comma that was held back. -/
lemma ensures_startGroup (hsh : sh.Clean) {p : ListProgress} (h : ListShows sh render p parts) :
    Ensures (Keeps sh) (sh.startGroup render column p ctx) (Closed sh · parts) := by
  obtain ⟨shown, hshown, rfl⟩ := h.shows
  unfold startGroup
  split
  · next c hc hfirst =>
    have hheld : sh.heldComma p = some c := by rw [heldComma, if_pos hfirst, hc]
    obtain ⟨hr, hleaf⟩ := h.comma hc
    refine (ensures_commaHere hsh hr hleaf ((hshown.newlineAt _).closed rfl)).bind fun b hb => .pure ?_
    rw [hheld, Option.toList, contents_cons, contents_nil, Parts.append_empty]
    exact hb.pushSpace.padTo column
  · next hno =>
    have hheld : sh.heldComma p = none := by
      unfold heldComma
      split
      · next hfirst => exact Option.eq_none_iff_forall_ne_some.2 fun c hc => hno c hc hfirst
      · rfl
    rw [hheld, Option.toList, contents_nil, Parts.append_empty]
    exact .pure ((hshown.newlineAt column).closed rfl)

/-- Where an item is moved to, the comma before it is written, and its element can be laid out. -/
lemma ensures_placeItem (hsh : sh.Clean) {p : ListProgress} (onePerLine : Bool) (item : ListItem)
    (trailing : Nat) (h : ListShows sh render p parts) :
    Ensures (Keeps sh) (sh.placeItem render onePerLine column ctx item trailing p) fun q =>
      Shows sh q.buf parts ∧ (item.element.isSome = true → Closed sh q.buf parts) := by
  obtain ⟨shown, hshown, hparts⟩ := h.shows
  have hcomma : Ensures (Keeps sh) (sh.appendComma render (sh.heldComma p) ctx p.buf) fun b =>
      Shows sh b parts ∧ (p.buf.pendingBreak = false → Closed sh b parts) :=
    hparts ▸ ensures_appendComma hsh (fun c hc => h.heldComma hc) hshown
  -- Only an element needs a line without an open comment: comments break the line themselves.
  refine .ite (fun hfirst => .pure ?_) fun _ => .ite (fun hnone => ?_) fun hsome =>
    .ite (fun hjoins => ?_) fun _ => ?_
  · obtain ⟨hprevious, hbreak⟩ := h.first hfirst
    have hheld : sh.heldComma p = none := by simp [heldComma, hprevious]
    rw [hheld, Option.toList, contents_nil, Parts.append_empty] at hparts
    subst hparts
    exact ⟨hshown, fun _ => hshown.closed hbreak⟩
  · refine hcomma.bind fun b hb => .pure ⟨hb.1, fun hsome => ?_⟩
    rw [← Option.not_isNone, hnone] at hsome
    exact absurd hsome (by simp)
  · simp only [Bool.and_eq_true, Bool.not_eq_true'] at hjoins
    exact hcomma.bind fun b hb => .pure ⟨hb.1.pushSpace, fun _ => (hb.2 hjoins.1.2).pushSpace⟩
  · exact (ensures_startGroup hsh h).bind fun b hb => .pure ⟨hb.shows, fun _ => hb⟩

lemma ensures_appendElement {element : Option Nat} (trailing : Nat)
    (hr : ∀ e, element = some e → Renders sh render e) (h : Shows sh buf parts)
    (hclosed : element.isSome = true → Closed sh buf parts) :
    Ensures (Keeps sh) (appendElement render element trailing buf)
      fun result => Shows sh result.1 (parts ++ sh.contents element.toList) := by
  cases element with
  | none => exact .pure (by simpa using h)
  | some e =>
    refine ((hr e rfl).2 _ _).bind fun piece hpiece => .pure ?_
    have hshown := (hclosed rfl).append (hpiece.shown (whole_child _ _))
    simpa using hshown

lemma Shows.appendComments (hsh : sh.Clean) {comments : List Nat}
    (hcomments : ∀ c ∈ comments, Renders sh render c ∧ sh.tree.kind c = .comment)
    (h : Shows sh buf parts) :
    Shows sh (comments.foldl (fun buf comment => sh.appendComment comment buf) buf)
      (parts ++ sh.contents comments) := by
  induction comments generalizing buf parts with
  | nil => simpa using h
  | cons c comments ih =>
    obtain ⟨hc, hkind⟩ := hcomments c (by simp)
    rw [contents_cons, ← Parts.append_assoc]
    exact ih (fun c hc => hcomments c (by simp [hc])) (h.appendComment hsh hc.1 hkind)

lemma comments_contents_comma (hsh : sh.Clean) {comma : Option Nat}
    (hr : ∀ c, comma = some c → Renders sh render c ∧ sh.tree.isLeafOf c .comma = true) :
    (sh.contents comma.toList).comments = [] := by
  cases comma with
  | none => rfl
  | some c =>
    obtain ⟨hc, hleaf⟩ := hr c rfl
    rw [Option.toList, contents_cons, contents_nil, Parts.append_empty]
    exact comments_content_leaf hsh hc.1 hleaf

lemma ensures_appendItem (hsh : sh.Clean) {item : ListItem} (hitem : IsItem sh (Renders sh render) item)
    {p : ListProgress} (onePerLine isLast : Bool) (h : ListShows sh render p parts) :
    Ensures (Keeps sh) (sh.appendItem render onePerLine column ctx item isLast p) fun q =>
      ListShows sh render q (parts ++ sh.contents item.ids) := by
  have hcomma {first : Bool} {c : Nat} (hc : (if first then none else item.comma) = some c) :
      Renders sh render c ∧ sh.tree.isLeafOf c .comma = true := by
    cases first with
    | false => exact hitem.comma hc
    | true => exact absurd hc nofun
  -- The comma is written right after its element, or after the comments that follow it.
  have hmove := Parts.append_comm (comments_contents_comma hsh fun c hc => hitem.comma hc)
    (leaves_contents_comments hsh fun c hc => ⟨(hitem.comments c hc).1.1, (hitem.comments c hc).2⟩)
  refine (ensures_placeItem hsh onePerLine item _ h).bind fun p hp => ?_
  refine (ensures_appendElement _ (fun e he => hitem.element he) hp.1 hp.2).bind fun result hresult => ?_
  refine (ensures_appendComma hsh (fun c hc => hcomma hc) hresult).bind fun buf hbuf => .pure ?_
  refine ⟨⟨_, hbuf.1.appendComments hsh hitem.comments, ?_⟩, hitem.comma, nofun⟩
  unfold heldComma ListItem.ids
  cases sh.commaFirst with
  | false => simp
  | true => simp [hmove]

lemma ensures_commaList (hsh : sh.Clean)
    (hr : ∀ child ∈ sh.visibleChildren id, Renders sh render child) :
    Ensures (Keeps sh) (sh.commaList render id ctx column)
      (Shown sh · (sh.contents (sh.visibleChildren id))) := by
  have hitems : (sh.listItems id).flatMap ListItem.ids
      = (withRest (sh.listItems id)).flatMap fun x => x.1.ids := by
    conv_lhs => rw [← map_withRest (sh.listItems id), List.flatMap_map]
  have hcontents := contents_itemsFrom hsh hr isItem_empty rfl
  rw [← listItems, hitems] at hcontents
  refine ensures_onOneLineOr hsh hr ?_
  refine (Ensures.loop (ListShows sh render) (fun x => x.1.ids) (fun x hx p parts hp => ?_)
    (listShows_start rfl rfl)).bind fun p hp => ?_
  · refine ensures_appendItem hsh (isItem_itemsFrom hr isItem_empty x.1 ?_) _ _ hp
    rw [← listItems, ← map_withRest (sh.listItems id)]
    exact List.mem_map_of_mem hx
  · obtain ⟨shown, hshown, hparts⟩ := hp.shows
    refine (ensures_appendComma hsh (fun c hc => hp.heldComma hc) hshown).mono fun b hb => ?_
    rw [hparts, hcontents] at hb
    exact hb.1

/-! ### Declarations -/

lemma Shows.moveToPart (h : Shows sh buf parts) (continuation child trailing : Nat)
    (target : Option Nat) :
    Shows sh (sh.moveToPart continuation child trailing target buf) parts := by
  have hfollow (space : Bool) (c : Prop) [Decidable c] :
      Shows sh (if c then buf.newline else buf.separate space) parts := .ite h.newline (h.separate space)
  unfold Sheet.moveToPart
  dsimp only
  split
  · exact .ite (.ite h.newline (h.padTo _)) (hfollow _ _)
  · exact hfollow _ _

lemma pendingBreak_moveToPart (h : buf.pendingBreak = false) (continuation child trailing : Nat)
    (target : Option Nat) :
    (sh.moveToPart continuation child trailing target buf).pendingBreak = false := by
  unfold moveToPart
  dsimp only
  split
  · split_ifs <;> simp [h]
  · split_ifs <;> simp

lemma ensures_brokenDeclaration (hsh : sh.Clean)
    (hr : ∀ child ∈ sh.visibleChildren id, Renders sh render child) (offsets : Option AlignmentOffsets) :
    Ensures (Keeps sh) (sh.brokenDeclaration render offsets id ctx column)
      (Shows sh · (sh.contents (sh.visibleChildren id))) := by
  refine .foldlM (Prod.fst ∘ Prod.fst) (map_withRest_zipIdx _) (fun x hx buf parts h => ?_)
    (shows_empty rfl)
  refine .ite (fun hcomment => .pure ?_) fun _ => ?_
  · exact h.appendComment hsh (hr _ hx).1 (by simpa [isComment] using hcomment)
  · refine ensures_appendHere (hr _ hx) (whole_child _ _)
      (.ite (h.moveToPart _ _ _ _) (h.separate false)) ?_
    split
    · next hbreak =>
      rw [Bool.and_eq_true, Bool.not_eq_true'] at hbreak
      exact pendingBreak_moveToPart hbreak.2 _ _ _ _
    · exact pendingBreak_separate _ _

lemma ensures_declaration (hsh : sh.Clean)
    (hr : ∀ child ∈ sh.visibleChildren id, Renders sh render child) :
    Ensures (Keeps sh) (sh.declaration render id ctx column)
      (Shown sh · (sh.contents (sh.visibleChildren id))) := by
  refine .ite (fun _ => ?_) fun _ => ?_
  · exact (ensures_brokenDeclaration hsh hr _).bind fun buf hbuf => .pure hbuf
  · exact ensures_onOneLineOr hsh hr (ensures_brokenDeclaration hsh hr _)

/-- The line of a declaration starts with the comma that was held back. -/
lemma ensures_startDeclaration (hsh : sh.Clean) {held : Option Nat}
    (hheld : ∀ c, held = some c → Renders sh render c ∧ sh.tree.isLeafOf c .comma = true) {inner : Nat}
    (h : Shows sh buf parts) :
    Ensures (Keeps sh) (startDeclaration render held inner ctx buf)
      (Closed sh · (parts ++ sh.contents held.toList)) := by
  cases held with
  | none => exact .pure (by simpa using (h.newlineAt inner).closed rfl)
  | some c =>
    obtain ⟨hc, hleaf⟩ := hheld c rfl
    refine (ensures_commaHere hsh hc hleaf ((h.newlineAt _).closed rfl)).bind fun b hb => .pure ?_
    rw [Option.toList, contents_cons, contents_nil, Parts.append_empty]
    exact hb.padTo inner

/-- The comma that is held back finds a declaration among children, and so do the commas among them. -/
def CommasSettle (sh : Sheet) (held : Option Nat) (children : List Nat) : Prop :=
  if sh.policy.lists.comma = .before then sh.tree.separates held.isSome children = true else held = none

namespace CommasSettle

variable {held : Option Nat} {child : Nat} {rest : List Nat}

lemma eq_none (h : CommasSettle sh held []) : held = none := by
  unfold CommasSettle at h
  split at h
  · simpa [Tree.separates] using h
  · exact h

lemma bracket (h : CommasSettle sh held (child :: rest)) (hparen : sh.tree.isLeafOf child .rParen = true) :
    held = none ∧ CommasSettle sh none rest := by
  unfold CommasSettle at h ⊢
  split
  · next hbefore => simpa [hbefore, Tree.separates, hparen] using h
  · next hbefore => exact ⟨by simpa [hbefore] using h, rfl⟩

lemma comma (h : CommasSettle sh held (child :: rest)) (hleaf : sh.tree.isLeafOf child .comma = true) :
    held = none ∧ CommasSettle sh (if sh.policy.lists.comma = .before then some child else none) rest := by
  have hparen : sh.tree.isLeafOf child .rParen = false := isLeafOf_unique _ hleaf (by simp)
  unfold CommasSettle at h ⊢
  split
  · next hbefore => simpa [hbefore, Tree.separates, hleaf, hparen] using h
  · next hbefore => exact ⟨by simpa [hbefore] using h, rfl⟩

lemma comment (h : CommasSettle sh held (child :: rest)) (hkind : sh.tree.kind child = .comment) :
    CommasSettle sh held rest := by
  have hleaf (kind : TokenKind) : sh.tree.isLeafOf child kind = false := by rw [Tree.isLeafOf, hkind]
  unfold CommasSettle at h ⊢
  simpa [Tree.separates, hleaf, hkind] using h

lemma other (h : CommasSettle sh held (child :: rest)) (hparen : ¬sh.tree.isLeafOf child .rParen = true)
    (hleaf : ¬sh.tree.isLeafOf child .comma = true) (hkind : sh.tree.kind child ≠ .comment) :
    CommasSettle sh none rest := by
  unfold CommasSettle at h ⊢
  split
  · next hbefore => simpa [hbefore, Tree.separates, hparen, hleaf, hkind] using h
  · rfl

end CommasSettle

/-- If commas start lines, each is written with the declaration after it. -/
lemma ensures_appendDeclarations (hsh : sh.Clean) (hr : ∀ child ∈ children, Renders sh render child)
    {declCtx : Context} (hctx : declCtx.isMeasuring = false) (inner : Nat) {held : Option Nat}
    (hheld : ∀ c, held = some c → Renders sh render c ∧ sh.tree.isLeafOf c .comma = true)
    (hcommas : CommasSettle sh held children) (h : Shows sh buf parts) :
    Ensures (Keeps sh) (sh.appendDeclarations render declCtx ctx inner held children buf)
      (Shows sh · (parts ++ sh.contents held.toList ++ sh.contents children)) := by
  induction children generalizing held buf parts with
  | nil =>
    obtain rfl := hcommas.eq_none
    exact .pure (by simpa using h)
  | cons child rest ih =>
    have hchild := hr child (by simp)
    have hrest : ∀ c ∈ rest, Renders sh render c := fun c hc => hr c (by simp [hc])
    have hwhole (trailing : Nat) : Whole sh { declCtx with trailing := trailing } child := .inl hctx
    rw [appendDeclarations, contents_cons]
    dsimp only
    refine .ite (fun hparen => ?_) fun hparen => .ite (fun hleaf => ?_) fun hleaf =>
      .ite (fun hcomment => ?_) fun hcomment => ?_
    · obtain ⟨rfl, hsettle⟩ := hcommas.bracket hparen
      refine (ensures_appendHere hchild (whole_of_isLeafOf hparen) (h.newlineAt _) rfl).bind
        fun buf hbuf => ?_
      simpa using ih hrest (by simp) hsettle hbuf
    · obtain ⟨rfl, hsettle⟩ := hcommas.comma hleaf
      refine .ite (fun hbefore => ?_) fun hafter => ?_
      · rw [if_pos (beq_iff_eq.1 hbefore)] at hsettle
        have hnext : ∀ c, some child = some c → Renders sh render c ∧ sh.tree.isLeafOf c .comma = true :=
          fun c hc => Option.some.inj hc ▸ ⟨hchild, hleaf⟩
        simpa using ih hrest hnext hsettle h
      · rw [if_neg fun hbefore => hafter (beq_iff_eq.2 hbefore)] at hsettle
        refine (ensures_appendChild hsh .declarationList hchild (whole_of_isLeafOf hleaf) h).bind
          fun buf hbuf => ?_
        simpa using ih hrest (by simp) hsettle hbuf
    · -- The comment is written before the comma that is held back.
      have hkind : sh.tree.kind child = .comment := by simpa [isComment] using hcomment
      have hleaves : (sh.content child).leaves = [] := by
        rw [← Parts.append_empty (sh.content child), ← contents_nil, ← contents_cons]
        exact leaves_contents_comments hsh (by simpa using ⟨hchild.1, hkind⟩)
      have hmove := Parts.append_comm (comments_contents_comma hsh hheld) hleaves
      have hshown := ih hrest hheld (hcommas.comment hkind) (h.appendComment hsh hchild.1 hkind)
      rw [Parts.append_assoc parts, ← hmove] at hshown
      simpa using hshown
    · have hkind : sh.tree.kind child ≠ .comment := by simpa [isComment] using hcomment
      refine (ensures_startDeclaration hsh hheld h).bind fun buf hbuf => ?_
      refine (ensures_appendHere_of_closed hchild (hwhole _) hbuf).bind fun buf hbuf => ?_
      simpa using ih hrest (by simp) (hcommas.other hparen hleaf hkind) hbuf

/-- Comments and the opening bracket have no part in what commas separate. -/
lemma Clean.commasSettle (hsh : sh.Clean) (hkind : sh.tree.kind id = .declarationList) :
    CommasSettle sh none ((sh.visibleChildren id).drop
      (((sh.visibleChildren id).take 1).filter fun c => sh.tree.isLeafOf c .lParen).length) := by
  have hvisible (held : Bool) (ids : List Nat) :
      sh.tree.separates held (ids.filter fun c => !(sh.policy.removeComments && sh.isComment c))
        = sh.tree.separates held ids := by
    induction ids generalizing held with
    | nil => rfl
    | cons c ids ih =>
      rw [List.filter_cons]
      split
      · simp only [Tree.separates, ih]
      · next hhidden =>
        obtain ⟨-, hcomment⟩ : sh.policy.removeComments = true ∧ sh.tree.kind c = .comment := by
          simpa [isComment] using hhidden
        have hleaf (kind : TokenKind) : sh.tree.isLeafOf c kind = false := by rw [Tree.isLeafOf, hcomment]
        rw [ih]
        simp [Tree.separates, hleaf, hcomment]
  have hopening (ids : List Nat) : sh.tree.separates false
      (ids.drop ((ids.take 1).filter fun c => sh.tree.isLeafOf c .lParen).length)
        = sh.tree.separates false ids := by
    cases ids with
    | nil => rfl
    | cons c ids =>
      cases hparen : sh.tree.isLeafOf c .lParen with
      | false => simp [hparen]
      | true =>
        have hclose : sh.tree.isLeafOf c .rParen = false := isLeafOf_unique _ hparen (by simp)
        have hcomma : sh.tree.isLeafOf c .comma = false := isLeafOf_unique _ hparen (by simp)
        simp [Tree.separates, hparen, hclose, hcomma]
  unfold CommasSettle
  split
  · next hbefore =>
    rw [Option.isSome_none, hopening, visibleChildren, hvisible]
    exact hsh.commas hbefore hkind
  · rfl

lemma ensures_declarationList (hsh : sh.Clean) (hkind : sh.tree.kind id = .declarationList)
    (hr : ∀ child ∈ sh.visibleChildren id, Renders sh render child) :
    Ensures (Keeps sh) (sh.declarationList render id ctx column)
      (Shown sh · (sh.contents (sh.visibleChildren id))) := by
  refine ensures_onOneLineOr hsh hr ?_
  rw [← contents_of_isPrefix (opening_isPrefix (sh.tree.isLeafOf · .lParen) (sh.visibleChildren id))]
  refine (ensures_appendChildren hsh .declarationList (fun c hc => ?_) (fun c hc => ?_)
    (shows_empty rfl)).bind fun buf hbuf => ?_
  · exact hr c (List.mem_of_mem_take (List.mem_of_mem_filter hc))
  · exact whole_of_isLeafOf (List.mem_filter.1 hc).2
  · refine (ensures_appendDeclarations hsh (fun c hc => hr c (List.mem_of_mem_drop hc)) (by rfl) _ (by simp)
      (hsh.commasSettle hkind) hbuf).mono fun buf hbuf => ?_
    simpa using hbuf

lemma ensures_declareSection (hsh : sh.Clean)
    (hr : ∀ child ∈ sh.visibleChildren id, Renders sh render child) :
    Ensures (Keeps sh) (sh.declareSection render id column)
      (Shown sh · (sh.contents (sh.visibleChildren id))) := by
  refine (Ensures.foldlM (fun child => child) (List.map_id' _) (fun child hchild buf parts h => ?_)
    (shows_empty rfl)).bind fun buf hbuf => .pure hbuf
  refine .ite (fun _ => ?_) fun _ => ?_
  · exact ensures_appendHere (hr child hchild) (.inl rfl) (h.newlineAt _) rfl
  · exact ensures_appendChild hsh .declareSection (hr child hchild) (whole_indentedAt column) h

/-! ### Routines and tables -/

lemma ensures_appendAttributes (hsh : sh.Clean) (hr : ∀ child ∈ children, Renders sh render child)
    (isInline afterBody : Bool) (h : Shows sh buf parts) :
    Ensures (Keeps sh) (sh.appendAttributes render ctx column isInline afterBody children buf)
      (Shows sh · (parts ++ sh.contents children)) := by
  induction children generalizing afterBody buf parts with
  | nil => exact .pure (by simpa using h)
  | cons child rest ih =>
    have ih {buf parts} afterBody := @ih buf parts (fun c hc => hr c (by simp [hc])) afterBody
    rw [appendAttributes, contents_cons, ← Parts.append_assoc]
    refine (ensures_appendChild hsh .functionDefinition (hr child (by simp)) (whole_child _ _)
      (.ite (h.newlineAt _) h)).bind fun buf hbuf => ?_
    exact ih _ hbuf

lemma ensures_routineDefinition (hsh : sh.Clean)
    (hr : ∀ child ∈ sh.visibleChildren id, Renders sh render child) :
    Ensures (Keeps sh) (sh.routineDefinition render id ctx column)
      (Shown sh · (sh.contents (sh.visibleChildren id))) := by
  refine ensures_onOneLineOr hsh hr ?_
  have hhead := List.takeWhile_prefix (l := sh.visibleChildren id)
    fun c => !isAttribute (sh.tree.kind c)
  rw [← contents_of_isPrefix hhead]
  refine (ensures_appendChildren hsh .functionDefinition
    (fun c hc => hr c (List.takeWhile_subset _ hc)) (fun c _ => whole_child _ _)
    (shows_empty rfl)).bind fun buf hbuf => ?_
  exact ensures_appendAttributes hsh (fun c hc => hr c (List.mem_of_mem_drop hc)) _ false hbuf

lemma ensures_routineBody (hsh : sh.Clean)
    (hr : ∀ child ∈ sh.visibleChildren id, Renders sh render child) :
    Ensures (Keeps sh) (sh.routineBody render id ctx column)
      (Shown sh · (sh.contents (sh.visibleChildren id))) := by
  refine ensures_onOneLineOr hsh hr ?_
  refine .foldlM Prod.fst (map_withRest _) (fun x hx buf parts h => ?_) (shows_empty rfl)
  refine .ite (fun _ => ?_) fun _ => .ite (fun hclose => ?_) fun _ => ?_
  · exact ensures_appendHere (hr x.1 hx) (whole_indentedAt _) (h.newlineAt _) rfl
  · exact ensures_appendHere (hr x.1 hx) (whole_of_isLeafOf hclose) (h.newlineAt _) rfl
  · exact ensures_appendChild hsh .functionBody (hr x.1 hx) (whole_child _ _) h

lemma ensures_doBlock (hsh : sh.Clean) (hr : ∀ child ∈ sh.visibleChildren id, Renders sh render child) :
    Ensures (Keeps sh) (sh.doBlock render id ctx column) (Shown sh · (sh.contents (sh.visibleChildren id))) := by
  refine (Ensures.foldlM Prod.fst (map_withRest _) (fun x hx buf parts h => ?_) (shows_empty rfl)).bind
    fun buf hbuf => .pure hbuf
  exact ensures_appendChild hsh .doBlock (hr x.1 hx) (whole_child column _) h

lemma ensures_appendTableParts (hsh : sh.Clean) (hr : ∀ child ∈ children, Renders sh render child)
    (afterColumns : Bool) (h : Shows sh buf parts) :
    Ensures (Keeps sh) (sh.appendTableParts render ctx column afterColumns children buf)
      (Shows sh · (parts ++ sh.contents children)) := by
  induction children generalizing afterColumns buf parts with
  | nil => exact .pure (by simpa using h)
  | cons child rest ih =>
    have ih {buf parts} afterColumns := @ih buf parts (fun c hc => hr c (by simp [hc])) afterColumns
    rw [appendTableParts, contents_cons, ← Parts.append_assoc]
    refine (ensures_appendChild hsh .tableDefinition (hr child (by simp)) (whole_child column _)
      (.ite (h.newlineAt _) h)).bind fun buf hbuf => ?_
    exact ih _ hbuf

lemma ensures_tableDefinition (hsh : sh.Clean)
    (hr : ∀ child ∈ sh.visibleChildren id, Renders sh render child) :
    Ensures (Keeps sh) (sh.tableDefinition render id ctx column)
      (Shown sh · (sh.contents (sh.visibleChildren id))) :=
  ensures_onOneLineOr hsh hr (ensures_appendTableParts hsh hr false (shows_empty rfl))

end Sheet
end SqlLayout
