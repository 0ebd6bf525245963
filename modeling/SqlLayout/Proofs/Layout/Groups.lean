import SqlLayout.Proofs.Layout.Items
import SqlLayout.Proofs.Layout.ThenColumn
import Mathlib.Algebra.GroupWithZero.Nat

/-!
# Lists are packed greedily

A broken list is written in groups, one from a new line on. `Fills` says how the items of a group are
written one after the other, and `Packs` how groups follow each other: what holds of each group, and why it
has ended before the next item. Without comments and without a cache, and with commas behind elements, a
broken list packs its items, `exists_packs`; with limits of one weight no group exceeds a limit, and none ends
before it has to.
-/

namespace SqlLayout

/-! ### The comma -/

namespace Lexeme

/-- A comma is a token of its own. -/
lemma front_of_comma (s : Surroundings) (first : Char) (rest : Text) :
    (front s first rest).1 = .comma → first = ',' ∧ (front s first rest).2 = 0 := by
  apply TokenStream.front_elim (P := fun token => token.1 = .comma → first = ',' ∧ token.2 = 0)
  case spacing | feed | line | unclosed => nofun
  case block => exact fun _ _ _ _ => nofun
  case string => exact fun _ h => absurd (h ▸ quotedToken_kind _ _ _ _) (by simp)
  case name => exact fun _ h => absurd (h ▸ quotedToken_kind _ _ _ _) (by simp)
  case marked => exact fun _ h => absurd (h ▸ quotedToken_kind _ _ _ _) (by simp)
  case dollar => exact fun _ h => absurd (h ▸ dollarToken_kind _ _) (by simp)
  case number => exact fun _ h => absurd (h ▸ numberToken_kind _ _) (by simp)
  case word =>
    intro _ h
    unfold TokenKind.ofWord at h
    split at h <;> exact absurd h nofun
  case symbol =>
    intro h
    unfold symbolToken at h ⊢
    split_ifs at h ⊢
    refine ⟨?_, rfl⟩
    unfold punctuation at h
    split at h <;> first | rfl | exact absurd h nofun

end Lexeme

lemma TokenStream.text_of_comma {source : Text} {i : Nat} (h : (ofText source).kind i = .comma) :
    (ofText source).text i = [','] := by
  obtain ⟨s, first, more, -, hkind, htext, -⟩ := exists_front (lt_lastIndex_of_kind h nofun)
  obtain ⟨rfl, hlength⟩ := Lexeme.front_of_comma s first more (hkind.trans h)
  rw [htext, hlength]
  rfl

lemma LetterCase.apply_comma (letterCase : LetterCase) : letterCase.apply [','] = [','] := by
  cases letterCase <;> decide +kernel

/-! ### Limits of one weight -/

/-- A quantity is within a limit, if the limit is set. -/
def Limit.Admits (limit : Limit) (actual : Nat) : Prop :=
  ∀ value, limit.value = some value → actual ≤ value

/-- The line width and all limits of lists have the weight one. -/
structure Policy.WeighsAlike (policy : Policy) : Prop where
  lineWidth : policy.lineWidth.weight = .one
  maxLine : policy.lists.maxLine.weight = .one
  maxGroup : policy.lists.maxGroup.weight = .one
  maxPerGroup : policy.lists.maxPerGroup.weight = .one

namespace Threshold

variable {ts : List Threshold} {actual : Nat} {limit : Limit}

lemma forall_mem_ofLimit {p : Threshold → Prop} : (∀ t ∈ ofLimit actual limit, p t)
    ↔ ∀ value, limit.value = some value → p ⟨actual, value, limit.weight⟩ := by
  unfold ofLimit
  cases limit.value with
  | none => simp
  | some value => simp

lemma weight_of_mem_ofLimit (h : limit.weight = .one) : ∀ t ∈ ofLimit actual limit, t.weight = .one :=
  forall_mem_ofLimit.2 fun _ _ => h

/-- Among thresholds of the weight one all have the largest weight. -/
lemma ge_topWeight (h : ∀ t ∈ ts, t.weight = .one) : Number.Single.one.ge (topWeight ts) = true := by
  have hone (ts : List Threshold) (h : ∀ t ∈ ts, t.weight = .one) :
      ts.foldl (fun top t => top.max t.weight) .one = Number.Single.one := by
    induction ts with
    | nil => rfl
    | cons t ts ih =>
      obtain ⟨ht, hts⟩ := List.forall_mem_cons.1 h
      rw [List.foldl_cons, ht]
      exact ih hts
  cases ts with
  | nil => rfl
  | cons t ts =>
    obtain ⟨ht, hts⟩ := List.forall_mem_cons.1 h
    rw [topWeight, List.foldl_cons, ht]
    exact (congrArg Number.Single.one.ge (hone ts hts)).trans rfl

/-- Thresholds of the weight one allow what is within all of them. -/
lemma allow_iff (h : ∀ t ∈ ts, t.weight = .one) : allow ts = true ↔ ∀ t ∈ ts, t.actual ≤ t.limit := by
  have hkept : ts.filter (fun t => t.weight.ge (topWeight ts)) = ts := by
    apply List.filter_eq_self.2
    intro t ht
    rw [h t ht]
    exact ge_topWeight h
  rw [allow, hkept, List.all_eq_true]
  simp [isWithin]

end Threshold

/-- An item of a list with those after it. -/
abbrev ListEntry := ListItem × List ListItem

namespace Sheet

open LineBuffer (goesOn_startingAt)

variable {sh : Sheet} {render : Render} {cache : Cache Policy} {source : Text} {depth id column : Nat}
  {ctx : Context} {I : Cache Policy → Prop}

lemma commaFirst_of_after (hcommas : sh.policy.lists.comma = .after) : sh.commaFirst = false := by
  rw [commaFirst, hcommas]
  rfl

/-! ### How groups are written -/

section

variable (sh : Sheet) (piece : Nat → Context → Nat → Piece) (ctx : Context)

/-- The buffer in which the first group of a list starts. -/
def listStart (column : Nat) : LineBuffer :=
  { LineBuffer.startingAt column with indentBase := sh.groupColumn ctx column }

/-- A comma close to what stands before it, if there is one. -/
def writeComma (comma : Option Nat) (b : LineBuffer) : LineBuffer :=
  match comma with
  | some comma => (b.write [','] 1).setLast (some (sh.tree.firstToken comma))
  | none => b

/-- The piece of the element of an entry at the cursor; the element is told what follows it on its line. -/
def entryPiece? (entry : ListEntry) (b : LineBuffer) : Option Piece :=
  entry.1.element.map fun element =>
    piece element (Context.child b.column (sh.itemTrailing ctx entry.1 entry.2.isEmpty)) b.column

/-- An entry at the cursor: its element, if it has one, and its comma. -/
def writeEntry (entry : ListEntry) (b : LineBuffer) : LineBuffer :=
  sh.writeComma entry.1.comma ((sh.entryPiece? piece ctx entry b).elim b fun piece => b.append piece)

/-- Whether the element of an entry at the cursor takes several lines. -/
def isBroken (entry : ListEntry) (b : LineBuffer) : Bool :=
  (sh.entryPiece? piece ctx entry b).any fun piece => !piece.isSingleLine

/--
Entries are written one after the other from a buffer on; the flag says that the last one takes several
lines. An element goes on behind a space if what stands before it has one line, and an item without an
element adds its comma.
-/
inductive Fills (start : LineBuffer) : List ListEntry → LineBuffer → Bool → Prop where
  | first (entry : ListEntry) :
    Fills start [entry] (sh.writeEntry piece ctx entry start) (sh.isBroken piece ctx entry start)
  | join {group : List ListEntry} {stop : LineBuffer} {entry : ListEntry} :
    Fills start group stop false →
    entry.1.element.isSome = true →
    Fills start (group ++ [entry]) (sh.writeEntry piece ctx entry stop.pushSpace)
      (sh.isBroken piece ctx entry stop.pushSpace)
  | skip {group : List ListEntry} {stop : LineBuffer} {broken : Bool} {entry : ListEntry} :
    Fills start group stop broken →
    entry.1.element = none →
    Fills start (group ++ [entry]) (sh.writeEntry piece ctx entry stop) false

/--
Groups are written one after the other, the first from a buffer on and each further one from a new line at a
column on. Of every group and the buffer behind it `within` holds; and a group ends before an entry because
its last element takes several lines, or because `ends` holds.
-/
inductive Packs (within : List ListEntry → LineBuffer → Prop)
    (ends : List ListEntry → LineBuffer → ListEntry → Prop) (column : Nat) :
    LineBuffer → List (List ListEntry) → LineBuffer → Prop where
  | last {start stop : LineBuffer} {group : List ListEntry} {broken : Bool} :
    sh.Fills piece ctx start group stop broken →
    within group stop →
    Packs within ends column start [group] stop
  | line {start stop result : LineBuffer} {group next : List ListEntry} {broken : Bool} {entry : ListEntry}
      {rest : List (List ListEntry)} :
    sh.Fills piece ctx start group stop broken →
    within group stop →
    broken = true ∨ ends group stop entry →
    Packs within ends column (stop.newlineAt column) ((entry :: next) :: rest) result →
    Packs within ends column start (group :: (entry :: next) :: rest) result

/-- Whether an entry that is not the first one stays in the current group. -/
def stays (onePerLine : Bool) (entry : ListEntry) (p : ListProgress) : Bool :=
  entry.1.element.isNone || (!p.closed && !onePerLine
    && sh.joinsGroup p (sh.itemWidth entry.1) (sh.itemTrailing ctx entry.1 entry.2.isEmpty))

/-- The progress behind an entry that is written from a buffer on. -/
def packed (entry : ListEntry) (count length : Nat) (b : LineBuffer) : ListProgress where
  buf := sh.writeEntry piece ctx entry b
  count := count
  length := length
  closed := sh.isBroken piece ctx entry b
  isFirst := false
  previousComma := entry.1.comma

/-- The progress behind an entry, from the one before it. -/
def packEntry (onePerLine : Bool) (column : Nat) (entry : ListEntry) (p : ListProgress) : ListProgress :=
  let width := sh.itemWidth entry.1
  if p.isFirst then sh.packed piece ctx entry 1 width p.buf
  else if sh.stays ctx onePerLine entry p then
    if entry.1.element.isNone then sh.packed piece ctx entry p.count p.length p.buf
    else sh.packed piece ctx entry (p.count + 1) (p.length + 2 + width) p.buf.pushSpace
  else sh.packed piece ctx entry 1 width (p.buf.newlineAt column)

/--
What is kept while entries are packed. A group of one entry has the invariant and keeps it as further ones
stay in it; from the invariant it follows what holds within a group, and why an entry does not stay in it.
-/
structure PackRule (onePerLine : Bool) (invariant : List ListEntry → ListProgress → Prop)
    (within : List ListEntry → LineBuffer → Prop) (ends : List ListEntry → LineBuffer → ListEntry → Prop)
    (entries : List ListEntry) : Prop where
  start : ∀ entry ∈ entries, ∀ b, invariant [entry] (sh.packed piece ctx entry 1 (sh.itemWidth entry.1) b)
  skip : ∀ entry ∈ entries, ∀ group p, invariant group p → entry.1.element = none →
    invariant (group ++ [entry]) (sh.packed piece ctx entry p.count p.length p.buf)
  join : ∀ entry ∈ entries, ∀ group p element, invariant group p → entry.1.element = some element →
    sh.stays ctx onePerLine entry p = true →
    invariant (group ++ [entry])
      (sh.packed piece ctx entry (p.count + 1) (p.length + 2 + sh.itemWidth entry.1) p.buf.pushSpace)
  ends : ∀ entry ∈ entries, ∀ group p, invariant group p → sh.stays ctx onePerLine entry p = false →
    p.closed = true ∨ ends group p.buf entry
  within : ∀ group p, invariant group p → within group p.buf

end

/-! ### Groups of a broken list -/

/-- A comma is written as it is, in whatever role it was read. -/
lemma leaf_of_comma (htokens : sh.tree.tokens = .ofText source) {comma : Nat} {role : LeafRole}
    (hcomma : sh.tree.tokenKind comma = .comma) (column : Nat) :
    sh.leaf comma role column = .fragment column [','] (some (sh.tree.firstToken comma)) := by
  have hsource : sh.tree.leafText comma = [','] := by
    rw [Tree.tokenKind, htokens] at hcomma
    rw [Tree.leafText, htokens]
    exact TokenStream.text_of_comma hcomma
  have htext : sh.leafText comma role = [','] := by
    unfold leafText
    dsimp only
    rw [hsource]
    split
    · exact LetterCase.apply_comma _
    · rfl
  unfold leaf
  dsimp only
  rw [htext]
  rfl

section

variable (hbare : ∀ i, sh.isComment i = false) (hoff : cache.enabled = false)
  (htokens : sh.tree.tokens = .ofText source)

include hbare hoff htokens

/-- A comma is written close to what stands before it. -/
lemma ensures_appendComma_eq {comma : Option Nat} {b : LineBuffer}
    (hcomma : ∀ c, comma = some c → sh.tree.isLeafOf c .comma = true) (hb : b.GoesOn) :
    Ensures (· = cache) (sh.appendComma (sh.renderTo (depth + 1)) comma ctx b) (· = sh.writeComma comma b) := by
  cases comma with
  | none => exact .pure rfl
  | some comma =>
    have hleaf := hcomma comma rfl
    obtain ⟨role, hrole⟩ := exists_role_of_isLeafOf hleaf
    rw [Tree.isLeafOf, hrole] at hleaf
    have hkind : sh.tree.tokenKind comma = .comma := beq_iff_eq.1 hleaf
    have hspace : sh.spaceAfterLast .commaList comma b = false := by
      rw [spaceAfterLast]
      cases b.last with
      | none => rfl
      | some previous =>
        have hkind : sh.tree.tokens.kind (sh.tree.firstToken comma) = .comma := hkind
        simp [spaceBefore, TokenStream.spaceBetween, hkind, TokenStream.hugsPrevious]
    have hplaced : b.separate false = b := by
      rw [LineBuffer.separate, hb]
      rfl
    show Ensures _ (sh.appendChild _ .commaList comma ctx b) _
    rw [appendChild, hbare comma, hspace, hplaced]
    apply (ensures_renderTo_leaf hbare hoff hrole).bind
    rintro _ rfl
    rw [leaf_of_comma htokens hkind]
    exact .pure rfl

omit hbare hoff htokens in
/-- Where commas follow elements, an entry is placed without writing anything but a space or a line break. -/
lemma ensures_placeItem_eq (hcommas : sh.policy.lists.comma = .after) {piece : Nat → Context → Nat → Piece}
    {entry : ListEntry} {p : ListProgress} (hp : p.buf.GoesOn) (onePerLine : Bool) :
    Ensures I (sh.placeItem render onePerLine column ctx entry.1
        (sh.itemTrailing ctx entry.1 entry.2.isEmpty) p) fun placed => placed.buf.GoesOn
      ∧ sh.packEntry piece ctx onePerLine column entry p
        = sh.packed piece ctx entry placed.count placed.length placed.buf := by
  have hfirst := commaFirst_of_after hcommas
  have hstart : sh.startGroup render column p ctx = pure (p.buf.newlineAt column) := by
    unfold startGroup
    rw [hfirst]
    cases p.previousComma <;> rfl
  unfold placeItem packEntry stays
  dsimp only
  rw [hfirst, hstart]
  refine .ite (fun h => ?_) fun h => .ite (fun hnone => ?_) fun hsome => .ite (fun hjoin => ?_) fun hjoin => ?_
  · exact .pure ⟨hp, if_pos h⟩
  · refine .pure ⟨hp, ?_⟩
    rw [if_neg h, hnone, Bool.true_or, if_pos rfl, if_pos rfl]
  · refine .pure ⟨hp.pushSpace, ?_⟩
    rw [hp, Bool.not_false, Bool.and_true] at hjoin
    rw [if_neg h, hjoin, Bool.or_true, if_pos rfl, if_neg hsome]
  · refine .pure ⟨LineBuffer.goesOn_newlineAt column p.buf, ?_⟩
    rw [hp, Bool.not_false, Bool.and_true] at hjoin
    rw [if_neg h, if_neg]
    rw [Bool.or_eq_true, not_or]
    exact ⟨hsome, hjoin⟩

/-- An entry goes where it is packed. -/
lemma ensures_appendItem_eq (hcommas : sh.policy.lists.comma = .after) {entry : ListEntry}
    (hcomments : entry.1.comments = []) (hcomma : ∀ c, entry.1.comma = some c → sh.tree.isLeafOf c .comma = true)
    {p : ListProgress} (hp : p.buf.GoesOn) (onePerLine : Bool) :
    Ensures (· = cache)
      (sh.appendItem (sh.renderTo (depth + 1)) onePerLine column ctx entry.1 entry.2.isEmpty p)
      (· = sh.packEntry (fun e ctx column => (sh.renderTo (depth + 1) e ctx column cache).1) ctx onePerLine
        column entry p) := by
  set piece := fun e ctx column => (sh.renderTo (depth + 1) e ctx column cache).1
  apply (ensures_placeItem_eq hcommas hp onePerLine).bind
  rintro placed ⟨hplaced, heq⟩
  rw [heq]
  have helement : Ensures (· = cache)
      (appendElement (sh.renderTo (depth + 1)) entry.1.element (sh.itemTrailing ctx entry.1 entry.2.isEmpty)
        placed.buf)
      fun result => result.1 = (sh.entryPiece? piece ctx entry placed.buf).elim placed.buf
          (fun piece => placed.buf.append piece)
        ∧ result.2 = !sh.isBroken piece ctx entry placed.buf ∧ result.1.GoesOn := by
    rw [isBroken, entryPiece?]
    cases entry.1.element with
    | none => exact .pure ⟨rfl, rfl, hplaced⟩
    | some element =>
      apply (ensures_self (goesOn_renderTo hbare hoff (depth + 1) element _ _)).bind
      rintro _ ⟨rfl, hgoes⟩
      exact .pure ⟨rfl, (Bool.not_not _).symm, hplaced.append hgoes⟩
  apply helement.bind
  rintro ⟨b, isSingleLine⟩ ⟨rfl, rfl, hb⟩
  have hlate : (if sh.commaFirst then none else entry.1.comma) = entry.1.comma := by
    rw [commaFirst_of_after hcommas]
    rfl
  dsimp only
  rw [hlate, hcomments]
  apply (ensures_appendComma_eq hbare hoff htokens hcomma hb).bind
  rintro _ rfl
  apply Ensures.pure
  have hgoes : (sh.writeEntry piece ctx entry placed.buf).GoesOn := by
    rw [writeEntry]
    cases entry.1.comma with
    | none => exact hb
    | some comma => exact hb
  show ListProgress.mk _ _ _ (_ || (sh.writeEntry piece ctx entry placed.buf).pendingBreak) _ _ = _
  rw [hgoes, Bool.not_not, Bool.or_false]
  rfl

end

/-- What a loop whose steps compute a function and keep an invariant comes to. -/
lemma ensures_foldl_of_inv {σ γ : Type} {step : σ → γ → Layout σ} {f : σ → γ → σ} (inv : σ → Prop)
    {xs : List γ} (hstep : ∀ x ∈ xs, ∀ s, inv s → Ensures I (step s x) fun t => t = f s x ∧ inv t) {s : σ}
    (h : inv s) : Ensures I (xs.foldlM step s) fun t => t = xs.foldl f s ∧ inv t := by
  induction xs generalizing s with
  | nil => exact .pure ⟨rfl, h⟩
  | cons x xs ih =>
    rw [List.foldlM_cons]
    apply (hstep x List.mem_cons_self s h).bind
    rintro _ ⟨rfl, ht⟩
    exact ih (fun y hy => hstep y (List.mem_cons_of_mem x hy)) ht

/-- The nodes of the items of a list are its children, in order. -/
lemma flatMap_ids_itemsFrom (hbare : ∀ i, sh.isComment i = false) {item : ListItem} (hcomma : item.comma = none)
    (hcomments : item.comments = []) (children : List Nat) :
    (sh.itemsFrom item children).flatMap ListItem.ids = item.ids ++ children := by
  induction children generalizing item with
  | nil =>
    rw [itemsFrom]
    split
    · next hempty =>
      obtain rfl : item = {} := beq_iff_eq.1 hempty
      rfl
    · simp
  | cons child rest ih =>
    rw [itemsFrom, hbare child, if_neg Bool.false_ne_true]
    split_ifs with hleaf hfree
    · rw [List.flatMap_cons, ih rfl rfl]
      simp [ListItem.ids, hcomma, hcomments]
    · have hnone : item.element = none := by simpa [hcomments] using hfree
      rw [@ih { item with element := some child } hcomma hcomments]
      simp [ListItem.ids, hnone, hcomma, hcomments]
    · rw [List.flatMap_cons, ih rfl rfl]
      simp [ListItem.ids, hcomma, hcomments]

lemma flatMap_ids_listItems (hbare : ∀ i, sh.isComment i = false) (id : Nat) :
    (sh.listItems id).flatMap ListItem.ids = sh.tree.children id := by
  rw [listItems, flatMap_ids_itemsFrom hbare rfl rfl, visibleChildren_of_bare hbare]
  rfl

section

variable {piece : Nat → Context → Nat → Piece} {start : LineBuffer} {group : List ListEntry}
  {entry : ListEntry} {p : ListProgress} {onePerLine : Bool} {entries : List ListEntry}
  {invariant : List ListEntry → ListProgress → Prop} {within : List ListEntry → LineBuffer → Prop}
  {ends : List ListEntry → LineBuffer → ListEntry → Prop}

namespace PackRule

lemma tail (h : sh.PackRule piece ctx onePerLine invariant within ends (entry :: entries)) :
    sh.PackRule piece ctx onePerLine invariant within ends entries :=
  ⟨fun e he => h.start e (List.mem_cons_of_mem _ he), fun e he => h.skip e (List.mem_cons_of_mem _ he),
    fun e he => h.join e (List.mem_cons_of_mem _ he), fun e he => h.ends e (List.mem_cons_of_mem _ he), h.within⟩

/-- An entry that stays is written behind its group, which keeps the invariant. -/
lemma fills_of_stays (h : sh.PackRule piece ctx onePerLine invariant within ends (entry :: entries))
    (hfirst : p.isFirst = false) (hinvariant : invariant group p)
    (hfills : sh.Fills piece ctx start group p.buf p.closed) (hstays : sh.stays ctx onePerLine entry p = true)
    {next : ListProgress} (hnext : sh.packEntry piece ctx onePerLine column entry p = next) :
    next.isFirst = false ∧ invariant (group ++ [entry]) next
      ∧ sh.Fills piece ctx start (group ++ [entry]) next.buf next.closed := by
  subst hnext
  unfold packEntry
  dsimp only
  rw [hfirst, if_neg Bool.false_ne_true, if_pos hstays]
  cases helement : entry.1.element with
  | none =>
    have hclosed : sh.isBroken piece ctx entry p.buf = false := by
      rw [isBroken, entryPiece?, helement]
      rfl
    have hfills := hfills.skip helement
    rw [← hclosed] at hfills
    exact ⟨rfl, h.skip entry List.mem_cons_self group p hinvariant helement, hfills⟩
  | some element =>
    have hjoin := h.join entry List.mem_cons_self group p element hinvariant helement hstays
    have hclosed : p.closed = false := by
      rw [stays, helement] at hstays
      simp only [Option.isNone_some, Bool.false_or, Bool.and_eq_true, Bool.not_eq_true'] at hstays
      exact hstays.1.1
    rw [hclosed] at hfills
    exact ⟨rfl, hjoin, hfills.join (by rw [helement]; rfl)⟩

/-- From a group on, entries are packed. -/
lemma exists_packs (h : sh.PackRule piece ctx onePerLine invariant within ends entries) (column : Nat)
    (hfirst : p.isFirst = false) (hinvariant : invariant group p)
    (hfills : sh.Fills piece ctx start group p.buf p.closed) :
    ∃ more rest, more ++ rest.flatten = entries
      ∧ sh.Packs piece ctx within ends column start ((group ++ more) :: rest)
        (entries.foldl (fun p entry => sh.packEntry piece ctx onePerLine column entry p) p).buf := by
  induction entries generalizing start group p with
  | nil => exact ⟨[], [], rfl, by rw [List.append_nil]; exact .last hfills (h.within group p hinvariant)⟩
  | cons entry entries ih =>
    rw [List.foldl_cons]
    cases hstays : sh.stays ctx onePerLine entry p with
    | true =>
      obtain ⟨hfirst, hinvariant, hfills⟩ := h.fills_of_stays hfirst hinvariant hfills hstays rfl
      obtain ⟨more, rest, rfl, hpacks⟩ := ih h.tail hfirst hinvariant hfills
      refine ⟨entry :: more, rest, rfl, ?_⟩
      rwa [List.append_cons]
    | false =>
      have hnext : sh.packEntry piece ctx onePerLine column entry p
          = sh.packed piece ctx entry 1 (sh.itemWidth entry.1) (p.buf.newlineAt column) := by
        simp [packEntry, hfirst, hstays]
      rw [hnext]
      obtain ⟨more, rest, rfl, hpacks⟩ := ih h.tail rfl
        (h.start entry List.mem_cons_self (p.buf.newlineAt column)) (.first entry)
      refine ⟨[], (entry :: more) :: rest, rfl, ?_⟩
      rw [List.append_nil]
      exact .line hfills (h.within group p hinvariant)
        (h.ends entry List.mem_cons_self group p hinvariant hstays) hpacks

end PackRule

end

section

variable (hbare : ∀ i, sh.isComment i = false) (hoff : cache.enabled = false)
  (htokens : sh.tree.tokens = .ofText source)

include hbare hoff htokens

/-- A broken list is written as its items are packed. -/
lemma ensures_brokenList_eq (hcommas : sh.policy.lists.comma = .after) :
    Ensures (· = cache) (sh.brokenList (sh.renderTo (depth + 1)) id ctx column)
      (· = ((withRest (sh.listItems id)).foldl (fun p entry =>
        sh.packEntry (fun e ctx column => (sh.renderTo (depth + 1) e ctx column cache).1) ctx
          (sh.hasBrokenElement (sh.listItems id)) (sh.groupColumn ctx column) entry p)
        { buf := sh.listStart ctx column }).buf) := by
  have hcomments : ∀ item ∈ sh.listItems id, item.comments = [] := comments_eq_nil hbare rfl
  have hitems : ∀ item ∈ sh.listItems id, IsItem sh (fun _ => True) item :=
    isItem_itemsFrom (fun _ _ => trivial) isItem_empty
  have hfirst := commaFirst_of_after hcommas
  unfold brokenList
  dsimp only
  rw [hfirst]
  refine Ensures.bind (ensures_foldl_of_inv (fun p : ListProgress => p.buf.GoesOn) ?_
    (goesOn_startingAt column _)) fun p hp => .pure (congrArg ListProgress.buf hp.1)
  intro entry hentry p hp
  have hmem := (mem_of_mem_withRest hentry).1
  refine .and (ensures_appendItem_eq hbare hoff htokens hcommas (hcomments _ hmem)
    (fun c hc => ((hitems _ hmem).comma hc).2) hp _) ?_
  exact goesOn_appendItem hbare (goesOn_renderTo hbare hoff (depth + 1)) hp (hcomments _ hmem) _ _

/-- A broken list packs its items. -/
lemma exists_packs_brokenList (hcommas : sh.policy.lists.comma = .after) (hchildren : sh.tree.children id ≠ [])
    {piece : Nat → Context → Nat → Piece}
    (hpiece : (fun e ctx column => (sh.renderTo (depth + 1) e ctx column cache).1) = piece)
    {invariant : List ListEntry → ListProgress → Prop} {within : List ListEntry → LineBuffer → Prop}
    {ends : List ListEntry → LineBuffer → ListEntry → Prop}
    (h : sh.PackRule piece ctx (sh.hasBrokenElement (sh.listItems id)) invariant within ends
      (withRest (sh.listItems id))) :
    ∃ groups, groups.flatten = withRest (sh.listItems id)
      ∧ sh.Packs piece ctx within ends (sh.groupColumn ctx column) (sh.listStart ctx column) groups
        (sh.brokenList (sh.renderTo (depth + 1)) id ctx column cache).1 := by
  have hids := flatMap_ids_listItems hbare id
  have heq : (sh.brokenList (sh.renderTo (depth + 1)) id ctx column cache).1 = _ :=
    (ensures_brokenList_eq hbare hoff htokens hcommas cache rfl).1
  rw [heq, hpiece]
  generalize sh.hasBrokenElement (sh.listItems id) = onePerLine at h
  cases hitems : sh.listItems id with
  | nil =>
    rw [hitems] at hids
    exact absurd hids.symm hchildren
  | cons item items =>
    rw [hitems, withRest] at h
    rw [withRest, List.foldl_cons]
    obtain ⟨more, rest, hflatten, hpacks⟩ := h.tail.exists_packs (sh.groupColumn ctx column) rfl
      (h.start _ List.mem_cons_self (sh.listStart ctx column)) (.first (item, items))
    exact ⟨_, by rw [List.flatten_cons, ← hflatten]; rfl, hpacks⟩

end

/-! ### Limits of groups -/

/-- Columns of the elements of a group, with a comma and a space between neighbours. -/
def groupLength (sh : Sheet) (group : List ListEntry) : Nat :=
  (group.map fun entry => sh.itemWidth entry.1).sum + 2 * (group.length - 1)

/-- A group is within the limits of lists for the number of its elements and for its columns. -/
structure WithinLimits (sh : Sheet) (group : List ListEntry) : Prop where
  maxPerGroup : sh.policy.lists.maxPerGroup.Admits group.length
  maxGroup : sh.policy.lists.maxGroup.Admits (sh.groupLength group)
  maxLine : sh.policy.lists.maxLine.Admits (sh.groupLength group)

/-- An entry behind the cursor, its comma and what follows the list included, goes past the line width. -/
def Overflows (sh : Sheet) (ctx : Context) (stop : LineBuffer) (entry : ListEntry) : Prop :=
  sh.lineWidth < stop.column + 1 + sh.itemWidth entry.1 + sh.itemTrailing ctx entry.1 entry.2.isEmpty

lemma groupLength_concat {group : List ListEntry} (h : group ≠ []) (entry : ListEntry) :
    sh.groupLength (group ++ [entry]) = sh.groupLength group + 2 + sh.itemWidth entry.1 := by
  have hlength := List.length_pos_iff.2 h
  simp only [groupLength, List.map_append, List.sum_append, List.map_cons, List.map_nil, List.sum_cons,
    List.sum_nil, List.length_append, List.length_singleton]
  omega

/-- Where commas follow elements and all limits weigh the same, an element joins a group if all are kept. -/
lemma joinsGroup_iff (hcommas : sh.policy.lists.comma = .after) (hweights : sh.policy.WeighsAlike)
    {p : ListProgress} {width trailing : Nat} : sh.joinsGroup p width trailing = true
      ↔ p.buf.column + 1 + width + trailing ≤ sh.lineWidth
        ∧ sh.policy.lists.maxPerGroup.Admits (p.count + 1)
        ∧ sh.policy.lists.maxGroup.Admits (p.length + 2 + width)
        ∧ sh.policy.lists.maxLine.Admits (p.length + 2 + width) := by
  have hfirst := commaFirst_of_after hcommas
  unfold joinsGroup
  dsimp only
  rw [hfirst, Bool.false_and, if_neg Bool.false_ne_true, Threshold.allow_iff]
  · simp only [List.forall_mem_append, List.forall_mem_singleton, Threshold.forall_mem_ofLimit, and_assoc]
    rfl
  · simp only [List.forall_mem_append, List.forall_mem_singleton, Threshold.of, hweights.lineWidth]
    refine ⟨⟨⟨trivial, ?_⟩, ?_⟩, ?_⟩
    · exact Threshold.weight_of_mem_ofLimit hweights.maxPerGroup
    · exact Threshold.weight_of_mem_ofLimit hweights.maxGroup
    · exact Threshold.weight_of_mem_ofLimit hweights.maxLine

/-- Of a list of measured elements, groups are kept within their limits and end only at a limit. -/
lemma packRule_withinLimits (hcommas : sh.policy.lists.comma = .after) (hweights : sh.policy.WeighsAlike)
    {piece : Nat → Context → Nat → Piece} {entries : List ListEntry}
    (helements : ∀ entry ∈ entries, entry.1.element ≠ none) :
    sh.PackRule piece ctx false
      (fun group p => group ≠ [] ∧ p.count = group.length ∧ p.length = sh.groupLength group
        ∧ (2 ≤ group.length → sh.WithinLimits group))
      (fun group _ => 2 ≤ group.length → sh.WithinLimits group)
      (fun group stop entry => ¬sh.WithinLimits (group ++ [entry]) ∨ sh.Overflows ctx stop entry) entries where
  start entry _ b := by
    refine ⟨List.cons_ne_nil _ _, rfl, ?_, fun h => absurd h (by simp)⟩
    simp [groupLength, packed]
  skip entry hentry _ _ _ hnone := absurd hnone (helements entry hentry)
  join entry _ group p element hp helement hstays := by
    obtain ⟨hne, hcount, hlength, -⟩ := hp
    rw [stays, helement] at hstays
    simp only [Option.isNone_some, Bool.false_or, Bool.and_eq_true] at hstays
    obtain ⟨-, hper, hgroup, hline⟩ := (joinsGroup_iff hcommas hweights).1 hstays.2
    have hlength' : p.length + 2 + sh.itemWidth entry.1 = sh.groupLength (group ++ [entry]) := by
      rw [groupLength_concat hne, hlength]
    have hcount' : p.count + 1 = (group ++ [entry]).length := by simp [hcount]
    rw [hlength'] at hgroup hline ⊢
    rw [hcount'] at hper ⊢
    exact ⟨by simp, rfl, rfl, fun _ => ⟨hper, hgroup, hline⟩⟩
  ends entry hentry group p hp hstays := by
    obtain ⟨hne, hcount, hlength, -⟩ := hp
    obtain ⟨element, helement⟩ := Option.ne_none_iff_exists'.1 (helements entry hentry)
    rw [stays, helement, Option.isNone_some, Bool.false_or, Bool.not_false, Bool.and_true,
      Bool.and_eq_false_iff, Bool.not_eq_false'] at hstays
    refine hstays.imp_right fun hjoins => ?_
    by_contra hkept
    rw [not_or, not_not, Overflows, Nat.not_lt] at hkept
    obtain ⟨hwithin, hfits⟩ := hkept
    have hlength' : sh.groupLength (group ++ [entry]) = p.length + 2 + sh.itemWidth entry.1 := by
      rw [groupLength_concat hne, hlength]
    have hcount' : (group ++ [entry]).length = p.count + 1 := by simp [hcount]
    refine Bool.false_ne_true (hjoins.symm.trans ((joinsGroup_iff hcommas hweights).2 ⟨hfits, ?_, ?_, ?_⟩))
    · exact hcount' ▸ hwithin.maxPerGroup
    · exact hlength' ▸ hwithin.maxGroup
    · exact hlength' ▸ hwithin.maxLine
  within _ _ hp := hp.2.2.2

/-- A comma list of a tree has children. -/
lemma children_ne_nil_of_commaList (hparse : Tree.parse source = .ok sh.tree)
    (hkind : sh.tree.kind id = .commaList) : sh.tree.children id ≠ [] := by
  intro hnil
  have hframed : sh.tree.Framed id :=
    Tree.framed_of_parse hparse (by rw [hkind]; rfl) (by simp [hkind]) (by simp [hkind])
  have hfirst := hframed.first
  rw [hnil] at hfirst
  exact absurd hfirst nofun

end Sheet

/--
Where a list of a source without errors and comments is broken without a cache, all of its elements have
widths, commas follow elements and all limits weigh the same, its items are written in groups, in order and one
from a new line on. Groups of several elements are within the limits, and a group ends only where the next
element would exceed one of them or the line width, or behind an element on several lines.
-/
theorem list_packs_greedily {policy : Policy} {source : Text} {tree : Tree} {cache : Cache Policy} {id : Nat}
    (hparse : Tree.parse source = .ok tree) (herrors : tree.errors.isEmpty = true)
    (hbare : ∀ token ∈ (TokenStream.ofText source).tokens, token.kind.isComment = false)
    (hcommas : policy.lists.comma = .after) (hweights : policy.WeighsAlike) (hoff : cache.enabled = false)
    (hkind : tree.kind id = .commaList)
    (helements : ∀ item ∈ (Sheet.mk tree policy).listItems id, ∃ element width,
      item.element = some element ∧ (Sheet.mk tree policy).measure element = some width)
    (depth : Nat) (ctx : Context) (column : Nat) :
    let sh := Sheet.mk tree policy
    let piece element ctx column := (sh.renderTo (depth + 1) element ctx column cache).1
    (sh.listItems id).flatMap ListItem.ids = tree.children id
      ∧ ∃ groups, groups.flatten = withRest (sh.listItems id)
        ∧ sh.Packs piece ctx (fun group _ => 2 ≤ group.length → sh.WithinLimits group)
          (fun group stop entry => ¬sh.WithinLimits (group ++ [entry]) ∨ sh.Overflows ctx stop entry)
          (sh.groupColumn ctx column) (sh.listStart ctx column) groups
          (sh.brokenList (sh.renderTo (depth + 1)) id ctx column cache).1 := by
  intro sh piece
  obtain ⟨htokens, hfaithful⟩ := Tree.faithful_of_parse hparse herrors
  have hbare : ∀ i, sh.isComment i = false := Sheet.isComment_eq_false hfaithful (htokens ▸ hbare)
  have hunbroken : sh.hasBrokenElement (sh.listItems id) = false := by
    rw [Sheet.hasBrokenElement, List.any_eq_false]
    intro item hitem
    obtain ⟨element, width, helement, hwidth⟩ := helements item hitem
    have hwidth : sh.measure element = some width := hwidth
    simp [helement, hwidth]
  have hparse : Tree.parse source = .ok sh.tree := hparse
  have hchildren : sh.tree.children id ≠ [] := Sheet.children_ne_nil_of_commaList hparse hkind
  refine ⟨Sheet.flatMap_ids_listItems hbare id, ?_⟩
  apply Sheet.exists_packs_brokenList hbare hoff htokens hcommas hchildren rfl
  rw [hunbroken]
  apply Sheet.packRule_withinLimits hcommas hweights
  intro entry hentry
  obtain ⟨element, -, helement, -⟩ := helements _ (mem_of_mem_withRest hentry).1
  rw [helement]
  exact Option.some_ne_none element

/-- A list of four elements under a limit of two elements and ten columns for a group. -/
theorem list_packs_greedily_of_query :
    ∃ tree, Tree.parse "select aaaa, bbbb, f(x, y), cc from t".toList = .ok tree
      ∧ let sh := Sheet.mk tree { lists := { maxGroup := ⟨some 10, .one⟩, maxPerGroup := ⟨some 2, .one⟩ } }
        let piece element ctx column := (sh.renderTo 30 element ctx column .disabled).1
        tree.kind 4 = .commaList ∧ (sh.listItems 4).length = 4
          ∧ ∃ groups, groups.flatten = withRest (sh.listItems 4)
            ∧ sh.Packs piece {} (fun group _ => 2 ≤ group.length → sh.WithinLimits group)
              (fun group stop entry => ¬sh.WithinLimits (group ++ [entry]) ∨ sh.Overflows {} stop entry)
              (sh.groupColumn {} 7) (sh.listStart {} 7) groups
              (sh.brokenList (sh.renderTo 30) 4 {} 7 .disabled).1 := by
  let policy : Policy := { lists := { maxGroup := ⟨some 10, .one⟩, maxPerGroup := ⟨some 2, .one⟩ } }
  obtain ⟨tree, hparse, hfits⟩ := Tree.exists_of_any "select aaaa, bbbb, f(x, y), cc from t".toList
    (fun tree => let sh := Sheet.mk tree policy
      tree.errors.isEmpty && decide (tree.kind 4 = .commaList) && (sh.listItems 4).length == 4
        && (sh.listItems 4).all fun item => item.element.any fun e => (sh.measure e).isSome) (by decide +kernel)
  simp only [Bool.and_eq_true, decide_eq_true_iff, beq_iff_eq, List.all_eq_true, Option.any_eq_true,
    Option.isSome_iff_exists] at hfits
  obtain ⟨⟨⟨herrors, hkind⟩, hlength⟩, helements⟩ := hfits
  have hmeasured : ∀ item ∈ (Sheet.mk tree policy).listItems 4, ∃ element width,
      item.element = some element ∧ (Sheet.mk tree policy).measure element = some width := by
    intro item hitem
    obtain ⟨element, helement, width, hwidth⟩ := helements item hitem
    exact ⟨element, width, helement, hwidth⟩
  have hweights : policy.WeighsAlike := ⟨rfl, rfl, rfl, rfl⟩
  exact ⟨tree, hparse, hkind, hlength,
    (list_packs_greedily hparse herrors (by decide +kernel) rfl hweights rfl hkind hmeasured 29 {} 7).2⟩

end SqlLayout
