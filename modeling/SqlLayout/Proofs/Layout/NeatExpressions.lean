import SqlLayout.Proofs.Layout.Expressions
import SqlLayout.Proofs.Layout.Items
import SqlLayout.Proofs.Layout.Neat

/-!
# Expressions, lists and `CASE` are neat

Every construct starts with a child that has ink, so its buffer is neat from the first child on, and lines
are broken only after it.
-/

namespace SqlLayout.Sheet

open Text (Firm)

variable {sh : Sheet} {I : Cache Policy → Prop} {render : Render} {id first : Nat} {rest children : List Nat}
  {ctx : Context} {column : Nat} {b : LineBuffer}

/-! ### Appending nodes -/

/-- A node that leaves a buffer neat to which it is appended. -/
inductive Lays (sh : Sheet) (I : Cache Policy → Prop) (render : Render) (id : Nat) : Prop where
  | comment :
    sh.tree.kind id = .comment →
    sh.policy.removeComments = false →
    Firm (Text.trimEnd (sh.tree.tokens.text (sh.tree.firstToken id))) →
    Lays sh I render id
  | node :
    sh.tree.kind id ≠ .comment →
    (∀ ctx column, Ensures I (render id ctx column) Piece.Neat) →
    Lays sh I render id

lemma Lays.appendHere (h : sh.Lays I render id) (hkind : sh.tree.kind id ≠ .comment) (hb : b.Ready) :
    Ensures I (appendHere render id ctx b) LineBuffer.Neat := by
  cases h with
  | comment hcomment => exact absurd hcomment hkind
  | node _ hrender => exact (hrender ctx b.column).bind fun piece hpiece => .pure (hb.append hpiece)

lemma Lays.appendComment (h : sh.Lays I render id) (hkind : sh.tree.kind id = .comment) (hb : b.Ready) :
    (sh.appendComment id b).Neat := by
  cases h with
  | comment _ hremove htext => exact hb.appendComment hremove htext
  | node hno => exact absurd hkind hno

lemma Lays.appendChild (h : sh.Lays I render id) (parent : NodeKind) (hb : b.Ready) :
    Ensures I (sh.appendChild render parent id ctx b) LineBuffer.Neat := by
  unfold Sheet.appendChild
  split
  · next hcomment => exact .pure (h.appendComment (by simpa [isComment] using hcomment) hb)
  · next hcomment => exact h.appendHere (by simpa [isComment] using hcomment) (hb.separate _).1

lemma neat_appendChildren (hr : ∀ child ∈ children, sh.Lays I render child) (parent : NodeKind)
    (hb : b.Neat) : Ensures I (sh.appendChildren render parent children ctx b) LineBuffer.Neat :=
  .steps (fun child hchild _ hb => (hr child hchild).appendChild parent (.inl hb)) hb

lemma neat_appendChildren_cons (hr : ∀ child ∈ first :: rest, sh.Lays I render child) (parent : NodeKind)
    (hb : b.Ready) : Ensures I (sh.appendChildren render parent (first :: rest) ctx b) LineBuffer.Neat := by
  rw [appendChildren, List.foldlM_cons]
  exact ((hr first (by simp)).appendChild parent hb).bind fun b hb =>
    neat_appendChildren (fun child hchild => hr child (by simp [hchild])) parent hb

/-- A loop over the children of a node, each with those after it, is neat if it is so from the first. -/
lemma neat_withRest {step : LineBuffer → Nat × List Nat → Layout LineBuffer}
    (hfirst : Ensures I (step b (first, rest)) LineBuffer.Neat)
    (hstep : ∀ child ∈ rest, ∀ rest' b, b.Neat → Ensures I (step b (child, rest')) LineBuffer.Neat) :
    Ensures I ((withRest (first :: rest)).foldlM step b) LineBuffer.Neat := by
  rw [withRest, List.foldlM_cons]
  exact hfirst.bind fun b hb => .steps (fun x hx b hb => hstep x.1 (mem_of_mem_withRest hx).1 x.2 b hb) hb

/-- The same where the children are counted. -/
lemma neat_withRest_zipIdx {step : LineBuffer → (Nat × List Nat) × Nat → Layout LineBuffer}
    (hfirst : Ensures I (step b ((first, rest), 0)) LineBuffer.Neat)
    (hstep : ∀ child ∈ rest, ∀ rest' i b, b.Neat → Ensures I (step b ((child, rest'), i)) LineBuffer.Neat) :
    Ensures I ((withRest (first :: rest)).zipIdx.foldlM step b) LineBuffer.Neat := by
  rw [withRest, List.zipIdx_cons, List.foldlM_cons]
  refine hfirst.bind fun b hb => .steps (fun x hx b hb => ?_) hb
  exact hstep x.1.1 (mem_of_mem_withRest (List.fst_mem_of_mem_zipIdx hx)).1 x.1.2 x.2 b hb

section Constructs

variable (hchildren : sh.visibleChildren id = first :: rest)
  (hr : ∀ child ∈ first :: rest, sh.Lays I render child)

include hchildren hr

lemma neat_inline (ctx : Context) (column : Nat) :
    Ensures I (sh.inline render id ctx column) Piece.Neat := by
  unfold inline
  rw [hchildren]
  refine Ensures.bind (neat_withRest ?_ fun child hchild rest' b hb => ?_) fun b hb => .pure hb
  · exact (hr first (by simp)).appendChild _ (.inr (.startingAt column column))
  · exact (hr child (by simp [hchild])).appendChild _ (.inl hb)

lemma neat_onOneLineOr {broken : Layout LineBuffer} (hbroken : Ensures I broken LineBuffer.Neat) :
    Ensures I (sh.onOneLineOr render broken id ctx column) Piece.Neat :=
  ensures_onOneLineOr_of (neat_inline hchildren hr ctx column) hbroken

/-! ### Expressions and calls -/

lemma neat_expression (hfirst : sh.tree.kind first ≠ .comment) :
    Ensures I (sh.expression render id ctx column) Piece.Neat := by
  refine neat_onOneLineOr hchildren hr ?_
  unfold brokenExpression
  rw [hchildren]
  refine neat_withRest_zipIdx ?_ fun child hchild rest' i b hb => ?_
  · refine .ite (fun hcomment => absurd (by simpa [isComment] using hcomment) hfirst) fun _ => ?_
    exact (hr first (by simp)).appendChild _ (.inr (.startingAt _ _))
  · have hlays := hr child (by simp [hchild])
    refine .ite (fun hcomment => .pure (hlays.appendComment (by simpa [isComment] using hcomment) (.inl hb)))
      fun _ => hlays.appendChild _ ?_
    dsimp only [breakBeforeOperand]
    split_ifs
    · exact .inr (hb.newlineAt _)
    · exact .inr (hb.newlineAt _)
    · exact .inl hb
    · exact .inl hb

lemma neat_functionCall : Ensures I (sh.functionCall render id ctx column) Piece.Neat := by
  refine neat_onOneLineOr hchildren hr ?_
  unfold brokenCall
  rw [hchildren]
  refine neat_withRest ?_ fun child hchild rest' b hb => ?_
  · exact (hr first (by simp)).appendChild _ (.inr (.startingAt _ _))
  · exact (hr child (by simp [hchild])).appendChild _ (.inl hb)

end Constructs

/-! ### Groups -/

lemma neat_groupContent (hr : ∀ child ∈ children, sh.Lays I render child) (placement : Placement)
    (isFirst : Bool) (hb : b.Neat) :
    Ensures I (sh.groupContent render placement ctx isFirst children b) LineBuffer.Neat := by
  induction children generalizing isFirst b with
  | nil => exact .pure hb
  | cons child rest ih =>
    unfold groupContent
    refine Ensures.bind ((hr child (by simp)).appendChild _ ?_) fun b hb =>
      ih (fun c hc => hr c (by simp [hc])) false hb
    split
    · rw [hb.beginLineAt]
      exact .inr (hb.newlineAt _)
    · exact .inl hb

lemma neat_groupClose {close : Nat} (hr : sh.Lays I render close) (hkind : sh.tree.kind close ≠ .comment)
    (placement : Placement) (hb : b.Neat) :
    Ensures I (groupClose render placement close ctx column b) LineBuffer.Neat := by
  refine hr.appendHere hkind ?_
  split
  · exact .inr (hb.newlineAt _)
  · split_ifs
    · exact .inr (hb.newlineAt _)
    · exact .inl hb

lemma ne_comment_of_isLeafOf {kind : TokenKind} (h : sh.tree.isLeafOf id kind = true) :
    sh.tree.kind id ≠ .comment := by
  intro hkind
  rw [Tree.isLeafOf, hkind] at h
  contradiction

section Groups

variable (hchildren : sh.visibleChildren id = first :: rest)
  (hr : ∀ child ∈ first :: rest, sh.Lays I render child)

include hchildren hr

/-- A group starts with its bracket. -/
lemma neat_placedGroup (hfirst : sh.tree.isLeafOf first .lParen = true) (placement : Placement) :
    Ensures I (sh.placedGroup render placement id ctx column) LineBuffer.Neat := by
  have hopening : ((first :: rest).take 1).filter (fun c => sh.tree.isLeafOf c .lParen) = [first] := by
    simp [hfirst]
  unfold placedGroup
  dsimp only
  rw [hchildren, hopening]
  refine Ensures.bind (neat_appendChildren_cons ?_ _ (.inr (.startingAt _ _))) fun b hb => ?_
  · simpa using hr first (by simp)
  · refine Ensures.bind (neat_groupContent (fun child hchild => ?_) placement true hb) fun b hb => ?_
    · exact hr child (List.mem_of_mem_drop (List.mem_of_mem_filter hchild))
    · split
      · next close hclose =>
        obtain ⟨hlast, hparen⟩ := Option.filter_eq_some_iff.1 hclose
        exact neat_groupClose (hr close (List.mem_of_getLast? hlast)) (ne_comment_of_isLeafOf hparen) _ hb
      · exact .pure hb

lemma neat_group (hfirst : sh.tree.isLeafOf first .lParen = true) :
    Ensures I (sh.group render id ctx column) Piece.Neat := by
  refine neat_onOneLineOr hchildren hr ?_
  unfold brokenGroup
  dsimp only
  split
  · exact neat_placedGroup hchildren hr hfirst _
  · refine Ensures.bind (neat_placedGroup hchildren hr hfirst _) fun under hunder => ?_
    refine .ite (fun _ => .pure hunder) fun _ => ?_
    refine Ensures.bind (neat_placedGroup hchildren hr hfirst _) fun indented hindented => .pure ?_
    split
    · exact hindented
    · exact hunder

end Groups

/-! ### Lists -/

section Lists

variable {item : ListItem} {p : ListProgress}

lemma neat_appendComma {comma : Option Nat} (hr : ∀ c, comma = some c → sh.Lays I render c) (hb : b.Ready)
    (hink : comma = none → b.Neat) : Ensures I (sh.appendComma render comma ctx b) LineBuffer.Neat := by
  cases comma with
  | none => exact .pure (hink rfl)
  | some comma => exact (hr comma rfl).appendChild _ hb

/-- A new line is begun for an element only. -/
lemma neat_placeItem (hcomma : sh.commaFirst = false) (hp : p.buf.Ready)
    (hink : p.buf.Neat ∨ p.isFirst = true) (onePerLine : Bool) (trailing : Nat) :
    Ensures I (sh.placeItem render onePerLine column ctx item trailing p) fun p' =>
      p'.buf.Ready ∧ (item.element = none → p.buf.Neat → p'.buf.Neat) := by
  unfold placeItem
  simp only [hcomma, Bool.false_eq_true, if_false]
  refine .ite (fun _ => .pure ⟨hp, fun _ h => h⟩) fun hfirst => ?_
  have hneat : p.buf.Neat := hink.resolve_right hfirst
  refine .ite (fun _ => .pure ⟨.inl hneat, fun _ h => h⟩) fun helement => ?_
  have hsome : item.element ≠ none := by simpa using helement
  refine .ite (fun _ => .pure ⟨.inl hneat.pushSpace, fun h => absurd h hsome⟩) fun _ => ?_
  have hstart : Ensures I (sh.startGroup render column p ctx) LineBuffer.Ready := by
    unfold startGroup
    rw [hcomma]
    split
    · next hno => exact absurd hno nofun
    · exact .pure (.inr (hneat.newlineAt _))
  exact hstart.bind fun b hb => .pure ⟨hb, fun h => absurd h hsome⟩

lemma neat_appendElement {element : Option Nat}
    (hr : ∀ e, element = some e → ∀ ctx column, Ensures I (render e ctx column) Piece.Neat) (hb : b.Ready)
    (trailing : Nat) :
    Ensures I (appendElement render element trailing b) fun result =>
      result.1.Ready ∧ (element = none → result.1 = b) ∧ (element ≠ none → result.1.Neat) := by
  cases element with
  | none => exact .pure ⟨hb, fun _ => rfl, fun h => absurd rfl h⟩
  | some e =>
    refine (hr e rfl _ _).bind fun piece hpiece => .pure ?_
    have hneat := hb.append hpiece
    exact ⟨.inl hneat, nofun, fun _ => hneat⟩

/-- Whether an item holds more than comments. -/
def ListItem.hasInk (item : ListItem) : Prop :=
  item.element ≠ none ∨ item.comma ≠ none

lemma neat_appendItem (hcomma : sh.commaFirst = false)
    (hr : IsItem sh (fun id => sh.Lays I render id) item)
    (helement : ∀ e, item.element = some e → sh.tree.kind e ≠ .comment) (hp : p.buf.Ready)
    (hink : p.buf.Neat ∨ p.isFirst = true ∧ ListItem.hasInk item) (onePerLine isLast : Bool) :
    Ensures I (sh.appendItem render onePerLine column ctx item isLast p) fun p => p.buf.Neat := by
  unfold appendItem
  refine Ensures.bind (neat_placeItem hcomma hp (hink.imp_right (·.1)) _ _) fun p' hp' => ?_
  have hrender : ∀ e, item.element = some e → ∀ ctx column, Ensures I (render e ctx column) Piece.Neat := by
    intro e he
    cases hr.element he with
    | comment hkind => exact absurd hkind (helement e he)
    | node _ hrender => exact hrender
  refine Ensures.bind (neat_appendElement hrender hp'.1 _) fun result hresult => ?_
  obtain ⟨b, isSingle⟩ := result
  obtain ⟨hready, hsame, hneat⟩ := hresult
  rw [hcomma]
  refine Ensures.bind (neat_appendComma (fun c hc => (hr.comma hc).1) hready fun hnone => ?_) fun b hb =>
    .pure ?_
  · -- Without a comma there was ink before, or there is an element.
    by_cases hno : item.element = none
    · rcases hink with hneat | ⟨-, hno' | hno'⟩
      · have hsame : b = p'.buf := hsame hno
        exact hsame ▸ hp'.2 hno hneat
      · exact absurd hno hno'
      · exact absurd hnone hno'
    · exact hneat hno
  · show (item.comments.foldl (fun b comment => sh.appendComment comment b) b).Neat
    have hcomments := hr.comments
    generalize item.comments = comments at hcomments
    induction comments generalizing b with
    | nil => exact hb
    | cons comment comments ih =>
      obtain ⟨hlays, hkind⟩ := hcomments comment (by simp)
      exact ih _ (hlays.appendComment hkind (.inl hb)) fun c hc => hcomments c (by simp [hc])

/-- No comment is the element of an item. -/
lemma ne_comment_of_element (hitem : ∀ e, item.element = some e → sh.tree.kind e ≠ .comment) :
    ∀ i ∈ sh.itemsFrom item children, ∀ e, i.element = some e → sh.tree.kind e ≠ .comment := by
  fun_induction itemsFrom sh item children with
  | case1 => nofun
  | case2 => simpa using hitem
  | case3 item child rest _ ih => exact ih hitem
  | case4 item child rest _ _ ih =>
    intro i hi
    rcases List.mem_cons.1 hi with rfl | hi
    · exact hitem
    · exact ih nofun i hi
  | case5 item child rest hcomment _ _ ih =>
    refine ih fun e he => ?_
    obtain rfl := Option.some.inj he
    simpa [isComment] using hcomment
  | case6 item child rest hcomment _ _ ih =>
    intro i hi
    rcases List.mem_cons.1 hi with rfl | hi
    · exact hitem
    · refine ih (fun e he => ?_) i hi
      obtain rfl := Option.some.inj he
      simpa [isComment] using hcomment

/-- An item that is being filled is the first one of the items. -/
lemma exists_itemsFrom_eq_cons (hitem : item.element ≠ none) :
    ∃ i items, sh.itemsFrom item children = i :: items ∧ i.element ≠ none := by
  fun_induction itemsFrom sh item children with
  | case1 item hempty =>
    rw [ListItem.isEmpty, beq_iff_eq] at hempty
    exact absurd (by rw [hempty]) hitem
  | case2 item _ => exact ⟨item, [], rfl, hitem⟩
  | case3 item child rest _ ih => exact ih hitem
  | case4 item child rest _ _ _ => exact ⟨_, _, rfl, hitem⟩
  | case5 item child rest _ _ hfree _ =>
    rw [Bool.and_eq_true, Option.isNone_iff_eq_none] at hfree
    exact absurd hfree.1 hitem
  | case6 item child rest _ _ _ _ => exact ⟨_, _, rfl, hitem⟩

/-- The first item of a list that does not start with a comment holds more than comments. -/
lemma exists_listItems_eq_cons (hchildren : sh.visibleChildren id = first :: rest)
    (hfirst : sh.tree.kind first ≠ .comment) :
    ∃ item items, sh.listItems id = item :: items ∧ ListItem.hasInk item := by
  rw [listItems, hchildren, itemsFrom, if_neg (by simpa [isComment] using hfirst)]
  split
  · exact ⟨_, _, rfl, .inr (Option.some_ne_none first)⟩
  · obtain ⟨item, items, heq, hitem⟩ := @exists_itemsFrom_eq_cons sh rest { element := some first }
      (Option.some_ne_none first)
    exact ⟨item, items, by simpa using heq, .inl hitem⟩

/-- The items of a list from its first one on. -/
lemma neat_items (hcomma : sh.commaFirst = false) {items : List ListItem}
    (hr : ∀ i ∈ item :: items, IsItem sh (fun id => sh.Lays I render id) i)
    (helements : ∀ i ∈ item :: items, ∀ e, i.element = some e → sh.tree.kind e ≠ .comment)
    (hp : p.buf.Ready) (hink : p.isFirst = true ∧ ListItem.hasInk item) (onePerLine : Bool) :
    Ensures I ((withRest (item :: items)).foldlM
      (fun p (item, rest) => sh.appendItem render onePerLine column ctx item rest.isEmpty p) p)
      fun p => p.buf.Neat := by
  rw [withRest, List.foldlM_cons]
  refine Ensures.bind (neat_appendItem hcomma (hr item (by simp)) (helements item (by simp)) hp (.inr hink) _ _)
    fun p hp => .steps (fun x hx p hp => ?_) hp
  have hx := (mem_of_mem_withRest hx).1
  exact neat_appendItem hcomma (hr x.1 (by simp [hx])) (helements x.1 (by simp [hx])) (.inl hp) (.inl hp) _ _

lemma neat_commaList (hcomma : sh.commaFirst = false) (hchildren : sh.visibleChildren id = first :: rest)
    (hr : ∀ child ∈ first :: rest, sh.Lays I render child) (hfirst : sh.tree.kind first ≠ .comment) :
    Ensures I (sh.commaList render id ctx column) Piece.Neat := by
  refine neat_onOneLineOr hchildren hr ?_
  have hitems : ∀ item ∈ sh.listItems id, IsItem sh (fun id => sh.Lays I render id) item := by
    rw [listItems, hchildren]
    exact isItem_itemsFrom hr isItem_empty
  have helements : ∀ item ∈ sh.listItems id, ∀ e, item.element = some e → sh.tree.kind e ≠ .comment :=
    ne_comment_of_element nofun
  obtain ⟨item, items, heq, hink⟩ := exists_listItems_eq_cons hchildren hfirst
  rw [heq] at hitems helements
  unfold brokenList
  rw [heq]
  refine Ensures.bind (neat_items hcomma hitems helements (.inr (.startingAt _ _)) ⟨rfl, hink⟩ _) fun p hp => ?_
  rw [hcomma]
  exact .pure hp

end Lists

/-! ### `CASE` -/

/-- What stands first after the longest run of members with a property does not have it. -/
lemma not_of_drop_takeWhile {γ : Type} {q : γ → Bool} {xs ys : List γ} {x : γ}
    (h : xs.drop (xs.takeWhile q).length = x :: ys) : q x = false := by
  induction xs with
  | nil => simp at h
  | cons y xs ih =>
    rw [List.takeWhile_cons] at h
    split at h
    · exact ih (by simpa using h)
    · next hy =>
      obtain ⟨rfl, -⟩ : y = x ∧ xs = ys := by simpa using h
      simpa using hy

lemma neat_moveToThen (hb : b.Neat) (branch : Option (CasePhase × Option Nat)) :
    (sh.moveToThen branch column b).Ready := by
  unfold moveToThen
  split
  · exact .inr (hb.newlineAt _)
  · split_ifs
    · exact .inl (hb.padTo _)
    · exact hb.separate true
  · exact hb.separate true

lemma neat_appendResult (hr : ∀ child ∈ children, sh.Lays I render child) (parent : NodeKind) (hb : b.Neat) :
    Ensures I (sh.appendResult render parent children ctx column b) LineBuffer.Neat := by
  refine .steps (fun child hchild b hb => .ite (fun hlist => ?_) fun _ => ?_) hb
  · exact (hr child hchild).appendHere (by simp [hlist]) (.inr (hb.newlineAt _))
  · exact (hr child hchild).appendChild _ (.inl hb)

lemma neat_thenColumn {branches : List Nat} (hr : ∀ child ∈ branches, sh.Lays I render child) :
    Ensures I (sh.thenColumn? render branches column) fun _ => True := by
  refine Ensures.bind (.steps (fun branch hbranch known (_ : True) => ?_) trivial) fun _ _ => .pure trivial
  obtain ⟨hmem, hkind⟩ := List.mem_filter.1 hbranch
  have hkind : sh.tree.kind branch = .whenBranch := by simpa using hkind
  cases hr branch hmem with
  | comment hcomment => exact absurd (hkind.symm.trans hcomment) nofun
  | node _ hrender => exact (hrender _ _).bind fun _ _ => .pure trivial

lemma neat_moveToEnd (hb : b.Neat) (isStatement : Bool) (whenColumn : Nat) :
    (sh.moveToEnd isStatement column whenColumn b).Ready := by
  unfold moveToEnd
  split
  · exact .inr (hb.newlineAt _)
  · split
    · exact .inr (hb.newlineAt _)
    · exact .inr (hb.newlineAt _)
    · exact hb.separate true

lemma neat_appendParts (hr : ∀ child ∈ children, sh.Lays I render child) (frame : CaseFrame)
    (isFirst ended : Bool) (hb : b.Neat) :
    Ensures I (sh.appendParts render frame isFirst ended children b) LineBuffer.Neat := by
  induction children generalizing isFirst ended b with
  | nil => exact .pure hb
  | cons child rest ih =>
    have hchild := hr child (by simp)
    have ih {b : LineBuffer} isFirst ended (hb : b.Neat) := ih (fun c hc => hr c (by simp [hc])) isFirst ended hb
    rw [appendParts]
    refine .ite (fun hend => ?_) fun _ => .ite (fun hbranch => ?_) fun _ => ?_
    · rw [Bool.and_eq_true] at hend
      exact Ensures.bind (hchild.appendHere (ne_comment_of_isLeafOf hend.2) (neat_moveToEnd hb _ _))
        fun b hb => ih _ _ hb
    · have hkind : sh.tree.kind child ≠ .comment := by
        intro hkind
        rw [hkind] at hbranch
        contradiction
      refine Ensures.bind (hchild.appendHere hkind ?_) fun b hb => ih _ _ hb
      split
      · exact .inl (hb.padTo _)
      · exact .inr (hb.newlineAt _)
    · exact Ensures.bind (hchild.appendChild _ (.inl hb)) fun b hb => ih _ _ hb

section Cases

variable (hchildren : sh.visibleChildren id = first :: rest)
  (hr : ∀ child ∈ first :: rest, sh.Lays I render child)

include hchildren hr

lemma neat_brokenWhen (hfirst : sh.tree.isLeafOf first (.keyword .WHEN) = true) :
    Ensures I (sh.brokenWhen render id ctx column) LineBuffer.Neat := by
  have hthen : sh.tree.isLeafOf first (.keyword .THEN) = false := isLeafOf_unique _ hfirst (by decide)
  unfold brokenWhen
  dsimp only
  rw [hchildren]
  refine Ensures.bind ?_ fun b (hb : b.Neat) => ?_
  · rw [List.takeWhile_cons, if_pos (by simp [hthen])]
    refine neat_appendChildren_cons (fun child hchild => hr child ?_) _ (.inr (.startingAt _ _))
    rcases List.mem_cons.1 hchild with rfl | hchild
    · simp
    · exact List.mem_cons_of_mem _ (List.takeWhile_subset _ hchild)
  · split
    · exact .pure hb
    · next keyword result hdrop =>
      have hmem : ∀ child ∈ keyword :: result, child ∈ first :: rest := by
        rw [← hdrop]
        exact fun child => List.mem_of_mem_drop
      have hkeyword : sh.tree.isLeafOf keyword (.keyword .THEN) = true := by
        simpa using not_of_drop_takeWhile hdrop
      refine .ite (fun _ => .pure hb) fun _ => ?_
      exact Ensures.bind ((hr keyword (hmem _ (by simp))).appendHere (ne_comment_of_isLeafOf hkeyword)
        (neat_moveToThen hb _)) fun b hb =>
          neat_appendResult (fun child hchild => hr child (hmem _ (by simp [hchild]))) _ hb

lemma neat_whenBranch (hfirst : sh.tree.isLeafOf first (.keyword .WHEN) = true) :
    Ensures I (sh.whenBranch render id ctx column) Piece.Neat := by
  have hbroken : Ensures I (sh.brokenWhen render id ctx column) _ := neat_brokenWhen hchildren hr hfirst
  refine .ite (fun _ => neat_onOneLineOr hchildren hr hbroken) fun _ => ?_
  exact hbroken.bind fun b hb => .pure hb

lemma neat_elseBranch (hfirst : sh.tree.kind first ≠ .statementList) :
    Ensures I (sh.elseBranch render id ctx column) Piece.Neat := by
  refine neat_onOneLineOr hchildren hr ?_
  rw [hchildren, appendResult, List.foldlM_cons, if_neg hfirst]
  exact Ensures.bind ((hr first (by simp)).appendChild _ (.inr (.startingAt _ _))) fun b hb =>
    neat_appendResult (fun child hchild => hr child (by simp [hchild])) _ hb

lemma neat_brokenCase (hfirst : sh.tree.isLeafOf first (.keyword .CASE) = true) :
    Ensures I (sh.brokenCase render id ctx column) LineBuffer.Neat := by
  have hend : sh.isEnd first = false := isLeafOf_unique _ hfirst (by decide)
  have hbranch : isBranch (sh.tree.kind first) = false := by
    cases hkind : sh.tree.kind first with
    | whenBranch | elseBranch =>
      rw [Tree.isLeafOf, hkind] at hfirst
      contradiction
    | _ => rfl
  unfold brokenCase
  dsimp only
  rw [hchildren, List.takeWhile_cons, if_pos (by simp [hend, hbranch])]
  refine Ensures.bind (neat_appendChildren_cons (fun child hchild => hr child ?_) _ (.inr (.startingAt _ _)))
    fun b hb => ?_
  · rcases List.mem_cons.1 hchild with rfl | hchild
    · simp
    · exact List.mem_cons_of_mem _ (List.takeWhile_subset _ hchild)
  · have hparts (n : Nat) : ∀ child ∈ (first :: rest).drop n, sh.Lays I render child :=
      fun child hchild => hr child (List.mem_of_mem_drop hchild)
    refine .ite (fun _ => ?_) fun _ => ?_
    · exact Ensures.bind (neat_thenColumn (hparts _)) fun _ _ => neat_appendParts (hparts _) _ true false hb
    · exact neat_appendParts (hparts _) _ true false hb

lemma neat_caseOf (hfirst : sh.tree.isLeafOf first (.keyword .CASE) = true) :
    Ensures I (sh.caseOf render id ctx column) Piece.Neat := by
  have hbroken : Ensures I (sh.brokenCase render id ctx column) _ := neat_brokenCase hchildren hr hfirst
  refine .ite (fun _ => hbroken.bind fun b hb => .pure hb) fun _ => ?_
  exact neat_onOneLineOr hchildren hr hbroken

end Cases

end SqlLayout.Sheet
