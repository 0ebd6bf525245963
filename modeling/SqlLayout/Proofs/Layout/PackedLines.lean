import SqlLayout.Proofs.Layout.Groups
import SqlLayout.Proofs.Layout.Measured

/-!
# Packed lines and the line width

An element joins a line if it fits behind what stands there, with its own comma or with what follows the list.
So a line that ends with such an element keeps the line width, `packed_lines_fit`. Commas that the test does
not count, behind the last element of a list and of items without an element, may go past it.
-/

namespace SqlLayout

/-! ### Columns behind what is written -/

namespace LineBuffer

variable {b : LineBuffer}

lemma column_pushSpace_le (b : LineBuffer) : b.pushSpace.column ≤ b.column + 1 := by
  rw [pushSpace]
  split
  · exact Nat.le_succ _
  · exact Nat.le_refl _

lemma column_append_of_straight {piece : Piece} {column : Nat} {last : Option Nat}
    (h : piece.Straight b.column column last) : (b.append piece).column = column := by
  cases piece with
  | fragment start text last =>
    obtain ⟨rfl, hcolumn, -⟩ := h
    exact hcolumn
  | lines other =>
    have hother : other.Straight b.column column last := h
    rw [append, appendBuffer]
    exact hother.column

end LineBuffer

namespace Sheet

variable {sh : Sheet} {cache : Cache Policy} {source : Text} {id column depth w : Nat} {ctx : Context}

lemma column_writeComma (comma : Option Nat) (b : LineBuffer) :
    (sh.writeComma comma b).column = b.column + if comma.isSome then 1 else 0 := by
  cases comma <;> rfl

/-! ### Lines of packed elements -/

/--
A line of two or more items keeps the line width, what follows the list included, if its last item has an
element and, where it is the last item of the list, no comma.
-/
def LineFits (sh : Sheet) (ctx : Context) (group : List ListEntry) (stop : LineBuffer) : Prop :=
  2 ≤ group.length → ∀ entry, group.getLast? = some entry → entry.1.element.isSome = true →
    (entry.2 = [] → entry.1.comma = none) →
    stop.column + (if entry.2 = [] then ctx.trailing else 0) ≤ sh.lineWidth

/-- Behind an element that has been written straight, its comma included, the line width is kept. -/
lemma column_writeEntry_le (hcommas : sh.policy.lists.comma = .after) {piece : Nat → Context → Nat → Piece}
    {entry : ListEntry} {b : LineBuffer} {element : Nat} {last : Option Nat}
    (helement : entry.1.element = some element)
    (hstraight : (piece element (Context.child b.column (sh.itemTrailing ctx entry.1 entry.2.isEmpty))
      b.column).Straight b.column (b.column + w) last)
    (hfit : b.column + w + sh.itemTrailing ctx entry.1 entry.2.isEmpty ≤ sh.lineWidth)
    (hlast : entry.2 = [] → entry.1.comma = none) :
    (sh.writeEntry piece ctx entry b).column + (if entry.2 = [] then ctx.trailing else 0) ≤ sh.lineWidth := by
  have hcolumn : (sh.writeEntry piece ctx entry b).column
      = b.column + w + if entry.1.comma.isSome then 1 else 0 := by
    rw [writeEntry, column_writeComma, entryPiece?, helement]
    exact congrArg (· + _) (LineBuffer.column_append_of_straight hstraight)
  have hfirst := commaFirst_of_after hcommas
  rw [hcolumn]
  unfold itemTrailing at hfit
  rw [hfirst] at hfit
  cases hrest : entry.2 with
  | nil =>
    rw [hlast hrest]
    simpa [hrest] using hfit
  | cons item rest => simpa [hrest] using hfit

/-- An element joins a line only where it fits. -/
lemma packRule_lineFits (hcommas : sh.policy.lists.comma = .after) (hweights : sh.policy.WeighsAlike)
    {piece : Nat → Context → Nat → Piece} {onePerLine : Bool} {entries : List ListEntry}
    (hpiece : onePerLine = false → ∀ entry ∈ entries, ∀ element, entry.1.element = some element →
      ∀ ctx column, IsPlain ctx → column + sh.itemWidth entry.1 + ctx.trailing ≤ sh.lineWidth →
      ∃ last, (piece element ctx column).Straight column (column + sh.itemWidth entry.1) last) :
    sh.PackRule piece ctx onePerLine (fun group p => sh.LineFits ctx group p.buf) (sh.LineFits ctx)
      (fun _ _ _ => True) entries where
  start _ _ _ := fun htwo => absurd htwo (by simp)
  skip entry _ group p _ hnone := by
    intro _ last hlast hsome _
    rw [List.getLast?_concat] at hlast
    obtain rfl := Option.some.inj hlast
    rw [hnone] at hsome
    exact absurd hsome nofun
  join entry hentry group p element _ helement hstays := by
    intro _ last hlast _ hcomma
    rw [List.getLast?_concat] at hlast
    obtain rfl := Option.some.inj hlast
    rw [stays, helement] at hstays
    simp only [Option.isNone_some, Bool.false_or, Bool.and_eq_true, Bool.not_eq_true'] at hstays
    obtain ⟨⟨-, hmeasured⟩, hjoins⟩ := hstays
    have hfit := ((joinsGroup_iff hcommas hweights).1 hjoins).1
    have hspace := p.buf.column_pushSpace_le
    have hfit : p.buf.pushSpace.column + sh.itemWidth entry.1
        + sh.itemTrailing ctx entry.1 entry.2.isEmpty ≤ sh.lineWidth := by omega
    obtain ⟨_, hstraight⟩ := hpiece hmeasured entry hentry element helement
      (Context.child p.buf.pushSpace.column (sh.itemTrailing ctx entry.1 entry.2.isEmpty))
      p.buf.pushSpace.column (.inl rfl) hfit
    exact column_writeEntry_le hcommas helement hstraight hfit hcomma
  ends _ _ _ _ _ _ := .inr trivial
  within _ _ hp := hp

end Sheet

/--
Where a list of a source without errors and comments is broken under the default policy, with any line width,
and without a cache, every line of two or more items ends within the line width, commas and what follows the
list included, unless its last item has no element or it ends the list with a comma.
-/
theorem packed_lines_fit {width : Nat} {source : Text} {tree : Tree} {cache : Cache Policy} {id : Nat}
    (hparse : Tree.parse source = .ok tree) (herrors : tree.errors.isEmpty = true)
    (hbare : ∀ token ∈ (TokenStream.ofText source).tokens, token.kind.isComment = false)
    (hoff : cache.enabled = false) (hkind : tree.kind id = .commaList) {depth : Nat}
    (hdepth : tree.size ≤ depth + id + 1) (hsize : depth ≤ tree.size) (ctx : Context) (column : Nat) :
    let sh := Sheet.mk tree { lineWidth := ⟨width, .one⟩ }
    let piece element ctx column := (sh.renderTo (depth + 1) element ctx column cache).1
    ∃ groups, groups.flatten = withRest (sh.listItems id)
      ∧ sh.Packs piece ctx (sh.LineFits ctx) (fun _ _ _ => True) (sh.groupColumn ctx column)
        (sh.listStart ctx column) groups (sh.brokenList (sh.renderTo (depth + 1)) id ctx column cache).1 := by
  intro sh piece
  obtain ⟨htokens, hfaithful⟩ := Tree.faithful_of_parse hparse herrors
  have hbare : ∀ i, sh.isComment i = false := Sheet.isComment_eq_false hfaithful (htokens ▸ hbare)
  have hid : id < tree.size := by
    by_contra hge
    have hroot := Tree.kind_of_le (Nat.le_of_not_lt hge)
    rw [hkind] at hroot
    contradiction
  have hparse : Tree.parse source = .ok sh.tree := hparse
  have hchildren : sh.tree.children id ≠ [] := Sheet.children_ne_nil_of_commaList hparse hkind
  apply Sheet.exists_packs_brokenList hbare hoff htokens rfl hchildren rfl
  refine Sheet.packRule_lineFits rfl ⟨rfl, rfl, rfl, rfl⟩ ?_
  intro hmeasured entry hentry element helement ctx column hctx hfit
  have hmem := (mem_of_mem_withRest hentry).1
  -- No element is broken, so this one has a width.
  have hsome := List.any_eq_false.1 hmeasured _ hmem
  rw [helement, Option.any_some, Option.isNone_iff_eq_none] at hsome
  obtain ⟨w, hw⟩ := Option.ne_none_iff_exists'.1 hsome
  have hwidth : sh.itemWidth entry.1 = w := by
    rw [Sheet.itemWidth, helement, Option.bind_some, hw]
    rfl
  have hchild : element ∈ sh.tree.children id := by
    rw [← Sheet.flatMap_ids_listItems hbare id, List.mem_flatMap]
    exact ⟨_, hmem, by simp [ListItem.ids, helement]⟩
  obtain ⟨hlt, -⟩ := Tree.ordered_of_parse hparse id element hchild
  rw [hwidth] at hfit ⊢
  have hloop : sh.tree.kind id ≠ .loopStatement := by
    rw [show sh.tree.kind id = .commaList from hkind]
    exact NodeKind.noConfusion
  exact ⟨_, Sheet.straight_renderTo_of_child hparse hid hloop hchild hw (by show tree.size ≤ _; omega) hoff
    (Sheet.ne_comment hbare element) (by show _ ≤ tree.size + 1; omega) hctx hfit⟩

/-- A list of three elements, in a tree of the right size, at a line width that takes two of them. -/
theorem packed_lines_fit_of_query :
    ∃ tree, Tree.parse "select aaaa, bbbb, cccc from t".toList = .ok tree ∧ tree.kind 4 = .commaList
      ∧ let sh := Sheet.mk tree { lineWidth := ⟨17, .one⟩ }
        let piece element ctx column := (sh.renderTo (tree.size + 1) element ctx column .disabled).1
        ∃ groups, groups.flatten = withRest (sh.listItems 4)
          ∧ sh.Packs piece {} (sh.LineFits {}) (fun _ _ _ => True) (sh.groupColumn {} 7) (sh.listStart {} 7)
            groups (sh.brokenList (sh.renderTo (tree.size + 1)) 4 {} 7 .disabled).1 := by
  obtain ⟨tree, hparse, hfits⟩ := Tree.exists_of_any "select aaaa, bbbb, cccc from t".toList
    (fun tree => tree.errors.isEmpty && decide (tree.kind 4 = .commaList)) (by decide +kernel)
  rw [Bool.and_eq_true, decide_eq_true_iff] at hfits
  obtain ⟨herrors, hkind⟩ := hfits
  exact ⟨tree, hparse, hkind, packed_lines_fit hparse herrors (by decide +kernel) rfl hkind
    (by omega) (Nat.le_refl _) {} 7⟩

/-- A comma behind the last element of a list is not counted, so it can go past the line width. -/
theorem trailing_comma_overflows :
    ∃ tree, Tree.parse "select aaaa, bbbb, from t".toList = .ok tree ∧ tree.errors.isEmpty = true
      ∧ tree.kind 4 = .commaList
      ∧ (let sh := Sheet.mk tree { lineWidth := ⟨17, .one⟩ }
        let stop := (sh.brokenList (sh.renderTo (tree.size + 1)) 4 {} 7 .disabled).1
        (sh.listItems 4).length = 2 ∧ (∀ item ∈ sh.listItems 4, (item.element.any fun e => (sh.measure e).isSome))
          ∧ stop.finished = [] ∧ stop.current = "aaaa, bbbb,".toList ∧ 17 < stop.column)
      ∧ format { lineWidth := ⟨17, .one⟩ } "select aaaa, bbbb, from t".toList
        = .ok "SELECT aaaa, bbbb,\nFROM t\n".toList := by
  obtain ⟨tree, hparse, hlist⟩ := Tree.exists_of_any "select aaaa, bbbb, from t".toList
    (fun tree => let sh := Sheet.mk tree { lineWidth := ⟨17, .one⟩ }
      let stop := (sh.brokenList (sh.renderTo (tree.size + 1)) 4 {} 7 .disabled).1
      tree.errors.isEmpty && decide (tree.kind 4 = .commaList) && (sh.listItems 4).length == 2
        && ((sh.listItems 4).all fun item => item.element.any fun e => (sh.measure e).isSome)
        && stop.finished == [] && stop.current == "aaaa, bbbb,".toList && decide (17 < stop.column))
    (by decide +kernel)
  simp only [Bool.and_eq_true, decide_eq_true_iff, beq_iff_eq, List.all_eq_true] at hlist
  obtain ⟨⟨⟨⟨⟨⟨herrors, hkind⟩, hlength⟩, hmeasured⟩, hfinished⟩, hcurrent⟩, hcolumn⟩ := hlist
  exact ⟨tree, hparse, herrors, hkind, ⟨hlength, hmeasured, hfinished, hcurrent, hcolumn⟩, by decide +kernel⟩

end SqlLayout
