import Mathlib.Tactic.Common
import SqlLayout.Layout.Buffer
import SqlLayout.Proofs.Text.Solid

/-!
# What every line buffer keeps to

A buffer of printable ASCII text that is only written to by its own operations knows where its cursor
stands, and its width covers every line but one that holds nothing but its indentation. What has become a
finished line is never touched again.
-/

namespace SqlLayout

namespace Text

/-- Texts of printable ASCII characters. -/
def Printable (t : Text) : Prop :=
  ∀ c ∈ t, isPrintableAscii c = true

lemma Printable.append {s t : Text} (hs : Printable s) (ht : Printable t) : Printable (s ++ t) := by
  intro c hc
  cases List.mem_append.1 hc with
  | inl h => exact hs c h
  | inr h => exact ht c h

lemma printable_spaces (n : Nat) : Printable (spaces n) := by
  intro c hc
  rw [List.eq_of_mem_replicate hc]
  decide

lemma byteLength_of_printable {t : Text} (h : Printable t) : byteLength t = t.length := by
  induction t with
  | nil => rfl
  | cons c t ih =>
    have hc := h c List.mem_cons_self
    have hsize : c.utf8Size = 1 := by
      rw [Char.utf8Size_eq_one_iff]
      have hle : c.toNat ≤ 0x7E := by
        simp only [isPrintableAscii, Bool.and_eq_true, decide_eq_true_eq] at hc
        exact hc.2
      show c.toNat ≤ 0x7F
      omega
    rw [byteLength_cons, hsize, ih fun d hd => h d (List.mem_cons_of_mem c hd), List.length_cons]
    omega

lemma mem_of_mem_pieces {sep c : Char} {t piece : Text} (h : piece ∈ pieces sep t) (hc : c ∈ piece) :
    c ∈ t := by
  induction t generalizing piece with
  | nil =>
    obtain rfl := List.mem_singleton.1 h
    exact absurd hc nofun
  | cons d rest ih =>
    rw [pieces] at h
    split at h
    · cases List.mem_cons.1 h with
      | inl hnil => exact absurd (hnil ▸ hc) nofun
      | inr h => exact List.mem_cons_of_mem d (ih h hc)
    · split at h
      · obtain rfl := List.mem_singleton.1 h
        obtain rfl := List.mem_singleton.1 hc
        exact List.mem_cons_self
      · next first others hpieces =>
        rw [hpieces] at ih
        cases List.mem_cons.1 h with
        | inl hfirst =>
          cases List.mem_cons.1 (hfirst ▸ hc) with
          | inl hd => exact hd ▸ List.mem_cons_self
          | inr hc => exact List.mem_cons_of_mem d (ih List.mem_cons_self hc)
        | inr h => exact List.mem_cons_of_mem d (ih (List.mem_cons_of_mem first h) hc)

lemma dropEndWhile_isPrefix (p : Char → Bool) (t : Text) : dropEndWhile p t <+: t := by
  rw [dropEndWhile, ← List.reverse_suffix, List.reverse_reverse]
  exact List.dropWhile_suffix p

end Text

namespace LineBuffer

/--
The buffers that arise from a buffer by its operations, where all texts are printable ASCII. What is
appended is a text, or a buffer that arose in the same way from an empty one at the cursor.
-/
inductive Edited : LineBuffer → LineBuffer → Prop
  | refl (a) : Edited a a
  | push {a b text} : Edited a b → Text.Printable text → Edited a (b.push text)
  | pushVerbatim {a b text} : Edited a b → (∀ c ∈ text, Text.isPrintableAscii c = true ∨ c = '\n') →
    Edited a (b.pushVerbatim text)
  | pushSpace {a b} : Edited a b → Edited a b.pushSpace
  | separate {a b} (space) : Edited a b → Edited a (b.separate space)
  | newline {a b} : Edited a b → Edited a b.newline
  | newlineAt {a b} (column) : Edited a b → Edited a (b.newlineAt column)
  | beginLineAt {a b} (column) : Edited a b → Edited a (b.beginLineAt column)
  | padTo {a b} (column) : Edited a b → Edited a (b.padTo column)
  | trimTrailing {a b} : Edited a b → Edited a b.trimTrailing
  | forceBreak {a b} : Edited a b → Edited a b.forceBreak
  | setIndentBase {a b} (column) : Edited a b → Edited a { b with indentBase := column }
  | setLocalIndent {a b} (indent) : Edited a b → Edited a { b with localIndent := indent }
  | setLast {a b} (token) : Edited a b → Edited a (b.setLast token)
  | appendFragment {a b text} (last) : Edited a b → Text.Printable text →
    Edited a (b.append (.fragment b.column text last))
  | appendLines {a b other} : Edited a b → Edited (startingAt b.column) other →
    Edited a (b.append (.lines other))

/-- Column at which the line after some earlier lines starts. -/
def leftOf (start : Nat) : List Text → Nat
  | [] => start
  | _ :: _ => 0

/-- Whether the ends of lines, the nearest first, are within a width. -/
def Within (start width : Nat) : List Text → Prop
  | [] => True
  | line :: earlier => leftOf start earlier + line.length ≤ width ∧ Within start width earlier

/-- The cursor is where the current line ends, and the width covers what was written. -/
structure Tracked (b : LineBuffer) : Prop where
  column_eq : b.column = leftOf b.start b.finished + b.current.length
  printable : Text.Printable b.current
  start_le : b.start ≤ b.width
  within : Within b.start b.width b.finished
  /-- The indentation of a line after the first one does not count as written. -/
  column_le : b.fresh = false ∨ b.finished = [] → b.column ≤ b.width
  spaces : b.fresh = true → ∀ c ∈ b.current, c = ' '

variable {a b other : LineBuffer} {start : Nat} {text : Text}

lemma leftOf_le (start : Nat) (earlier : List Text) : leftOf start earlier ≤ start := by
  cases earlier with
  | nil => exact le_refl start
  | cons => exact Nat.zero_le start

lemma Within.mono {width width' : Nat} {lines : List Text} (h : Within start width lines)
    (hle : width ≤ width') : Within start width' lines := by
  induction lines with
  | nil => trivial
  | cons line earlier ih => exact ⟨le_trans h.1 hle, ih h.2⟩

/-- Lines whose first one starts where another line ended, spliced onto that line. -/
lemma Within.splice {column width : Nat} {line first : Text} {lines earlier : List Text}
    (h : Within column width (lines ++ [first])) (hearlier : Within start width earlier)
    (hcolumn : column = leftOf start earlier + line.length) :
    Within start width (lines ++ (line ++ first) :: earlier) := by
  induction lines with
  | nil =>
    refine ⟨?_, hearlier⟩
    have hfirst : column + first.length ≤ width := h.1
    rw [List.length_append]
    omega
  | cons next lines ih =>
    refine ⟨?_, ih h.2⟩
    have hnext : leftOf column (lines ++ [first]) + next.length ≤ width := h.1
    cases lines with
    | nil => exact hnext
    | cons => exact hnext

namespace Tracked

lemma startingAt (column : Nat) : (startingAt column).Tracked where
  column_eq := rfl
  printable := nofun
  start_le := le_refl column
  within := trivial
  column_le _ := le_refl column
  spaces _ := nofun

/-- The end of the current line is within the width once its final blanks are dropped. -/
lemma trimmed_le (h : b.Tracked) :
    leftOf b.start b.finished + (Text.trimEnd b.current).length ≤ b.width := by
  have hstarts : Text.trimEnd b.current <+: b.current := Text.dropEndWhile_isPrefix _ _
  cases hfresh : b.fresh with
  | false =>
    have hle := h.column_le (.inl hfresh)
    rw [h.column_eq] at hle
    exact le_trans (Nat.add_le_add_left hstarts.length_le _) hle
  | true =>
    have hnil : Text.trimEnd b.current = [] := by
      cases Text.trimEnd_eq_nil_or_solid b.current with
      | inl hnil => exact hnil
      | inr hsolid =>
        obtain ⟨before, c, hlast, hblank⟩ := hsolid
        have hmem : c ∈ b.current := hstarts.subset (hlast ▸ List.mem_append_right before List.mem_cons_self)
        rw [h.spaces hfresh c hmem] at hblank
        exact absurd hblank (by decide)
    rw [hnil]
    exact le_trans (leftOf_le b.start b.finished) h.start_le

lemma newlineAt (h : b.Tracked) (column : Nat) : (b.newlineAt column).Tracked where
  column_eq := by
    show column = 0 + (Text.spaces column).length
    rw [Text.spaces, List.length_replicate, Nat.zero_add]
  printable := Text.printable_spaces column
  start_le := h.start_le
  within := ⟨h.trimmed_le, h.within⟩
  column_le hwritten := by
    cases hwritten with
    | inl hfresh => exact absurd hfresh nofun
    | inr hfinished => exact absurd hfinished nofun
  spaces _ c hc := List.eq_of_mem_replicate hc

lemma write (h : b.Tracked) (htext : Text.Printable text) :
    (b.write text (Text.width text)).Tracked where
  column_eq := by
    show b.column + Text.width text = leftOf b.start b.finished + (b.current ++ text).length
    rw [h.column_eq, Text.width_of_isPrintableAscii htext, List.length_append, Nat.add_assoc]
  printable := h.printable.append htext
  start_le := le_trans h.start_le (le_max_left _ _)
  within := h.within.mono (le_max_left _ _)
  column_le _ := le_max_right _ _
  spaces := nofun

/-- What does not show in lines, cursor and width does not matter. -/
lemma congr {b' : LineBuffer} (h : b.Tracked) (hstart : b'.start = b.start)
    (hfinished : b'.finished = b.finished) (hcurrent : b'.current = b.current)
    (hcolumn : b'.column = b.column) (hwidth : b'.width = b.width) (hfresh : b'.fresh = b.fresh) :
    b'.Tracked where
  column_eq := by rw [hcolumn, hstart, hfinished, hcurrent, h.column_eq]
  printable := hcurrent ▸ h.printable
  start_le := by rw [hstart, hwidth]; exact h.start_le
  within := by rw [hstart, hwidth, hfinished]; exact h.within
  column_le := by rw [hfresh, hfinished, hcolumn, hwidth]; exact h.column_le
  spaces := by rw [hfresh, hcurrent]; exact h.spaces

lemma push (h : b.Tracked) (htext : Text.Printable text) : (b.push text).Tracked := by
  rw [LineBuffer.push]
  split_ifs
  · exact (h.newlineAt _).write htext
  · exact h.write htext

lemma pushLine (h : b.Tracked) (hfresh : b.fresh = false) (htext : Text.Printable text) :
    (b.pushLine text).Tracked where
  column_eq := by
    show Text.width text = 0 + text.length
    rw [Text.width_of_isPrintableAscii htext, Nat.zero_add]
  printable := htext
  start_le := le_trans h.start_le (le_max_left _ _)
  within := by
    have hle := h.column_le (.inl hfresh)
    rw [h.column_eq] at hle
    exact ⟨le_trans hle (le_max_left _ _), h.within.mono (le_max_left _ _)⟩
  column_le _ := le_max_right _ _
  spaces := nofun

lemma pushLines {lines : List Text} (h : b.Tracked) (hfresh : b.fresh = false)
    (hlines : ∀ line ∈ lines, Text.Printable line) : (lines.foldl LineBuffer.pushLine b).Tracked := by
  induction lines generalizing b with
  | nil => exact h
  | cons line rest ih =>
    apply ih (h.pushLine hfresh (hlines line List.mem_cons_self)) rfl
    exact fun l hl => hlines l (List.mem_cons_of_mem line hl)

lemma pushVerbatim (h : b.Tracked) (htext : ∀ c ∈ text, Text.isPrintableAscii c = true ∨ c = '\n') :
    (b.pushVerbatim text).Tracked := by
  have hlines : ∀ line ∈ (Text.pieces '\n' text).map (Text.dropEndWhile (· == '\r')),
      Text.Printable line := by
    intro line hline c hc
    obtain ⟨piece, hpiece, rfl⟩ := List.mem_map.1 hline
    have hmem : c ∈ piece := (Text.dropEndWhile_isPrefix _ piece).subset hc
    cases htext c (Text.mem_of_mem_pieces hpiece hmem) with
    | inl hprintable => exact hprintable
    | inr hfeed => exact absurd (hfeed ▸ hmem) (Text.not_mem_of_mem_pieces hpiece)
  rw [LineBuffer.pushVerbatim]
  cases hsplit : (Text.pieces '\n' text).map (Text.dropEndWhile (· == '\r')) with
  | nil => exact h
  | cons first rest =>
    rw [hsplit] at hlines
    apply (h.push (hlines first List.mem_cons_self)).pushLines rfl
    exact fun line hline => hlines line (List.mem_cons_of_mem first hline)

lemma pushSpace (h : b.Tracked) : b.pushSpace.Tracked := by
  rw [LineBuffer.pushSpace]
  split_ifs with hnot
  · exact h
  · have hwrite := h.write (Text.printable_spaces 1)
    have hfresh : b.fresh = false := by
      cases hb : b.fresh with
      | false => rfl
      | true => exact absurd (by rw [hb]; rfl) hnot
    exact hwrite.congr rfl rfl rfl rfl rfl hfresh

lemma separate (h : b.Tracked) (space : Bool) : (b.separate space).Tracked := by
  rw [LineBuffer.separate]
  split_ifs
  · exact h.newlineAt _
  · exact h.pushSpace
  · exact h

lemma beginLineAt (h : b.Tracked) (column : Nat) : (b.beginLineAt column).Tracked := by
  rw [LineBuffer.beginLineAt]
  split_ifs
  · exact h
  · exact h.newlineAt column

lemma padTo (h : b.Tracked) (column : Nat) : (b.padTo column).Tracked := by
  rw [LineBuffer.padTo]
  split_ifs with hlt
  · constructor
    · show column = leftOf b.start b.finished + (b.current ++ Text.spaces (column - b.column)).length
      rw [List.length_append, Text.spaces, List.length_replicate]
      have := h.column_eq
      omega
    · exact h.printable.append (Text.printable_spaces _)
    · exact le_trans h.start_le (le_max_left _ _)
    · exact h.within.mono (le_max_left _ _)
    · exact fun _ => le_max_right _ _
    · intro hfresh c hc
      cases List.mem_append.1 hc with
      | inl hc => exact h.spaces hfresh c hc
      | inr hc => exact List.eq_of_mem_replicate hc
  · exact h

lemma trimTrailing (h : b.Tracked) : b.trimTrailing.Tracked := by
  have hstarts : Text.trimEnd b.current <+: b.current := Text.dropEndWhile_isPrefix _ _
  have hprintable : Text.Printable (Text.trimEnd b.current) := fun c hc =>
    h.printable c (hstarts.subset hc)
  have hcolumn : b.trimTrailing.column
      = leftOf b.start b.finished + (Text.trimEnd b.current).length := by
    show b.column - (Text.byteLength b.current - Text.byteLength (Text.trimEnd b.current)) = _
    rw [Text.byteLength_of_printable h.printable, Text.byteLength_of_printable hprintable,
      h.column_eq]
    have := hstarts.length_le
    omega
  exact
    { column_eq := hcolumn
      printable := hprintable
      start_le := h.start_le
      within := h.within
      column_le := fun _ => by rw [hcolumn]; exact h.trimmed_le
      spaces := fun hfresh c hc => h.spaces hfresh c (hstarts.subset hc) }

lemma appendBuffer (h : b.Tracked) (hother : other.Tracked) (hstart : other.start = b.column) :
    (b.appendBuffer other).Tracked := by
  have hle : b.width ≤ max b.width other.width := le_max_left _ _
  have hle' : other.width ≤ max b.width other.width := le_max_right _ _
  rw [LineBuffer.appendBuffer]
  cases hlines : other.finished.reverse with
  | nil =>
    have hfinished : other.finished = [] := List.reverse_eq_nil_iff.1 hlines
    have hcolumn := hother.column_eq
    rw [hfinished, hstart] at hcolumn
    constructor
    · show other.column = leftOf b.start b.finished + (b.current ++ other.current).length
      rw [hcolumn, List.length_append, leftOf, h.column_eq, Nat.add_assoc]
    · exact h.printable.append hother.printable
    · exact le_trans h.start_le hle
    · exact h.within.mono hle
    · exact fun _ => le_trans (hother.column_le (.inr hfinished)) hle'
    · intro hfresh c hc
      obtain ⟨hb, ho⟩ := Bool.and_eq_true_iff.1 hfresh
      cases List.mem_append.1 hc with
      | inl hc => exact h.spaces hb c hc
      | inr hc => exact hother.spaces ho c hc
  | cons first middle =>
    have hfinished : other.finished = middle.reverse ++ [first] := by
      rw [← List.reverse_reverse other.finished, hlines, List.reverse_cons]
    have hleft : leftOf other.start other.finished = 0 := by
      rw [hfinished]
      cases middle.reverse <;> rfl
    have hwithin := hother.within.mono hle'
    rw [hfinished, hstart] at hwithin
    constructor
    · show other.column
        = leftOf b.start (middle.reverse ++ (b.current ++ first) :: b.finished) + other.current.length
      rw [hother.column_eq, hleft]
      cases middle.reverse <;> rfl
    · exact hother.printable
    · exact le_trans h.start_le hle
    · exact hwithin.splice (h.within.mono hle) h.column_eq
    · intro hwritten
      cases hwritten with
      | inl hfresh => exact le_trans (hother.column_le (.inl hfresh)) hle'
      | inr hnil => exact absurd hnil (by simp)
    · exact hother.spaces

end Tracked

/-! ### What has been finished -/

/-- A buffer with the finished lines of another one, and perhaps more, that starts where that one does. -/
structure Extends (a b : LineBuffer) : Prop where
  start_eq : b.start = a.start
  finished : a.finished <:+ b.finished

namespace Extends

/-- An operation that leaves the finished lines alone. -/
lemma of_eq (hstart : b.start = a.start) (hfinished : b.finished = a.finished) : a.Extends b where
  start_eq := hstart
  finished := hfinished ▸ List.suffix_refl _

lemma trans (h : a.Extends b) (h' : b.Extends other) : a.Extends other where
  start_eq := h'.start_eq.trans h.start_eq
  finished := h.finished.trans h'.finished

lemma newlineAt (column : Nat) (b : LineBuffer) : b.Extends (b.newlineAt column) where
  start_eq := rfl
  finished := List.suffix_cons _ _

lemma push (text : Text) (b : LineBuffer) : b.Extends (b.push text) := by
  rw [LineBuffer.push]
  split_ifs
  · exact (newlineAt b.lineIndent b).trans (of_eq rfl rfl)
  · exact of_eq rfl rfl

lemma pushLines (lines : List Text) (b : LineBuffer) :
    b.Extends (lines.foldl LineBuffer.pushLine b) := by
  induction lines generalizing b with
  | nil => exact of_eq rfl rfl
  | cons line rest ih =>
    have hline : b.Extends (b.pushLine line) := ⟨rfl, List.suffix_cons _ _⟩
    exact hline.trans (ih _)

lemma pushVerbatim (text : Text) (b : LineBuffer) : b.Extends (b.pushVerbatim text) := by
  rw [LineBuffer.pushVerbatim]
  cases (Text.pieces '\n' text).map (Text.dropEndWhile (· == '\r')) with
  | nil => exact of_eq rfl rfl
  | cons first rest => exact (push first b).trans (pushLines rest _)

lemma pushSpace (b : LineBuffer) : b.Extends b.pushSpace := by
  rw [LineBuffer.pushSpace]
  split_ifs <;> exact of_eq rfl rfl

lemma separate (space : Bool) (b : LineBuffer) : b.Extends (b.separate space) := by
  rw [LineBuffer.separate]
  split_ifs
  · exact newlineAt _ b
  · exact pushSpace b
  · exact of_eq rfl rfl

lemma beginLineAt (column : Nat) (b : LineBuffer) : b.Extends (b.beginLineAt column) := by
  rw [LineBuffer.beginLineAt]
  split_ifs
  · exact of_eq rfl rfl
  · exact newlineAt column b

lemma padTo (column : Nat) (b : LineBuffer) : b.Extends (b.padTo column) := by
  rw [LineBuffer.padTo]
  split_ifs <;> exact of_eq rfl rfl

lemma appendBuffer (b other : LineBuffer) : b.Extends (b.appendBuffer other) := by
  rw [LineBuffer.appendBuffer]
  cases other.finished.reverse with
  | nil => exact of_eq rfl rfl
  | cons first middle => exact ⟨rfl, middle.reverse ++ [b.current ++ first], by simp⟩

end Extends

/-! ### Any number of operations -/

/-- No operation touches a finished line. -/
lemma Edited.extends (h : Edited a b) : a.Extends b := by
  induction h with
  | refl => exact .of_eq rfl rfl
  | push _ _ ih => exact ih.trans (.push _ _)
  | pushVerbatim _ _ ih => exact ih.trans (.pushVerbatim _ _)
  | pushSpace _ ih => exact ih.trans (.pushSpace _)
  | separate space _ ih => exact ih.trans (.separate space _)
  | newline _ ih | newlineAt _ _ ih => exact ih.trans (.newlineAt _ _)
  | beginLineAt column _ ih => exact ih.trans (.beginLineAt column _)
  | padTo column _ ih => exact ih.trans (.padTo column _)
  | trimTrailing _ ih | forceBreak _ ih | setIndentBase _ _ ih | setLocalIndent _ _ ih
  | setLast _ _ ih | appendFragment _ _ _ ih => exact ih.trans (.of_eq rfl rfl)
  | appendLines _ _ ih _ => exact ih.trans (.appendBuffer _ _)

/-- Every operation keeps track of the cursor and the width. -/
lemma Edited.tracked (h : Edited a b) (ha : a.Tracked) : b.Tracked := by
  induction h with
  | refl => exact ha
  | push _ htext ih => exact (ih ha).push htext
  | pushVerbatim _ htext ih => exact (ih ha).pushVerbatim htext
  | pushSpace _ ih => exact (ih ha).pushSpace
  | separate space _ ih => exact (ih ha).separate space
  | newline _ ih => exact (ih ha).newlineAt _
  | newlineAt column _ ih => exact (ih ha).newlineAt column
  | beginLineAt column _ ih => exact (ih ha).beginLineAt column
  | padTo column _ ih => exact (ih ha).padTo column
  | trimTrailing _ ih => exact (ih ha).trimTrailing
  | forceBreak _ ih | setIndentBase _ _ ih | setLocalIndent _ _ ih | setLast _ _ ih =>
    exact (ih ha).congr rfl rfl rfl rfl rfl rfl
  | appendFragment last _ htext ih => exact ((ih ha).write htext).congr rfl rfl rfl rfl rfl rfl
  | appendLines _ hother ih ihother =>
    exact (ih ha).appendBuffer (ihother (.startingAt _)) hother.extends.start_eq

/-- The lines before the last one are the finished ones. -/
lemma dropLast_lines (b : LineBuffer) : b.lines.dropLast = b.finished.reverse :=
  List.dropLast_concat

/-- The ends of finished lines, counted from the first line. -/
lemma Within.end_le {width i : Nat} {line : Text} {lines : List Text} (h : Within start width lines)
    (hline : lines.reverse[i]? = some line) : (if i = 0 then start else 0) + line.length ≤ width := by
  induction lines with
  | nil => exact absurd hline nofun
  | cons last earlier ih =>
    rw [List.reverse_cons] at hline
    by_cases hi : i < earlier.reverse.length
    · rw [List.getElem?_append_left hi] at hline
      exact ih h.2 hline
    · rw [List.getElem?_append_right (Nat.le_of_not_lt hi)] at hline
      obtain ⟨hi', hlast⟩ := List.getElem?_eq_some_iff.1 hline
      obtain rfl : last = line := by simpa using hlast
      have hlength : i = earlier.length := by
        simp at hi hi'
        omega
      rw [hlength]
      cases earlier with
      | nil => exact h.1
      | cons => exact h.1

end LineBuffer
end SqlLayout
