import SqlLayout.Proofs.Layout.Edited
import SqlLayout.Proofs.Text.Size

/-!
# Moving buffers of one line

A buffer of one line is moved by adding the distance to its cursor and its width, or by taking it away.
Nothing is cut off as long as both are right of the column where the buffer starts. For the width that
always holds. The cursor goes on by the columns that a text takes and goes back by the bytes of the blanks
that are dropped, so it stays right of the start exactly if the blanks at the end of every text that is
written take no more bytes than the text takes columns.
-/

namespace SqlLayout

namespace Text

/-- Bytes of the blanks at the end of a text. -/
def blankTail (t : Text) : Nat :=
  byteLength t - byteLength (trimEnd t)

/-- The blanks at the end of a text take no more bytes than the text takes columns. -/
def HasNarrowTail (t : Text) : Prop :=
  blankTail t ≤ width t

lemma blankTail_le (t : Text) : blankTail t ≤ byteLength t :=
  Nat.sub_le _ _

lemma blankTail_spaces_le (n : Nat) : blankTail (spaces n) ≤ n :=
  (blankTail_le _).trans_eq (byteLength_spaces n)

/-- Blanks behind a text add to the blanks at its end, and anything else hides these. -/
lemma blankTail_append_le (s t : Text) : blankTail (s ++ t) ≤ blankTail s + blankTail t := by
  have hle (u : Text) : byteLength (trimEnd u) ≤ byteLength u := byteLength_dropEndWhile_le isBlank u
  have htrim : trimEnd (s ++ t) = if trimEnd t = [] then trimEnd s else s ++ trimEnd t := by
    rw [trimEnd, dropEndWhile, List.reverse_append, List.dropWhile_append]
    simp only [trimEnd, dropEndWhile, List.isEmpty_iff, List.reverse_eq_nil_iff]
    split <;> simp
  have hs := hle s
  have ht := hle t
  rw [blankTail, htrim]
  split
  · next hnil =>
    rw [byteLength_append, blankTail, blankTail, hnil, byteLength_nil]
    omega
  · rw [byteLength_append, byteLength_append, blankTail, blankTail]
    omega

/-- Dropping the blanks at the end leaves none. -/
lemma blankTail_trimEnd (t : Text) : blankTail (trimEnd t) = 0 := by
  have hagain : trimEnd (trimEnd t) = trimEnd t := by
    cases trimEnd_eq_nil_or_solid t with
    | inl hnil => rw [hnil]; rfl
    | inr hsolid => exact hsolid.trimEnd
  rw [blankTail, hagain, Nat.sub_self]

end Text

namespace LineBuffer

/--
The buffers that arise from a buffer by its operations, where all texts that are written on a line are
allowed ones. What is appended is a text, or a buffer that starts at the cursor and arose in the same way
from an empty one; buffers of one line may be moved.
-/
inductive Written (allowed : Text → Prop) : LineBuffer → LineBuffer → Prop
  | refl (a) : Written allowed a a
  | push {a b text} : Written allowed a b → allowed text → Written allowed a (b.push text)
  | pushVerbatim {a b text} : Written allowed a b → (∀ first ∈ (Text.linesOf text).head?, allowed first) →
    Written allowed a (b.pushVerbatim text)
  | pushSpace {a b} : Written allowed a b → Written allowed a b.pushSpace
  | separate {a b} (space) : Written allowed a b → Written allowed a (b.separate space)
  | newline {a b} : Written allowed a b → Written allowed a b.newline
  | newlineAt {a b} (column) : Written allowed a b → Written allowed a (b.newlineAt column)
  | beginLineAt {a b} (column) : Written allowed a b → Written allowed a (b.beginLineAt column)
  | padTo {a b} (column) : Written allowed a b → Written allowed a (b.padTo column)
  | trimTrailing {a b} : Written allowed a b → Written allowed a b.trimTrailing
  | forceBreak {a b} : Written allowed a b → Written allowed a b.forceBreak
  | setIndentBase {a b} (column) : Written allowed a b → Written allowed a { b with indentBase := column }
  | setLocalIndent {a b} (indent) : Written allowed a b → Written allowed a { b with localIndent := indent }
  | setLast {a b} (token) : Written allowed a b → Written allowed a (b.setLast token)
  | appendFragment {a b text} (last) : Written allowed a b → allowed text →
    Written allowed a (b.append (.fragment b.column text last))
  | appendLines {a b other column} : Written allowed a b → Written allowed (startingAt column) other →
    other.start = b.column → Written allowed a (b.append (.lines other))
  | shifted {a b} (column) : Written allowed a b → b.height = 1 → Written allowed a (b.shifted column)

/--
The width covers the start; and if no text ends in wide blanks, the cursor stands right of the start by the
bytes of the blanks at the end of the line, as long as there is one line.
-/
structure Anchored (narrow : Prop) (b : LineBuffer) : Prop where
  start_le : b.start ≤ b.width
  right : narrow → b.finished = [] → b.start + Text.blankTail b.current ≤ b.column

variable {allowed : Text → Prop} {narrow : Prop} {a b other : LineBuffer} {text : Text} {n : Nat}

namespace Anchored

lemma startingAt (column : Nat) : (startingAt column).Anchored narrow where
  start_le := le_refl column
  right _ _ := le_refl column

/-- What does not show in lines, cursor and width does not matter. -/
lemma congr {b' : LineBuffer} (h : b.Anchored narrow) (hstart : b'.start = b.start)
    (hfinished : b'.finished = b.finished) (hcurrent : b'.current = b.current)
    (hcolumn : b'.column = b.column) (hwidth : b'.width = b.width) : b'.Anchored narrow where
  start_le := by rw [hstart, hwidth]; exact h.start_le
  right := by rw [hstart, hfinished, hcurrent, hcolumn]; exact h.right

/-- With a line before the current one, only the width matters. -/
lemma of_finished (hstart : b.start ≤ b.width) (hfinished : b.finished ≠ []) : b.Anchored narrow where
  start_le := hstart
  right _ hnil := absurd hnil hfinished

/-- The cursor goes on at least by the bytes of the blanks at the end of what is written. -/
lemma goOn {b' : LineBuffer} (h : b.Anchored narrow) (hstart : b'.start = b.start)
    (hfinished : b'.finished = b.finished) (hcurrent : b'.current = b.current ++ text)
    (hwidth : b.width ≤ b'.width) (hcolumn : narrow → b.column + Text.blankTail text ≤ b'.column) :
    b'.Anchored narrow where
  start_le := hstart ▸ le_trans h.start_le hwidth
  right hnarrow hnil := by
    have hbefore := h.right hnarrow (hfinished ▸ hnil)
    have htail := Text.blankTail_append_le b.current text
    have hgone := hcolumn hnarrow
    rw [hstart, hcurrent]
    omega

lemma newlineAt (h : b.Anchored narrow) (column : Nat) : (b.newlineAt column).Anchored narrow :=
  of_finished h.start_le (List.cons_ne_nil _ _)

lemma write (h : b.Anchored narrow) (htext : narrow → Text.blankTail text ≤ n) :
    (b.write text n).Anchored narrow :=
  h.goOn rfl rfl rfl (le_max_left _ _) fun hnarrow => Nat.add_le_add_left (htext hnarrow) b.column

lemma push (h : b.Anchored narrow) (htext : narrow → text.HasNarrowTail) : (b.push text).Anchored narrow := by
  rw [LineBuffer.push]
  split_ifs
  · exact (h.newlineAt _).write htext
  · exact h.write htext

lemma pushLines (h : b.Anchored narrow) (lines : List Text) :
    (lines.foldl LineBuffer.pushLine b).Anchored narrow := by
  induction lines generalizing b with
  | nil => exact h
  | cons line rest ih =>
    have hline : (b.pushLine line).Anchored narrow :=
      of_finished (le_trans h.start_le (le_max_left _ _)) (List.cons_ne_nil _ _)
    exact ih hline

lemma pushVerbatim (h : b.Anchored narrow)
    (htext : ∀ first ∈ (Text.linesOf text).head?, narrow → first.HasNarrowTail) :
    (b.pushVerbatim text).Anchored narrow := by
  rw [LineBuffer.pushVerbatim]
  cases hlines : (Text.pieces '\n' text).map (Text.dropEndWhile (· == '\r')) with
  | nil => exact h
  | cons first rest =>
    have hfirst : first ∈ (Text.linesOf text).head? := by rw [Text.linesOf, hlines]; rfl
    exact (h.push (htext first hfirst)).pushLines rest

lemma pushSpace (h : b.Anchored narrow) : b.pushSpace.Anchored narrow := by
  rw [LineBuffer.pushSpace]
  split_ifs
  · exact h
  · exact (h.write fun _ => Text.blankTail_spaces_le 1).congr rfl rfl rfl rfl rfl

lemma separate (h : b.Anchored narrow) (space : Bool) : (b.separate space).Anchored narrow := by
  rw [LineBuffer.separate]
  split_ifs
  · exact h.newlineAt _
  · exact h.pushSpace
  · exact h

lemma beginLineAt (h : b.Anchored narrow) (column : Nat) : (b.beginLineAt column).Anchored narrow := by
  rw [LineBuffer.beginLineAt]
  split_ifs
  · exact h
  · exact h.newlineAt column

lemma padTo (h : b.Anchored narrow) (column : Nat) : (b.padTo column).Anchored narrow := by
  rw [LineBuffer.padTo]
  split_ifs with hlt
  · refine h.goOn rfl rfl rfl (le_max_left _ _) fun _ => ?_
    have hspaces := Text.blankTail_spaces_le (column - b.column)
    show b.column + Text.blankTail (Text.spaces (column - b.column)) ≤ column
    omega
  · exact h

/-- The blanks at the end are what the cursor has in reserve. -/
lemma trimTrailing (h : b.Anchored narrow) : b.trimTrailing.Anchored narrow where
  start_le := h.start_le
  right hnarrow hnil := by
    have hbefore := h.right hnarrow hnil
    show b.start + Text.blankTail (Text.trimEnd b.current) ≤ b.column - Text.blankTail b.current
    rw [Text.blankTail_trimEnd]
    omega

lemma appendBuffer (h : b.Anchored narrow) (hother : other.Anchored narrow) (hstart : other.start = b.column) :
    (b.appendBuffer other).Anchored narrow := by
  rw [LineBuffer.appendBuffer]
  cases hlines : other.finished.reverse with
  | nil =>
    refine h.goOn rfl rfl (show _ = b.current ++ other.current from rfl) (le_max_left _ _) fun hnarrow => ?_
    exact hstart ▸ hother.right hnarrow (List.reverse_eq_nil_iff.1 hlines)
  | cons first middle => exact of_finished (le_trans h.start_le (le_max_left _ _)) (by simp)

/-- A buffer of one line is moved with all that counts from its start. -/
lemma shifted (h : b.Anchored narrow) (column : Nat) : (b.shifted column).Anchored narrow := by
  have hstart := h.start_le
  rw [LineBuffer.shifted]
  split_ifs
  · refine ⟨?_, fun hnarrow hnil => ?_⟩
    · show column ≤ b.width + (column - b.start)
      omega
    · have hright := h.right hnarrow hnil
      show column + Text.blankTail b.current ≤ b.column + (column - b.start)
      omega
  · refine ⟨?_, fun hnarrow hnil => ?_⟩
    · show column ≤ b.width - (b.start - column)
      omega
    · have hright := h.right hnarrow hnil
      show column + Text.blankTail b.current ≤ b.column - (b.start - column)
      omega

end Anchored

/-- Every operation keeps width and cursor right of the start. -/
lemma Written.anchored (h : Written allowed a b)
    (ha : a.Anchored (∀ text, allowed text → text.HasNarrowTail)) :
    b.Anchored (∀ text, allowed text → text.HasNarrowTail) := by
  induction h with
  | refl => exact ha
  | push _ htext ih => exact (ih ha).push fun hnarrow => hnarrow _ htext
  | pushVerbatim _ htext ih =>
    exact (ih ha).pushVerbatim fun first hfirst hnarrow => hnarrow _ (htext first hfirst)
  | pushSpace _ ih => exact (ih ha).pushSpace
  | separate space _ ih => exact (ih ha).separate space
  | newline _ ih => exact (ih ha).newlineAt _
  | newlineAt column _ ih => exact (ih ha).newlineAt column
  | beginLineAt column _ ih => exact (ih ha).beginLineAt column
  | padTo column _ ih => exact (ih ha).padTo column
  | trimTrailing _ ih => exact (ih ha).trimTrailing
  | forceBreak _ ih | setIndentBase _ _ ih | setLocalIndent _ _ ih | setLast _ _ ih =>
    exact (ih ha).congr rfl rfl rfl rfl rfl
  | appendFragment last _ htext ih =>
    exact ((ih ha).write fun hnarrow => hnarrow _ htext).congr rfl rfl rfl rfl rfl
  | appendLines _ _ hstart ih ihother => exact (ih ha).appendBuffer (ihother (.startingAt _)) hstart
  | shifted column _ _ ih => exact (ih ha).shifted column

/-- Moving cuts nothing off, to whatever column, exactly if cursor and width are right of the start. -/
lemma shifted_exact_iff (b : LineBuffer) :
    (∀ column, (b.shifted column).column + b.start = b.column + column
        ∧ (b.shifted column).width + b.start = b.width + column)
      ↔ b.start ≤ b.column ∧ b.start ≤ b.width := by
  constructor
  · intro h
    obtain ⟨hcolumn, hwidth⟩ := h 0
    exact ⟨by omega, by omega⟩
  · rintro ⟨hcolumn, hwidth⟩ column
    rw [shifted]
    split_ifs
    · exact ⟨by dsimp only; omega, by dsimp only; omega⟩
    · exact ⟨by dsimp only; omega, by dsimp only; omega⟩

/-- A text with wide blanks at its end takes the cursor left of the start when they are dropped. -/
lemma column_lt_start (h : ¬text.HasNarrowTail) :
    ((startingAt 1).push text).trimTrailing.column < 1 := by
  have hcolumn : ((startingAt 1).push text).trimTrailing.column
      = 1 + Text.width text - Text.blankTail text := rfl
  rw [Text.HasNarrowTail] at h
  rw [hcolumn]
  omega

/--
Whatever is written to a new buffer, its width is not less than its start. While it has one line its cursor
is not left of its start either, and it can be moved to every column without loss, exactly if no allowed
text ends in blanks that take more bytes than the text takes columns.
-/
theorem movable_iff_narrow (allowed : Text → Prop) :
    (∀ start b, Written allowed (startingAt start) b → b.start ≤ b.width)
      ∧ ((∀ start b, Written allowed (startingAt start) b → b.height = 1 → b.start ≤ b.column
          ∧ ∀ column, (b.shifted column).column + b.start = b.column + column
            ∧ (b.shifted column).width + b.start = b.width + column)
        ↔ ∀ text, allowed text → text.HasNarrowTail) := by
  have hanchored {start b} (h : Written allowed (startingAt start) b) := h.anchored (.startingAt start)
  refine ⟨fun start b h => (hanchored h).start_le, fun h text htext => ?_, fun hnarrow start b h hheight => ?_⟩
  · by_contra hwide
    have hle := (h 1 _ ((Written.refl _).push htext).trimTrailing rfl).1
    exact absurd (column_lt_start hwide) (Nat.not_lt.2 hle)
  · have hfinished : b.finished = [] := List.length_eq_zero_iff.1 (Nat.succ.inj hheight)
    have hright := (hanchored h).right hnarrow hfinished
    have hle : b.start ≤ b.column := le_trans (Nat.le_add_right _ _) hright
    exact ⟨hle, (shifted_exact_iff b).2 ⟨hle, (hanchored h).start_le⟩⟩

/-- Two ideographic spaces take four columns and six bytes. -/
theorem column_lt_start_of_wide_blanks :
    ∃ b, b = ((startingAt 5).push ['\u3000', '\u3000']).trimTrailing
      ∧ Written (fun _ => True) (startingAt 5) b ∧ b.height = 1 ∧ b.column = 3 ∧ b.start = 5
      ∧ ¬∀ start b, Written (fun _ => True) (startingAt start) b →
        b.start ≤ b.width ∧ (b.height = 1 → b.start ≤ b.column) := by
  have hcolumn : ((startingAt 5).push ['\u3000', '\u3000']).trimTrailing.column = 3 := by decide +kernel
  have h : Written (fun _ => True) (startingAt 5) ((startingAt 5).push ['\u3000', '\u3000']).trimTrailing :=
    ((Written.refl _).push trivial).trimTrailing
  refine ⟨_, rfl, h, rfl, hcolumn, rfl, fun hall => ?_⟩
  have hle : 5 ≤ ((startingAt 5).push ['\u3000', '\u3000']).trimTrailing.column := (hall 5 _ h).2 rfl
  rw [hcolumn] at hle
  exact absurd hle (by decide)

end LineBuffer
end SqlLayout
