import SqlLayout.Proofs.Layout.Ensures
import SqlLayout.Proofs.Text.Firm

/-!
# Neat buffers

Blanks at the end of a line are dropped when the next line starts, so they do no harm to a line with ink.
Harm comes from lines without: from two of them in a row, and from one at the start of a piece, which goes
on the line of what stands before it. A neat buffer has ink on its first and on its current line; a blank
one has come to the start of a line. Nodes are laid out neatly from either, and lines are broken and
padded in neat buffers only.
-/

namespace SqlLayout

open Text (Stacked Opens Firm Solid isBlank)

/-- A buffer with ink on its current line. -/
structure LineBuffer.Neat (b : LineBuffer) : Prop where
  above : Stacked b.finished
  ink : ∃ c ∈ b.current, isBlank c = false
  line : '\n' ∉ b.current
  opens : b.finished = [] → Opens b.current
  fresh : b.fresh = false

/-- A buffer at the start of a line. -/
structure LineBuffer.Blank (b : LineBuffer) : Prop where
  above : Stacked b.finished
  current : ∃ n, b.current = Text.spaces n
  start : b.finished = [] → b.current = []
  fresh : b.fresh = true
  pendingBreak : b.pendingBreak = false

/-- A buffer to which a node can be appended. -/
def LineBuffer.Ready (b : LineBuffer) : Prop :=
  b.Neat ∨ b.Blank

/-- A piece with ink on its first and on its last line. -/
def Piece.Neat : Piece → Prop
  | .fragment _ text _ => Firm text
  | .lines b => b.Neat

/-- A piece without text. -/
def Piece.Hollow : Piece → Prop
  | .fragment _ _ _ => False
  | .lines b => b.Blank ∧ b.finished = []

namespace LineBuffer

variable {b : LineBuffer}

lemma not_mem_spaces {c : Char} (h : c ≠ ' ') (n : Nat) : c ∉ Text.spaces n := by
  intro hmem
  exact h (List.eq_of_mem_replicate hmem)

lemma trimEnd_spaces (n : Nat) : Text.trimEnd (Text.spaces n) = [] := by
  refine List.rdropWhile_eq_nil_iff.2 fun c hc => ?_
  obtain rfl := List.eq_of_mem_replicate hc
  decide

lemma Blank.line (h : b.Blank) : '\n' ∉ b.current := by
  obtain ⟨n, hn⟩ := h.current
  rw [hn]
  exact not_mem_spaces (by decide) n

lemma Ready.above (h : b.Ready) : Stacked b.finished :=
  h.elim (·.above) (·.above)

lemma Ready.line (h : b.Ready) : '\n' ∉ b.current :=
  h.elim (·.line) (·.line)

lemma Ready.opens (h : b.Ready) (hnil : b.finished = []) : b.current = [] ∨ Opens b.current :=
  h.elim (fun h => .inr (h.opens hnil)) (fun h => .inl (h.start hnil))

lemma Blank.startingAt (column indent : Nat) :
    Blank { LineBuffer.startingAt column with indentBase := indent } :=
  ⟨.nil, ⟨0, rfl⟩, fun _ => rfl, rfl, rfl⟩

lemma Neat.solid_trimEnd (h : b.Neat) : Solid (Text.trimEnd b.current) := by
  refine (Text.trimEnd_eq_nil_or_solid _).resolve_left fun hnil => ?_
  obtain ⟨c, hc, hink⟩ := h.ink
  rw [List.rdropWhile_eq_nil_iff.1 hnil c hc] at hink
  exact absurd hink nofun

/-- The line of a neat buffer may stand above another. -/
lemma Neat.stacked (h : b.Neat) : Stacked (Text.trimEnd b.current :: b.finished) :=
  .line h.solid_trimEnd (Text.not_mem_trimEnd h.line) (fun hnil => (h.opens hnil).trimEnd.1) h.above

/-! ### Lines -/

lemma Neat.newlineAt (h : b.Neat) (column : Nat) : (b.newlineAt column).Blank :=
  ⟨h.stacked, ⟨column, rfl⟩, nofun, rfl, rfl⟩

/-- A line may be left empty after one with ink. -/
lemma Neat.newlineAt_newlineAt (h : b.Neat) (column column' : Nat) :
    ((b.newlineAt column).newlineAt column').Blank := by
  refine ⟨?_, ⟨column', rfl⟩, nofun, rfl, rfl⟩
  simp only [LineBuffer.newlineAt, trimEnd_spaces]
  exact .gap h.solid_trimEnd.ne_nil h.stacked

lemma Neat.beginLineAt (h : b.Neat) (column : Nat) : b.beginLineAt column = b.newlineAt column := by
  rw [LineBuffer.beginLineAt, h.fresh]
  rfl

lemma beginLineAt_newlineAt (column : Nat) : (b.newlineAt column).beginLineAt column = b.newlineAt column := by
  simp [LineBuffer.beginLineAt, LineBuffer.newlineAt]

lemma Neat.forceBreak (h : b.Neat) : b.forceBreak.Neat :=
  ⟨h.above, h.ink, h.line, h.opens, h.fresh⟩

lemma Neat.setLast (h : b.Neat) (token : Option Nat) : (b.setLast token).Neat :=
  ⟨h.above, h.ink, h.line, h.opens, h.fresh⟩

/-- Blanks after ink leave a buffer neat. -/
lemma Neat.pad (h : b.Neat) {b' : LineBuffer} (hfinished : b'.finished = b.finished)
    {blanks : Text} (hcurrent : b'.current = b.current ++ blanks) (hline : '\n' ∉ blanks)
    (hfresh : b'.fresh = b.fresh) : b'.Neat := by
  obtain ⟨c, hc, hink⟩ := h.ink
  refine ⟨hfinished ▸ h.above, ⟨c, by simp [hcurrent, hc], hink⟩, ?_, fun hnil => ?_, hfresh ▸ h.fresh⟩
  · rw [hcurrent, List.mem_append, not_or]
    exact ⟨h.line, hline⟩
  · rw [hcurrent]
    exact (h.opens (hfinished ▸ hnil)).append _

lemma Neat.pushSpace (h : b.Neat) : b.pushSpace.Neat := by
  unfold LineBuffer.pushSpace
  split
  · exact h
  · exact h.pad rfl rfl (by decide) rfl

lemma Neat.padTo (h : b.Neat) (column : Nat) : (b.padTo column).Neat := by
  unfold LineBuffer.padTo
  split
  · exact h.pad rfl rfl (not_mem_spaces (by decide) _) rfl
  · exact h

lemma Neat.separate (h : b.Neat) (space : Bool) : (b.separate space).Ready := by
  unfold LineBuffer.separate
  split
  · exact .inr (h.newlineAt _)
  · split
    · exact .inl h.pushSpace
    · exact .inl h

lemma Blank.separate (h : b.Blank) (space : Bool) : b.separate space = b := by
  simp [LineBuffer.separate, LineBuffer.pushSpace, h.pendingBreak, h.fresh]

lemma Ready.separate (h : b.Ready) (space : Bool) :
    (b.separate space).Ready ∧ (b.separate space).pendingBreak = false := by
  refine ⟨?_, Sheet.pendingBreak_separate _ _⟩
  rcases h with h | h
  · exact h.separate space
  · rw [h.separate]
    exact .inr h

/-! ### Texts and pieces -/

/-- A firm text on the current line is ink on it. -/
lemma Ready.write (h : b.Ready) {text : Text} (htext : Firm text) (width : Nat) : (b.write text width).Neat := by
  obtain ⟨c, s, rfl, hc⟩ := htext.opens
  refine ⟨h.above, ⟨c, by simp [LineBuffer.write], hc⟩, ?_, fun hnil => ?_, rfl⟩
  · rw [LineBuffer.write, List.mem_append, not_or]
    exact ⟨h.line, htext.line⟩
  · rcases h.opens hnil with hcurrent | hcurrent
    · rw [LineBuffer.write, hcurrent]
      exact ⟨c, s, rfl, hc⟩
    · exact hcurrent.append _

lemma Ready.append (h : b.Ready) {piece : Piece} (hpiece : piece.Neat) : (b.append piece).Neat := by
  cases piece with
  | fragment start text last => exact (h.write hpiece _).setLast last
  | lines other =>
    have hother : other.Neat := hpiece
    obtain ⟨c, hc, hink⟩ := hother.ink
    cases hfinished : other.finished.reverse with
    | nil =>
      simp only [LineBuffer.append, appendBuffer, hfinished]
      have hnil : other.finished = [] := List.reverse_eq_nil_iff.1 hfinished
      refine ⟨h.above, ⟨c, by simp [hc], hink⟩, ?_, fun hnil' => ?_, by simp [hother.fresh]⟩
      · simp only [List.mem_append, not_or]
        exact ⟨h.line, hother.line⟩
      · rcases h.opens hnil' with hcurrent | hcurrent
        · simpa [hcurrent] using hother.opens hnil
        · exact hcurrent.append _
    | cons first middle =>
      simp only [LineBuffer.append, appendBuffer, hfinished]
      have hfinished : other.finished = middle.reverse ++ [first] := by
        rw [← List.reverse_reverse other.finished, hfinished, List.reverse_cons]
      have habove := hother.above
      rw [hfinished] at habove
      exact ⟨habove.join h.above h.line h.opens, ⟨c, hc, hink⟩, hother.line, by simp, hother.fresh⟩

/-- A piece without text leaves a buffer as it is. -/
lemma Ready.append_hollow (h : b.Ready) {piece : Piece} (hpiece : piece.Hollow) : (b.append piece).Ready := by
  cases piece with
  | fragment => exact hpiece.elim
  | lines other =>
    obtain ⟨hblank, hnil⟩ : other.Blank ∧ other.finished = [] := hpiece
    simp only [LineBuffer.append, appendBuffer, hnil, List.reverse_nil, hblank.start hnil, List.append_nil,
      hblank.fresh, Bool.and_true]
    rcases h with h | h
    · exact .inl ⟨h.above, h.ink, h.line, h.opens, h.fresh⟩
    · exact .inr ⟨h.above, h.current, h.start, h.fresh, hblank.pendingBreak⟩

end LineBuffer

/-! ### Comments -/

lemma LineBuffer.Ready.appendComment {sh : Sheet} {b : LineBuffer} {id : Nat} (h : b.Ready)
    (hremove : sh.policy.removeComments = false)
    (htext : Firm (Text.trimEnd (sh.tree.tokens.text (sh.tree.firstToken id)))) :
    (sh.appendComment id b).Neat := by
  unfold Sheet.appendComment
  rw [hremove, if_neg Bool.false_ne_true]
  dsimp only
  generalize hplaced : (if b.pendingBreak || _ then b.newline else b.separate _) = placed
  -- A line is broken only where something stands on it.
  have hready : placed.Ready ∧ placed.pendingBreak = false := by
    rw [← hplaced]
    split
    · next hbreak =>
      have hneat : b.Neat := by
        refine h.resolve_right fun hblank => ?_
        simp [hblank.pendingBreak, hblank.fresh] at hbreak
      exact ⟨.inr (hneat.newlineAt _), rfl⟩
    · exact h.separate _
  have hlines : (Text.pieces '\n' _).map (Text.dropEndWhile (· == '\r')) = [_] :=
    htext.solid.linesOf htext.line
  have hwritten : ((placed.pushVerbatim (Text.trimEnd (sh.tree.tokens.text (sh.tree.firstToken id)))).setLast
      (some (sh.tree.firstToken id))).Neat := by
    rw [LineBuffer.pushVerbatim, hlines]
    dsimp only [List.foldl_nil]
    rw [LineBuffer.push, hready.2, if_neg Bool.false_ne_true]
    exact (hready.1.write htext _).setLast _
  split
  · exact hwritten.forceBreak
  · exact hwritten

end SqlLayout
