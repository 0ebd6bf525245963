import Mathlib.Data.List.DropRight
import Mathlib.Tactic.Common
import SqlLayout.Text.Width

/-!
# Sizes of texts

A text takes at most three cells for each byte, and a part of it no more bytes than all of it.
-/

namespace SqlLayout.Text

variable {s t line : Text}

/-! ### Bytes -/

lemma byteLength_spaces (n : Nat) : byteLength (spaces n) = n := by
  induction n with
  | zero => rfl
  | succ n ih =>
    rw [spaces, List.replicate_succ, byteLength_cons, ← spaces, ih]
    exact Nat.add_comm 1 n

lemma byteLength_le_of_isPrefix (h : s <+: t) : byteLength s ≤ byteLength t := by
  obtain ⟨more, rfl⟩ := h
  rw [byteLength_append]
  exact Nat.le_add_right _ _

lemma byteLength_dropEndWhile_le (p : Char → Bool) (t : Text) : byteLength (dropEndWhile p t) ≤ byteLength t :=
  byteLength_le_of_isPrefix (List.rdropWhile_prefix p t)

/-- A piece between separators is no longer than the text. -/
lemma byteLength_le_of_mem_pieces {sep : Char} (h : line ∈ pieces sep t) : byteLength line ≤ byteLength t := by
  -- The first piece is a prefix, and the others come from the text without its first character.
  have hall : (∀ first ∈ (pieces sep t).head?, first <+: t)
      ∧ ∀ line ∈ pieces sep t, byteLength line ≤ byteLength t := by
    clear h
    induction t with
    | nil => simp [pieces]
    | cons c t ih =>
      rw [pieces]
      split
      · refine ⟨by simp, List.forall_mem_cons.2 ⟨Nat.zero_le _, fun line hline => ?_⟩⟩
        exact Nat.le_trans (ih.2 line hline) (Nat.le_add_left _ _)
      · cases hpieces : pieces sep t with
        | nil => exact absurd hpieces (pieces_ne_nil sep t)
        | cons first others =>
          rw [hpieces] at ih
          have hfirst : c :: first <+: c :: t := List.prefix_cons_inj c |>.2 (ih.1 first rfl)
          refine ⟨by simpa using hfirst, List.forall_mem_cons.2 ⟨byteLength_le_of_isPrefix hfirst, ?_⟩⟩
          exact fun line hline => Nat.le_trans (ih.2 line (List.mem_cons_of_mem _ hline)) (Nat.le_add_left _ _)
  exact hall.2 line h

/-! ### Cells -/

lemma Ligature.extend?_le {l : Ligature} {c : Char} {cells : Int} {rest : Option Ligature}
    (h : l.extend? c = some (cells, rest)) : cells ≤ 3 := by
  have hcomplete (h : l.complete? c = some (cells, rest)) : cells ≤ 3 := by
    unfold Ligature.complete? at h
    grind
  unfold Ligature.extend? at h
  grind

lemma EmojiRun.extend?_le {run longer : EmojiRun} {c : Char} {cells : Int}
    (h : run.extend? c = some (cells, longer)) : cells ≤ 3 := by
  unfold EmojiRun.extend? at h
  grind

lemma charWidth_le (c : Char) : charWidth c ≤ 3 := by
  unfold charWidth
  split_ifs <;> omega

/-- No character adds more than three cells. -/
lemma Follow.add_le (c : Char) (next : Follow) : (next.add c).1 ≤ 3 := by
  have hextend {tail longer : Tail} {cells : Int} (h : tail.extend? c = some (cells, longer)) : cells ≤ 3 := by
    cases tail with
    | ligature l =>
      obtain ⟨⟨cells', rest⟩, hrest, heq⟩ := Option.map_eq_some_iff.1 h
      obtain ⟨rfl, -⟩ := Prod.mk.inj heq
      exact Ligature.extend?_le hrest
    | emoji run =>
      obtain ⟨⟨cells', longer⟩, hlonger, heq⟩ := Option.map_eq_some_iff.1 h
      obtain ⟨rfl, -⟩ := Prod.mk.inj heq
      exact EmojiRun.extend?_le hlonger
    | _ => exact absurd h nofun
  unfold Follow.add
  dsimp only
  cases htail : next.dropEmoji.tail.extend? c with
  | none =>
    have hwidth := charWidth_le c
    split_ifs <;> dsimp only <;> omega
  | some result =>
    have hcells : result.1 ≤ 3 := hextend htail
    split_ifs <;> dsimp only <;> omega

lemma width_le (t : Text) : width t ≤ 3 * byteLength t := by
  have hcells : (cells t).1 ≤ 3 * (byteLength t : Int) := by
    induction t with
    | nil => decide
    | cons c t ih =>
      have hadd := Follow.add_le c (cells t).2
      have hsize : 0 < c.utf8Size := c.utf8Size_pos
      have hcons : (cells (c :: t)).1 = ((cells t).2.add c).1 + (cells t).1 := rfl
      rw [hcons, byteLength_cons]
      omega
  rw [width]
  omega

end SqlLayout.Text
