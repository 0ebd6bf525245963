import Mathlib.Data.List.Forall2
import Mathlib.Tactic.Common
import SqlLayout.Text.Width

/-!
# Texts that are equal once folded

A folding maps characters to characters and keeps all that a layout looks at: which ones are blanks,
line feeds or carriage returns, and how many bytes and cells they take. Texts that a folding makes equal
are cut into equal lines and take equal widths.
-/

namespace SqlLayout.Text

/-- A map of characters that no layout can tell from the identity. -/
structure Folding where
  fold : Char → Char
  isBlank_fold (c : Char) : isBlank (fold c) = isBlank c
  fold_eq_feed (c : Char) : fold c = '\n' ↔ c = '\n'
  fold_eq_return (c : Char) : fold c = '\r' ↔ c = '\r'
  utf8Size_fold (c : Char) : (fold c).utf8Size = c.utf8Size
  add_fold (c : Char) (next : Follow) : next.add (fold c) = next.add c

namespace Folding

/-- The folding that tells all characters apart. -/
def identity : Folding where
  fold := id
  isBlank_fold _ := rfl
  fold_eq_feed _ := Iff.rfl
  fold_eq_return _ := Iff.rfl
  utf8Size_fold _ := rfl
  add_fold _ _ := rfl

variable (φ : Folding) {s t s' t' : Text}

/-- Texts that are equal once folded. -/
def Same (s t : Text) : Prop :=
  s.map φ.fold = t.map φ.fold

lemma same_identity_iff : identity.Same s t ↔ s = t := by
  simp [Same, identity]

lemma dropEndWhile_map {p : Char → Bool} (hp : ∀ c, p (φ.fold c) = p c) (t : Text) :
    dropEndWhile p (t.map φ.fold) = (dropEndWhile p t).map φ.fold := by
  have hcomp : p ∘ φ.fold = p := funext hp
  simp only [dropEndWhile, ← List.map_reverse, List.dropWhile_map, hcomp]

lemma byteLength_map (t : Text) : byteLength (t.map φ.fold) = byteLength t := by
  induction t with
  | nil => rfl
  | cons c t ih => simp only [List.map_cons, byteLength_cons, φ.utf8Size_fold, ih]

lemma cells_map (t : Text) : cells (t.map φ.fold) = cells t := by
  have hcons (c : Char) (rest : Int × Follow) : consCells (φ.fold c) rest = consCells c rest := by
    rw [consCells, consCells, φ.add_fold]
  simp only [cells, List.foldr_map, hcons]

lemma contains_map (t : Text) : (t.map φ.fold).contains '\n' = t.contains '\n' := by
  rw [Bool.eq_iff_iff, List.contains_iff_mem, List.contains_iff_mem, List.mem_map]
  simp only [φ.fold_eq_feed, exists_eq_right]

/-- Lines are folded one by one. -/
lemma pieces_map (t : Text) : pieces '\n' (t.map φ.fold) = (pieces '\n' t).map (List.map φ.fold) := by
  induction t with
  | nil => rfl
  | cons c t ih =>
    rw [List.map_cons, pieces, pieces, ih]
    by_cases hc : c = '\n'
    · rw [if_pos hc, if_pos ((φ.fold_eq_feed c).2 hc), List.map_cons, List.map_nil]
    · rw [if_neg hc, if_neg (hc ∘ (φ.fold_eq_feed c).1)]
      cases pieces '\n' t with
      | nil => rfl
      | cons first others => rfl

variable {φ}

namespace Same

lemma refl (t : Text) : φ.Same t t := Eq.refl _

variable (h : φ.Same s t)

include h

lemma append (h' : φ.Same s' t') : φ.Same (s ++ s') (t ++ t') := by
  rw [Same, List.map_append, List.map_append, h, h']

lemma byteLength_eq : byteLength s = byteLength t := by
  rw [← φ.byteLength_map, h, φ.byteLength_map]

lemma width_eq : width s = width t := by
  rw [width, width, ← φ.cells_map, h, φ.cells_map]

lemma contains_eq : s.contains '\n' = t.contains '\n' := by
  rw [← φ.contains_map, h, φ.contains_map]

lemma isEmpty_eq : s.isEmpty = t.isEmpty := by
  have hlength := congrArg List.length h
  rw [List.length_map, List.length_map] at hlength
  rw [Bool.eq_iff_iff, List.isEmpty_iff_length_eq_zero, List.isEmpty_iff_length_eq_zero, hlength]

lemma dropEndWhile {p : Char → Bool} (hp : ∀ c, p (φ.fold c) = p c) :
    φ.Same (dropEndWhile p s) (dropEndWhile p t) := by
  rw [Same, ← φ.dropEndWhile_map hp, h, φ.dropEndWhile_map hp]

lemma trimEnd : φ.Same (trimEnd s) (trimEnd t) :=
  h.dropEndWhile φ.isBlank_fold

lemma pieces : List.Forall₂ φ.Same (pieces '\n' s) (pieces '\n' t) := by
  have hpieces := congrArg (Text.pieces '\n') h
  rw [φ.pieces_map, φ.pieces_map, ← List.forall₂_eq_eq_eq, List.forall₂_map_left_iff,
    List.forall₂_map_right_iff] at hpieces
  exact hpieces

/-- The lines that are written for texts, which are without the carriage returns at their ends. -/
lemma lines : List.Forall₂ φ.Same ((Text.pieces '\n' s).map (Text.dropEndWhile (· == '\r')))
    ((Text.pieces '\n' t).map (Text.dropEndWhile (· == '\r'))) := by
  have hreturn (c : Char) : (φ.fold c == '\r') = (c == '\r') := by
    rw [Bool.eq_iff_iff, beq_iff_eq, beq_iff_eq, φ.fold_eq_return]
  simp only [List.forall₂_map_left_iff, List.forall₂_map_right_iff]
  exact h.pieces.imp fun _ _ hline => hline.dropEndWhile hreturn

end Same

lemma same_join {lines₁ lines₂ : List Text} (h : List.Forall₂ φ.Same lines₁ lines₂) :
    φ.Same (join ['\n'] lines₁) (join ['\n'] lines₂) := by
  induction h with
  | nil => exact .refl _
  | @cons s t lines₁ lines₂ hline hlines ih =>
    cases hlines with
    | nil => exact hline
    | cons _ _ => exact (hline.append (.refl _)).append ih

end Folding
end SqlLayout.Text
