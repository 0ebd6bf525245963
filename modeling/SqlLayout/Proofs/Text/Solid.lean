import Mathlib.Data.List.DropRight
import Mathlib.Tactic.Common
import SqlLayout.Policy.Basic
import SqlLayout.Text.Letter

/-!
# Solid texts

A solid text ends in a character that is no blank, so trimming leaves it alone. Letter case keeps texts
solid, and so does dropping the carriage returns before line feeds, which is what writing a text line by
line amounts to.
-/

namespace SqlLayout
namespace Text

/-- What is true of each character of a text, by looking at one after the other and not at all there are. -/
lemma forall_of_all {p : Char → Prop} [DecidablePred p] {t : Text} (h : t.all (fun c => decide (p c)) = true) :
    ∀ c ∈ t, p c := by
  simpa using h

/-- A text that ends in a character that is no blank. -/
def Solid (t : Text) : Prop :=
  ∃ s c, t = s ++ [c] ∧ isBlank c = false

lemma Solid.append (s : Text) {t : Text} (h : Solid t) : Solid (s ++ t) := by
  obtain ⟨u, c, rfl, hc⟩ := h
  exact ⟨s ++ u, c, by simp, hc⟩

lemma solid_singleton {c : Char} (h : isBlank c = false) : Solid [c] :=
  ⟨[], c, rfl, h⟩

lemma solid_of_forall {t : Text} (hne : t ≠ []) (h : ∀ c ∈ t, isBlank c = false) : Solid t :=
  ⟨t.dropLast, t.getLast hne, (List.dropLast_append_getLast hne).symm, h _ (List.getLast_mem hne)⟩

lemma Solid.ne_nil {t : Text} (h : Solid t) : t ≠ [] := by
  obtain ⟨s, c, rfl, -⟩ := h
  simp

lemma Solid.getLast {t : Text} (h : Solid t) {s : Text} {c : Char} (heq : t = s ++ [c]) :
    isBlank c = false := by
  obtain ⟨s', c', rfl, hc⟩ := h
  obtain ⟨-, hlast⟩ := List.append_inj' heq rfl
  obtain rfl : c' = c := by simpa using hlast
  exact hc

/-- What is left of a solid text after its first character, if anything is, is solid. -/
lemma Solid.tail {c d : Char} {t : Text} (h : Solid (c :: d :: t)) : Solid (d :: t) := by
  obtain ⟨s, e, heq, he⟩ := h
  cases s with
  | nil => simp at heq
  | cons b s =>
    obtain ⟨-, heq⟩ := List.cons.inj heq
    exact ⟨s, e, heq, he⟩

/-! ### Trimming -/

lemma dropEndWhile_append (p : Char → Bool) (t : Text) :
    ∃ dropped, t = dropEndWhile p t ++ dropped ∧ ∀ c ∈ dropped, p c = true :=
  ⟨t.rtakeWhile p, List.rdropWhile_append_rtakeWhile.symm, fun _ => List.mem_rtakeWhile_imp⟩

lemma dropEndWhile_cons (p : Char → Bool) (c : Char) (t : Text) :
    dropEndWhile p (c :: t)
      = if dropEndWhile p t = [] ∧ p c = true then [] else c :: dropEndWhile p t := by
  rw [dropEndWhile, dropEndWhile, List.reverse_cons, List.dropWhile_append]
  by_cases h : t.reverse.dropWhile p = []
  · cases hc : p c <;> simp only [h, hc, List.dropWhile] <;> simp
  · simp [h]

/-- A trimmed text is empty or solid. -/
lemma trimEnd_eq_nil_or_solid (t : Text) : trimEnd t = [] ∨ Solid (trimEnd t) := by
  by_cases h : trimEnd t = []
  · exact .inl h
  · refine .inr ⟨(trimEnd t).dropLast, (trimEnd t).getLast h, (List.dropLast_append_getLast h).symm, ?_⟩
    exact Bool.eq_false_iff.2 (List.rdropWhile_last_not isBlank t h)

/-! ### Letter case -/

/-- The code points of blanks. -/
def blankCodes : List Nat :=
  List.range' 9 5 ++ [0x20, 0x85, 0xA0, 0x1680] ++ List.range' 0x2000 11
    ++ [0x2028, 0x2029, 0x202F, 0x205F, 0x3000]

lemma toNat_mem_blankCodes {c : Char} (h : isBlank c = true) : c.toNat ∈ blankCodes := by
  simp only [isBlank, Bool.or_eq_true, Bool.and_eq_true, decide_eq_true_eq, beq_iff_eq] at h
  simp only [blankCodes, List.mem_append, List.mem_range'_1, List.mem_cons]
  omega

/-- A property that no blank has. -/
lemma not_isBlank_of {p : Char → Bool} (hp : ∀ n ∈ blankCodes, p (Char.ofNat n) = false) {c : Char}
    (h : p c = true) : isBlank c = false := by
  rw [Bool.eq_false_iff]
  intro hblank
  have hfalse := hp _ (toNat_mem_blankCodes hblank)
  rw [Char.ofNat_toNat, h] at hfalse
  exact absurd hfalse (by simp)

lemma not_isBlank_ofNat {n : Nat} (h : n ∉ blankCodes) : isBlank (Char.ofNat n) = false := by
  rw [Bool.eq_false_iff]
  intro hblank
  have hmem := toNat_mem_blankCodes hblank
  by_cases hvalid : n.isValidChar
  · rw [Char.ofNat, dif_pos hvalid] at hmem
    exact h hmem
  · rw [Char.ofNat, dif_neg hvalid] at hmem
    exact absurd hmem (by decide)

/-- The code points between two blanks, from the first to the last one. -/
def gaps : List (Nat × Nat) :=
  [(0x21, 0x84), (0x86, 0x9F), (0xA1, 0x167F), (0x1681, 0x1FFF), (0x200B, 0x2027), (0x202A, 0x202E),
    (0x2030, 0x205E), (0x2060, 0x2FFF), (0x3001, 0x10FFFF)]

/-- Whether the code points from `low` to `high` lie between two blanks. -/
def avoidsBlanks (low high : Nat) : Bool :=
  gaps.any fun gap => gap.1.ble low && high.ble gap.2

lemma not_mem_blankCodes {low high n : Nat} (h : avoidsBlanks low high = true) (hlow : low ≤ n)
    (hhigh : n ≤ high) : n ∉ blankCodes := by
  intro hmem
  obtain ⟨gap, hgap, hwithin⟩ := List.any_eq_true.1 h
  rw [Bool.and_eq_true, Nat.ble_eq, Nat.ble_eq] at hwithin
  have hbetween : ∀ b ∈ blankCodes, ∀ gap ∈ gaps, b < gap.1 ∨ gap.2 < b := by decide
  have := hbetween n hmem gap hgap
  omega

/-- Whether no character of a table of ranges is a blank. -/
def rangesAvoidBlanks : List Nat → Bool
  | low :: past :: rest => avoidsBlanks low (past - 1) && rangesAvoidBlanks rest
  | [_] => false
  | [] => true

lemma not_mem_blankCodes_of_inRanges {ranges : List Nat} (h : rangesAvoidBlanks ranges = true) {n : Nat}
    (hn : inRanges ranges n = true) : n ∉ blankCodes := by
  fun_induction inRanges ranges n with
  | case1 => exact absurd hn (by simp)
  | case2 low past rest n hlow hpast =>
    rw [rangesAvoidBlanks, Bool.and_eq_true] at h
    exact not_mem_blankCodes h.1 (by omega) (by omega)
  | case3 low past rest n hlow hpast ih =>
    rw [rangesAvoidBlanks, Bool.and_eq_true] at h
    exact ih h.2 hn
  | case4 => exact absurd h (by simp [rangesAvoidBlanks])
  | case5 => exact absurd hn (by simp)

lemma not_isBlank_of_isAlphanumeric {c : Char} (h : isAlphanumeric c = true) : isBlank c = false := by
  have htables : rangesAvoidBlanks alphabeticRanges = true ∧ rangesAvoidBlanks numericRanges = true := by
    decide +kernel
  rw [Bool.eq_false_iff]
  intro hblank
  have hmem := toNat_mem_blankCodes hblank
  rw [isAlphanumeric, Bool.or_eq_true] at h
  rcases h with h | h
  · exact not_mem_blankCodes_of_inRanges htables.1 h hmem
  · exact not_mem_blankCodes_of_inRanges htables.2 h hmem

/-- Whether a table of shifts and one of expansions lead to characters that are no blanks. -/
def casesAvoidBlanks (expansions : List (Nat × List Nat)) (rows : List CaseRange) : Bool :=
  (expansions.all fun (_, codes) => !codes.isEmpty && codes.all fun b => avoidsBlanks b b)
    && rows.all fun r => avoidsBlanks r.image (r.image + (r.last - r.first))

lemma casesAvoidBlanks_tables : casesAvoidBlanks upperExpansions upperRows = true
    ∧ casesAvoidBlanks lowerExpansions lowerRows = true := by
  decide +kernel

/-- A text that holds something, but no blanks. -/
def Inked (t : Text) : Prop :=
  t ≠ [] ∧ ∀ c ∈ t, isBlank c = false

lemma Inked.solid {t : Text} (h : Inked t) : Solid t :=
  solid_of_forall h.1 h.2

lemma inked_singleton {c : Char} (h : isBlank c = false) : Inked [c] :=
  ⟨by simp, by simpa using h⟩

lemma inked_mapCase {expansions : List (Nat × List Nat)} {rows : List CaseRange}
    (hcases : casesAvoidBlanks expansions rows = true) {c : Char} (h : isBlank c = false) :
    Inked (mapCase expansions rows c) := by
  rw [casesAvoidBlanks, Bool.and_eq_true] at hcases
  unfold mapCase
  split
  · next codes hlookup =>
    obtain ⟨before, after, htable, -⟩ := List.lookup_eq_some_iff.1 hlookup
    have hcodes := List.all_eq_true.1 hcases.1 (c.toNat, codes) (by simp [htable])
    rw [Bool.and_eq_true, List.all_eq_true] at hcodes
    refine ⟨by simpa using hcodes.1, fun d hd => ?_⟩
    obtain ⟨b, hb, rfl⟩ := List.mem_map.1 hd
    exact not_isBlank_ofNat (not_mem_blankCodes (hcodes.2 b hb) (Nat.le_refl b) (Nat.le_refl b))
  · split
    · next r hfind =>
      have hrow := List.all_eq_true.1 hcases.2 r (List.mem_of_find?_eq_some hfind)
      have hcontains := List.find?_some hfind
      simp only [CaseRange.contains, Bool.and_eq_true, decide_eq_true_eq] at hcontains
      exact inked_singleton (not_isBlank_ofNat (not_mem_blankCodes hrow (by omega) (by omega)))
    · exact inked_singleton h

/-- The case of an ASCII character that is no blank is none either. -/
lemma not_isBlank_ascii : ∀ n < 0x80, isBlank (Char.ofNat n) = false →
    isBlank (Char.ofNat n).toUpper = false ∧ isBlank (Char.ofNat n).toLower = false := by
  decide +kernel

lemma inked_upperChar {c : Char} (h : isBlank c = false) : Inked (upperChar c) := by
  unfold upperChar
  split
  · next hlt =>
    have hascii := not_isBlank_ascii c.toNat hlt
    rw [Char.ofNat_toNat] at hascii
    exact inked_singleton (hascii h).1
  · exact inked_mapCase casesAvoidBlanks_tables.1 h

lemma inked_lowerChar {c : Char} (h : isBlank c = false) : Inked (lowerChar c) := by
  unfold lowerChar
  split
  · next hlt =>
    have hascii := not_isBlank_ascii c.toNat hlt
    rw [Char.ofNat_toNat] at hascii
    exact inked_singleton (hascii h).2
  · exact inked_mapCase casesAvoidBlanks_tables.2 h

lemma Solid.toUpper {t : Text} (h : Solid t) : Solid (toUpper t) := by
  obtain ⟨s, c, rfl, hc⟩ := h
  rw [Text.toUpper, List.flatMap_append]
  exact .append _ (by simpa using (inked_upperChar hc).solid)

lemma Solid.lowerAfter {t : Text} (before : Text) (h : Solid t) : Solid (lowerAfter before t) := by
  induction t generalizing before with
  | nil => exact absurd rfl h.ne_nil
  | cons c rest ih =>
    rw [Text.lowerAfter]
    cases rest with
    | cons d rest => exact .append _ (ih _ h.tail)
    | nil =>
      have hc : isBlank c = false := h.getLast (s := []) rfl
      rw [Text.lowerAfter, List.append_nil]
      split
      · split <;> exact solid_singleton (by decide)
      · exact (inked_lowerChar hc).solid

lemma Solid.capitalize {t : Text} (h : Solid t) : Solid (capitalize t) := by
  cases t with
  | nil => exact absurd rfl h.ne_nil
  | cons c rest =>
    cases rest with
    | cons d rest => exact .append _ (h.tail.lowerAfter [])
    | nil =>
      have hc : isBlank c = false := h.getLast (s := []) rfl
      simpa [Text.capitalize, toLower, Text.lowerAfter] using (inked_upperChar hc).solid

/-- A letter case keeps a text solid. -/
lemma Solid.letterCase {t : Text} (h : Solid t) (letterCase : LetterCase) : Solid (letterCase.apply t) := by
  cases letterCase with
  | unchanged => exact h
  | lower => exact h.lowerAfter []
  | upper => exact h.toUpper
  | capitalize => exact h.capitalize

/-! ### Carriage returns -/

/-- A text without the carriage returns that stand before a line feed. -/
def withoutReturns : Text → Text
  | [] => []
  | c :: rest =>
    let rest := withoutReturns rest
    if c = '\r' ∧ rest.head? = some '\n' then rest else c :: rest

lemma Solid.withoutReturns {t : Text} (h : Solid t) : Solid (withoutReturns t) := by
  induction t with
  | nil => exact absurd rfl h.ne_nil
  | cons c rest ih =>
    rw [Text.withoutReturns]
    cases rest with
    | nil => simpa [Text.withoutReturns] using h
    | cons d rest =>
      split
      · exact ih h.tail
      · exact (ih h.tail).append [c]

lemma withoutReturns_of_not_mem {t : Text} (h : '\n' ∉ t) : withoutReturns t = t := by
  induction t with
  | nil => rfl
  | cons c rest ih =>
    have hrest : '\n' ∉ rest := fun hmem => h (List.mem_cons_of_mem c hmem)
    rw [withoutReturns, ih hrest, if_neg]
    rintro ⟨-, hhead⟩
    exact hrest (List.mem_of_head? hhead)

lemma not_mem_of_mem_pieces {sep : Char} {t piece : Text} (h : piece ∈ pieces sep t) : sep ∉ piece := by
  induction t generalizing piece with
  | nil => simp_all [pieces]
  | cons c rest ih =>
    rw [pieces] at h
    split at h
    · rcases List.mem_cons.1 h with rfl | h
      · simp
      · exact ih h
    · next hc =>
      split at h
      · obtain rfl := List.mem_singleton.1 h
        simpa using Ne.symm hc
      · next first others hpieces =>
        rcases List.mem_cons.1 h with rfl | h
        · have hfirst : sep ∉ first := ih (by simp [hpieces])
          simp [Ne.symm hc, hfirst]
        · exact ih (by simp [hpieces, h])

/-- The lines of a text, each without the carriage returns at its end. -/
def linesOf (t : Text) : List Text :=
  (pieces '\n' t).map (dropEndWhile (· == '\r'))

lemma pieces_of_not_mem {sep : Char} {t : Text} (h : sep ∉ t) : pieces sep t = [t] := by
  induction t with
  | nil => rfl
  | cons c rest ih =>
    rw [List.mem_cons, not_or] at h
    rw [pieces, if_neg (Ne.symm h.1), ih h.2]

lemma Solid.dropEndWhile {t : Text} (h : Solid t) {p : Char → Bool}
    (hp : ∀ c, p c = true → isBlank c = true) : dropEndWhile p t = t := by
  obtain ⟨s, c, rfl, hc⟩ := h
  have hlast : p c = false := by
    by_contra hpc
    rw [hp c (by simpa using hpc)] at hc
    exact absurd hc nofun
  simp [Text.dropEndWhile, hlast]

lemma Solid.trimEnd {t : Text} (h : Solid t) : trimEnd t = t :=
  h.dropEndWhile fun _ hc => hc

/-- A solid text without line feeds is one line. -/
lemma Solid.linesOf {t : Text} (h : Solid t) (hline : '\n' ∉ t) : linesOf t = [t] := by
  rw [Text.linesOf, pieces_of_not_mem hline, List.map_singleton, h.dropEndWhile]
  intro c hc
  rw [beq_iff_eq.1 hc]
  decide

lemma join_cons_append (sep : Text) (c : Char) (t : Text) (rest : List Text) :
    join sep ((c :: t) :: rest) = c :: join sep (t :: rest) := by
  cases rest <;> rfl

lemma Solid.exists_not_return {t : Text} (h : Solid t) : ∃ c ∈ t, (c == '\r') = false := by
  obtain ⟨s, c, rfl, hc⟩ := h
  refine ⟨c, by simp, beq_eq_false_iff_ne.2 ?_⟩
  rintro rfl
  exact absurd hc (by decide)

/-- A line of returns alone is not the last line of a solid text. -/
lemma next_line_of_returns {t first : Text} {others : List Text} (h : Solid t)
    (hpieces : pieces '\n' t = first :: others) (hfirst : dropEndWhile (· == '\r') first = []) :
    others ≠ [] := by
  rintro rfl
  obtain ⟨dropped, hdropped, hreturns⟩ := dropEndWhile_append (· == '\r') first
  have ht : t = dropped := by
    rw [← join_pieces '\n' t, hpieces, hdropped, hfirst]
    rfl
  obtain ⟨c, hc, hne⟩ := h.exists_not_return
  rw [hreturns c (ht ▸ hc)] at hne
  exact absurd hne (by simp)

/-- No line feed is left in a line. -/
lemma ne_feed_of_line {t first left : Text} {others : List Text} {c : Char}
    (hpieces : pieces '\n' t = first :: others) (hfirst : dropEndWhile (· == '\r') first = c :: left) :
    c ≠ '\n' := by
  rintro rfl
  obtain ⟨dropped, hdropped, -⟩ := dropEndWhile_append (· == '\r') first
  have hmem : first ∈ pieces '\n' t := by simp [hpieces]
  refine not_mem_of_mem_pieces hmem ?_
  rw [hdropped, hfirst]
  simp

/-- Writing a solid text line by line drops the carriage returns before line feeds. -/
lemma join_linesOf {t : Text} (h : Solid t) : join ['\n'] (linesOf t) = withoutReturns t := by
  induction t with
  | nil => exact absurd rfl h.ne_nil
  | cons c rest ih =>
    rw [withoutReturns]
    cases rest with
    | nil =>
      have hc : isBlank c = false := h.getLast (s := []) rfl
      have hfeed : c ≠ '\n' := by rintro rfl; exact absurd hc (by decide)
      have hreturn : c ≠ '\r' := by rintro rfl; exact absurd hc (by decide)
      simp [linesOf, pieces, hfeed, withoutReturns, dropEndWhile, join, hreturn]
    | cons d rest =>
      have hrest := h.tail
      replace ih := ih hrest
      generalize d :: rest = rest at hrest ih
      obtain ⟨first, others, hpieces⟩ := List.exists_cons_of_ne_nil (pieces_ne_nil '\n' rest)
      rw [linesOf, hpieces, List.map_cons] at ih
      rw [linesOf, pieces, hpieces]
      by_cases hc : c = '\n'
      · subst hc
        rw [if_pos rfl, List.map_cons, join_cons _ _ (by simp), List.map_cons, ih]
        rfl
      rw [if_neg hc, List.map_cons, dropEndWhile_cons]
      by_cases hdrop : dropEndWhile (· == '\r') first = [] ∧ (c == '\r') = true
      · -- The returns up to and including this one stand before a line feed, as the text is solid.
        rw [hdrop.1] at ih
        have hhead : (withoutReturns rest).head? = some '\n' := by
          obtain ⟨next, others, rfl⟩ :=
            List.exists_cons_of_ne_nil (next_line_of_returns hrest hpieces hdrop.1)
          rw [← ih]
          rfl
        rw [if_pos hdrop, ih, if_pos ⟨by simpa using hdrop.2, hhead⟩]
      · rw [if_neg hdrop, join_cons_append, ih, if_neg]
        rintro ⟨rfl, hhead⟩
        rw [← ih] at hhead
        cases hfirst : dropEndWhile (· == '\r') first with
        | nil => exact hdrop ⟨hfirst, rfl⟩
        | cons e left =>
          rw [hfirst, join_cons_append] at hhead
          exact ne_feed_of_line hpieces hfirst (by simpa using hhead)

end Text
end SqlLayout
