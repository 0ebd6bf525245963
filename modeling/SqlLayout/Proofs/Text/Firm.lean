import Mathlib.Data.List.Chain
import SqlLayout.Proofs.Text.Solid

/-!
# Firm and tidy texts

A firm text stands on one line and has no blanks at its ends; letter case keeps texts firm. A tidy text is
what may be written to a file: it starts with ink, none of its lines ends in a blank, and no two lines
without ink follow each other.
-/

namespace SqlLayout
namespace Text

/-- A text that starts with a character that is no blank. -/
def Opens (t : Text) : Prop :=
  ∃ c s, t = c :: s ∧ isBlank c = false

lemma Opens.ne_nil {t : Text} (h : Opens t) : t ≠ [] := by
  obtain ⟨c, s, rfl, -⟩ := h
  simp

lemma Opens.append {t : Text} (h : Opens t) (s : Text) : Opens (t ++ s) := by
  obtain ⟨c, u, rfl, hc⟩ := h
  exact ⟨c, u ++ s, rfl, hc⟩

lemma Inked.opens {t : Text} (h : Inked t) : Opens t := by
  obtain ⟨c, s, rfl⟩ := List.exists_cons_of_ne_nil h.1
  exact ⟨c, s, rfl, h.2 c (by simp)⟩

/-- Trimming the end of a text leaves its start, if it starts with ink. -/
lemma Opens.trimEnd {t : Text} (h : Opens t) : Opens (trimEnd t) ∧ Solid (trimEnd t) := by
  obtain ⟨c, s, rfl, hc⟩ := h
  have hcons : Text.trimEnd (c :: s) = c :: Text.trimEnd s := by
    rw [Text.trimEnd, dropEndWhile_cons, if_neg (by simp [hc])]
    rfl
  refine ⟨⟨c, Text.trimEnd s, hcons, hc⟩, (trimEnd_eq_nil_or_solid _).resolve_left ?_⟩
  simp [hcons]

lemma not_mem_trimEnd {t : Text} {c : Char} (h : c ∉ t) : c ∉ trimEnd t := by
  obtain ⟨dropped, heq, -⟩ := dropEndWhile_append isBlank t
  rw [heq, List.mem_append, not_or] at h
  exact h.1

/-! ### Firm texts -/

/-- A text on one line without blanks at its ends. -/
structure Firm (t : Text) : Prop where
  opens : Opens t
  solid : Solid t
  line : '\n' ∉ t

/-- Blanks have no letter case. -/
lemma case_blank : ∀ n ∈ blankCodes,
    upperChar (Char.ofNat n) = [Char.ofNat n] ∧ lowerChar (Char.ofNat n) = [Char.ofNat n] := by
  decide +kernel

lemma not_mem_upperChar {c : Char} (h : c ≠ '\n') : '\n' ∉ upperChar c := by
  cases hblank : isBlank c with
  | true =>
    have hcase := (case_blank _ (toNat_mem_blankCodes hblank)).1
    rw [Char.ofNat_toNat] at hcase
    simpa [hcase] using h.symm
  | false => exact fun hmem => absurd ((inked_upperChar hblank).2 _ hmem) (by decide)

lemma not_mem_lowerChar {c : Char} (h : c ≠ '\n') : '\n' ∉ lowerChar c := by
  cases hblank : isBlank c with
  | true =>
    have hcase := (case_blank _ (toNat_mem_blankCodes hblank)).2
    rw [Char.ofNat_toNat] at hcase
    simpa [hcase] using h.symm
  | false => exact fun hmem => absurd ((inked_lowerChar hblank).2 _ hmem) (by decide)

lemma not_mem_toUpper {t : Text} (h : '\n' ∉ t) : '\n' ∉ toUpper t := by
  intro hmem
  obtain ⟨c, hc, hmem⟩ := List.mem_flatMap.1 hmem
  exact not_mem_upperChar (fun heq => h (heq ▸ hc)) hmem

lemma not_mem_lowerAfter {t : Text} (before : Text) (h : '\n' ∉ t) : '\n' ∉ lowerAfter before t := by
  induction t generalizing before with
  | nil => simp [lowerAfter]
  | cons c rest ih =>
    rw [List.mem_cons, not_or] at h
    rw [lowerAfter, List.mem_append, not_or]
    refine ⟨?_, ih _ h.2⟩
    split
    · split <;> decide
    · exact not_mem_lowerChar (Ne.symm h.1)

lemma opens_lowerAfter {t : Text} (before : Text) (h : Opens t) : Opens (lowerAfter before t) := by
  obtain ⟨c, rest, rfl, hc⟩ := h
  rw [lowerAfter]
  refine Opens.append ?_ _
  split
  · split <;> exact ⟨_, [], rfl, by decide⟩
  · exact (inked_lowerChar hc).opens

/-- A letter case keeps a text firm. -/
lemma Firm.letterCase {t : Text} (h : Firm t) (letterCase : LetterCase) : Firm (letterCase.apply t) := by
  refine ⟨?_, h.solid.letterCase letterCase, ?_⟩
  · obtain ⟨c, rest, rfl, hc⟩ := h.opens
    cases letterCase with
    | unchanged => exact ⟨c, rest, rfl, hc⟩
    | lower => exact opens_lowerAfter [] ⟨c, rest, rfl, hc⟩
    | upper => exact (inked_upperChar hc).opens.append _
    | capitalize => exact (inked_upperChar hc).opens.append _
  · cases letterCase with
    | unchanged => exact h.line
    | lower => exact not_mem_lowerAfter [] h.line
    | upper => exact not_mem_toUpper h.line
    | capitalize =>
      obtain ⟨c, rest, rfl, -⟩ := h.opens
      have hline := h.line
      rw [List.mem_cons, not_or] at hline
      change '\n' ∉ upperChar c ++ lowerAfter [] rest
      rw [List.mem_append, not_or]
      exact ⟨not_mem_upperChar (Ne.symm hline.1), not_mem_lowerAfter [] hline.2⟩

/-! ### Tidy texts -/

lemma pieces_append {sep : Char} {line : Text} (h : sep ∉ line) (rest : Text) :
    pieces sep (line ++ sep :: rest) = line :: pieces sep rest := by
  induction line with
  | nil => simp [pieces]
  | cons c line ih =>
    rw [List.mem_cons, not_or] at h
    rw [List.cons_append, pieces, if_neg (Ne.symm h.1), ih h.2]

/-- The lines between line feeds are those that were joined with them. -/
lemma pieces_join {sep : Char} {lines : List Text} (hne : lines ≠ []) (h : ∀ line ∈ lines, sep ∉ line) :
    pieces sep (join [sep] lines) = lines := by
  induction lines with
  | nil => exact absurd rfl hne
  | cons line rest ih =>
    have hline := h line (by simp)
    cases rest with
    | nil => exact pieces_of_not_mem hline
    | cons next rest =>
      rw [join_cons _ _ (by simp), List.append_assoc, List.singleton_append, pieces_append hline,
        ih (by simp) fun l hl => h l (by simp [hl])]

/--
Lines, nearest first, as they may stand above another: the first of them starts with ink, none ends in a
blank, and no two without ink follow each other.
-/
inductive Stacked : List Text → Prop where
  | nil : Stacked []
  | line {line : Text} {lines : List Text} :
    Solid line → '\n' ∉ line → (lines = [] → Opens line) → Stacked lines → Stacked (line :: lines)
  | gap {line : Text} {lines : List Text} :
    line ≠ [] → Stacked (line :: lines) → Stacked ([] :: line :: lines)

lemma Stacked.tail {line : Text} {lines : List Text} (h : Stacked (line :: lines)) : Stacked lines := by
  cases h with
  | line _ _ _ h => exact h
  | gap _ h => exact h

lemma Stacked.not_mem {lines : List Text} (h : Stacked lines) : ∀ line ∈ lines, '\n' ∉ line := by
  induction h with
  | nil => simp
  | line _ hline _ _ ih => simpa using ⟨hline, ih⟩
  | gap _ _ ih => simpa using ih

/-- The first line of a stack goes on where another text ends. -/
lemma Stacked.join {first current : Text} {middle lines : List Text} (h : Stacked (middle ++ [first]))
    (hlines : Stacked lines) (hcurrent : '\n' ∉ current)
    (hopens : lines = [] → current = [] ∨ Opens current) :
    Stacked (middle ++ (current ++ first) :: lines) := by
  induction middle with
  | nil =>
    cases h with
    | line hsolid hline hfirst _ =>
      refine .line (hsolid.append _) (by simp [hcurrent, hline]) (fun hnil => ?_) hlines
      rcases hopens hnil with rfl | hcurrent
      · exact hfirst rfl
      · exact hcurrent.append _
  | cons line middle ih =>
    have h : Stacked (line :: (middle ++ [first])) := h
    have hrest := ih h.tail
    generalize hmiddle : middle ++ [first] = below at h
    cases h with
    | line hsolid hline _ _ => exact .line hsolid hline (by simp) hrest
    | gap hne hbelow =>
      cases middle with
      | nil =>
        obtain ⟨rfl, -⟩ := List.cons.inj hmiddle
        refine .gap ?_ hrest
        simp [hne]
      | cons next middle =>
        obtain ⟨rfl, -⟩ := List.cons.inj hmiddle
        exact .gap hne hrest

/--
A text that starts with ink, in which no line ends in a blank and no two lines without ink follow each
other, and that ends with ink, or with one line feed after it.
-/
structure Tidy (t : Text) (isEnded : Bool) : Prop where
  first : ∃ c, t.head? = some c ∧ isBlank c = false
  lines : ∀ line ∈ pieces '\n' t, ∀ c, line.getLast? = some c → isBlank c = false
  apart : (pieces '\n' t).IsChain fun line next => ¬(line.all isBlank = true ∧ next.all isBlank = true)
  ends : ∃ body c, t = body ++ [c] ++ (if isEnded then ['\n'] else []) ∧ isBlank c = false

lemma Solid.not_all {t : Text} (h : Solid t) : t.all isBlank = false := by
  obtain ⟨s, c, rfl, hc⟩ := h
  simp [hc]

lemma Stacked.solid {lines : List Text} (h : Stacked lines) :
    ∀ line ∈ lines, ∀ c, line.getLast? = some c → isBlank c = false := by
  induction h with
  | nil => simp
  | line hsolid _ _ _ ih =>
    obtain ⟨s, c, rfl, hc⟩ := hsolid
    simpa [hc] using ih
  | gap _ _ ih => simpa using ih

lemma Stacked.apart {lines : List Text} (h : Stacked lines) :
    lines.IsChain fun next line => ¬(line.all isBlank = true ∧ next.all isBlank = true) := by
  induction h with
  | nil => exact .nil
  | @line line lines hsolid _ _ _ ih =>
    cases lines with
    | nil => exact .singleton _
    | cons next lines => exact .cons_cons (by simp [hsolid.not_all]) ih
  | @gap line lines hne h ih =>
    refine .cons_cons ?_ ih
    cases h with
    | line hsolid _ _ _ => simp [hsolid.not_all]
    | gap => exact absurd rfl hne

lemma Stacked.opens {lines : List Text} (h : Stacked lines) : ∀ line, lines.getLast? = some line → Opens line := by
  induction h with
  | nil => simp
  | @line line lines _ _ hopens _ ih =>
    cases lines with
    | nil => simpa using hopens rfl
    | cons next lines => simpa using ih
  | gap _ _ ih => simpa using ih

lemma opens_join {sep line : Text} (h : Opens line) (lines : List Text) : Opens (Text.join sep (line :: lines)) := by
  cases lines with
  | nil => exact h
  | cons next lines =>
    rw [join_cons _ _ (by simp), List.append_assoc]
    exact h.append _

lemma solid_join {sep line : Text} (h : Solid line) (lines : List Text) :
    Solid (Text.join sep (lines ++ [line])) := by
  induction lines with
  | nil => exact h
  | cons next lines ih =>
    rw [List.cons_append, join_cons _ _ (by simp)]
    exact ih.append _

lemma join_append_nil (sep : Text) {lines : List Text} (h : lines ≠ []) :
    Text.join sep (lines ++ [[]]) = Text.join sep lines ++ sep := by
  induction lines with
  | nil => exact absurd rfl h
  | cons line lines ih =>
    rw [List.cons_append, join_cons _ _ (by simp)]
    cases lines with
    | nil => simp [Text.join]
    | cons next lines =>
      rw [ih (by simp), join_cons _ line (by simp)]
      simp only [List.append_assoc]

/-- A stack that ends with ink is a tidy text, with a line feed after it as well. -/
lemma Stacked.tidy {line : Text} {lines : List Text} (h : Stacked (line :: lines)) (hsolid : Solid line)
    (isEnded : Bool) :
    Tidy (Text.join ['\n'] (line :: lines).reverse ++ if isEnded then ['\n'] else []) isEnded := by
  -- The line feed at the end starts a line without text.
  have hjoin : Text.join ['\n'] (line :: lines).reverse ++ (if isEnded then ['\n'] else [])
      = Text.join ['\n'] ((line :: lines).reverse ++ if isEnded then [[]] else []) := by
    cases isEnded with
    | false => simp
    | true => exact (join_append_nil _ (by simp)).symm
  have hpieces : pieces '\n' (Text.join ['\n'] (line :: lines).reverse ++ if isEnded then ['\n'] else [])
      = (line :: lines).reverse ++ if isEnded then [[]] else [] := by
    rw [hjoin, pieces_join (by simp)]
    intro piece hpiece
    rcases List.mem_append.1 hpiece with hpiece | hpiece
    · exact h.not_mem piece (List.mem_reverse.1 hpiece)
    · cases isEnded <;> simp_all
  constructor
  case first =>
    obtain ⟨first, rest, heq⟩ := List.exists_cons_of_ne_nil (show (line :: lines).reverse ≠ [] by simp)
    have hfirst : (line :: lines).getLast? = some first := by rw [← List.head?_reverse, heq]; rfl
    obtain ⟨c, s, hc, hblank⟩ := opens_join (h.opens _ hfirst) rest
    rw [heq, hc]
    exact ⟨c, rfl, hblank⟩
  case lines =>
    rw [hpieces]
    intro piece hpiece
    rcases List.mem_append.1 hpiece with hpiece | hpiece
    · exact h.solid piece (List.mem_reverse.1 hpiece)
    · cases isEnded <;> simp_all
  case apart =>
    rw [hpieces, List.isChain_append]
    refine ⟨List.isChain_reverse.2 h.apart, by cases isEnded <;> simp, fun last hlast => ?_⟩
    obtain rfl : line = last := by simpa using hlast
    simp [hsolid.not_all]
  case ends =>
    obtain ⟨body, c, heq, hc⟩ := solid_join hsolid lines.reverse
    rw [List.reverse_cons, heq]
    exact ⟨body, c, rfl, hc⟩

end Text
end SqlLayout
