import SqlLayout.Proofs.Content
import SqlLayout.Proofs.Layout.Bounded
import SqlLayout.Proofs.Layout.Measured
import SqlLayout.Proofs.Token.Readback

/-!
# Letter case has no effect on the layout

Small and capital ASCII letters take the same place in a line, and in ASCII text a letter case changes
nothing else. So the layouts of a tree under two policies that set different letter cases run side by side,
and their texts are equal once in small letters.
-/

namespace SqlLayout

namespace Text

variable {t : Text}

/-! ### Small letters -/

lemma toLower_of_le {c : Char} (h : 128 ≤ c.toNat) : c.toLower = c := by
  have hcapital : ¬ (c.val ≥ 'A'.val ∧ c.val ≤ 'Z'.val) := by
    rintro ⟨-, hle⟩
    have hle : c.toNat ≤ 90 := UInt32.le_iff_toNat_le.1 hle
    omega
  exact dif_neg hcapital

/-- What holds of every character and itself and of every ASCII character holds of small letters. -/
lemma toLower_elim {p : Char → Char → Prop} (hself : ∀ c, p c c)
    (hascii : ∀ n : Fin 128, p (Char.ofNat n) (Char.ofNat n).toLower) (c : Char) : p c c.toLower := by
  rcases Nat.lt_or_ge c.toNat 128 with hc | hc
  · exact of_lt_128 (p := fun c => p c c.toLower) hascii hc
  · rw [toLower_of_le hc]
    exact hself c

/-- A character and its small letter take the same cells. -/
lemma add_toLower (c : Char) (next : Follow) : next.add c.toLower = next.add c := by
  have hsame : (c.toLower = '\n' ↔ c = '\n') ∧ (c.toLower = '\r' ↔ c = '\r')
      ∧ hasEmojiStyle c.toLower = hasEmojiStyle c ∧ (c.toLower = c ∨ c.toNat ≤ 0xA0 ∧ c.toLower.toNat ≤ 0xA0) :=
    toLower_elim (p := fun c d => (d = '\n' ↔ c = '\n') ∧ (d = '\r' ↔ c = '\r')
      ∧ hasEmojiStyle d = hasEmojiStyle c ∧ (d = c ∨ c.toNat ≤ 0xA0 ∧ d.toNat ≤ 0xA0))
      (fun c => ⟨Iff.rfl, Iff.rfl, rfl, .inl rfl⟩) (by decide +kernel) c
  obtain ⟨hfeed, hreturn, hstyle, hself | ⟨hle, hle'⟩⟩ := hsame
  · rw [hself]
  · simp only [Follow.add, hfeed, hreturn, hstyle, hle, hle', if_true]

/-- The folding to small ASCII letters. -/
def Folding.lower : Folding where
  fold := Char.toLower
  isBlank_fold := toLower_elim (p := fun c d => isBlank d = isBlank c) (fun _ => rfl) (by decide)
  fold_eq_feed := toLower_elim (p := fun c d => d = '\n' ↔ c = '\n') (fun _ => Iff.rfl) (by decide)
  fold_eq_return := toLower_elim (p := fun c d => d = '\r' ↔ c = '\r') (fun _ => Iff.rfl) (by decide)
  utf8Size_fold := toLower_elim (p := fun c d => d.utf8Size = c.utf8Size) (fun _ => rfl) (by decide)
  add_fold := add_toLower

/-! ### Letter cases of ASCII text -/

lemma lowerAfter_of_ascii (h : ∀ c ∈ t, c.toNat < 128) (before : Text) :
    lowerAfter before t = asciiLower t := by
  induction t generalizing before with
  | nil => rfl
  | cons c t ih =>
    have hc := h c List.mem_cons_self
    have hsigma : c ≠ 'Σ' := by
      rintro rfl
      exact absurd hc (by decide)
    rw [lowerAfter, ih fun d hd => h d (List.mem_cons_of_mem c hd), if_neg hsigma, lowerChar, if_pos hc]
    rfl

lemma asciiLower_asciiLower (t : Text) : asciiLower (asciiLower t) = asciiLower t := by
  rw [asciiLower, asciiLower, List.map_map]
  apply List.map_congr_left
  intro c _
  exact toLower_elim (p := fun c d => d.toLower = c.toLower) (fun _ => rfl) (by decide) c

/-- A letter case changes ASCII text in nothing but the case of its letters. -/
lemma asciiLower_letterCase (h : ∀ c ∈ t, c.toNat < 128) (letterCase : LetterCase) :
    asciiLower (letterCase.apply t) = asciiLower t := by
  cases letterCase with
  | unchanged => rfl
  | lower =>
    rw [LetterCase.apply, toLower, lowerAfter_of_ascii h, asciiLower_asciiLower]
  | upper => rw [LetterCase.apply, toUpper_of_ascii h, asciiLower_asciiUpper]
  | capitalize =>
    rw [LetterCase.apply]
    cases t with
    | nil => rfl
    | cons c t =>
      have htail : ∀ d ∈ t, d.toNat < 128 := fun d hd => h d (List.mem_cons_of_mem c hd)
      rw [capitalize, upperChar, if_pos (h c List.mem_cons_self), toLower, lowerAfter_of_ascii htail]
      show c.toUpper.toLower :: asciiLower (asciiLower t) = c.toLower :: asciiLower t
      rw [toLower_toUpper, asciiLower_asciiLower]

/-! ### Small letters of any text -/

lemma startsCased_asciiLower (t : Text) : startsCased (asciiLower t) = startsCased t := by
  have hignorable (c : Char) : inRanges caseIgnorableRanges c.toLower.toNat
      = inRanges caseIgnorableRanges c.toNat :=
    toLower_elim (p := fun c d => inRanges caseIgnorableRanges d.toNat
      = inRanges caseIgnorableRanges c.toNat) (fun _ => rfl) (by decide +kernel) c
  have hcased (c : Char) : inRanges casedRanges c.toLower.toNat = inRanges casedRanges c.toNat :=
    toLower_elim (p := fun c d => inRanges casedRanges d.toNat = inRanges casedRanges c.toNat)
      (fun _ => rfl) (by decide +kernel) c
  induction t with
  | nil => rfl
  | cons c t ih =>
    rw [startsCased, startsCased, asciiLower, List.map_cons, List.dropWhile_cons, List.dropWhile_cons,
      hignorable]
    cases inRanges caseIgnorableRanges c.toNat with
    | true => exact ih
    | false => exact hcased c

/-- Small ASCII letters have the same small letters in any text. -/
lemma toLower_asciiLower (t : Text) : toLower (asciiLower t) = toLower t := by
  have hsigma (c : Char) : c.toLower = 'Σ' ↔ c = 'Σ' :=
    toLower_elim (p := fun c d => d = 'Σ' ↔ c = 'Σ') (fun _ => Iff.rfl) (by decide) c
  have hchar (c : Char) : lowerChar c.toLower = lowerChar c :=
    toLower_elim (p := fun c d => lowerChar d = lowerChar c) (fun _ => rfl) (by decide +kernel) c
  have hafter (before t : Text) : lowerAfter (asciiLower before) (asciiLower t) = lowerAfter before t := by
    induction t generalizing before with
    | nil => rfl
    | cons c t ih =>
      have hrest : lowerAfter (c.toLower :: asciiLower before) (asciiLower t)
          = lowerAfter (c :: before) t := ih (c :: before)
      show lowerAfter (asciiLower before) (c.toLower :: asciiLower t) = _
      rw [lowerAfter, lowerAfter, hrest, startsCased_asciiLower, startsCased_asciiLower]
      simp only [hsigma, hchar]
  exact hafter [] t

end Text

/-! ### A tree under two policies -/

/-- The correspondence of each token with itself, with small letters for capital ones. -/
def Correspondence.lower : Correspondence :=
  { Text.Folding.lower with token := Eq }

variable {tree : Tree} {source : Text}

/-- Tokens of an ASCII source are ASCII text. -/
lemma TokenStream.toNat_lt_of_mem_text (h : ∀ c ∈ source, c.toNat < 128) (i : Nat) :
    ∀ c ∈ (ofText source).text i, c.toNat < 128 := by
  rcases Nat.lt_or_ge i (ofText source).lastIndex with hi | hi
  · exact fun c hc => h c (Lexeme.mem_of_mem_text (mem_scan_ofText hi) hc)
  · rw [(closed_ofText source).text_of_le i hi]
    exact nofun

/-- Which leaves a letter case is set for does not depend on the letter cases. -/
lemma Sheet.letterCase?_cased (tree : Tree) (p : Policy) (k : LetterCases) (role : LeafRole)
    (kind : TokenKind) (text : Text) :
    Option.Rel (fun _ _ => True) (Sheet.letterCase? ⟨tree, p⟩ role kind text)
      (Sheet.letterCase? ⟨tree, p.cased k⟩ role kind text) := by
  have hite (c : Prop) [Decidable c] (a b : LetterCase) :
      Option.Rel (fun _ _ => True) (if c then some a else none) (if c then some b else none) := by
    by_cases hc : c
    · rw [if_pos hc, if_pos hc]
      exact .some trivial
    · rw [if_neg hc, if_neg hc]
      exact .none
  unfold Sheet.letterCase?
  by_cases hfixed : (kind == .quotedIdent || kind.isLiteral) = true
  · rw [if_pos hfixed, if_pos hfixed]
    exact .none
  · rw [if_neg hfixed, if_neg hfixed]
    cases role with
    | keyword => exact .some trivial
    | function => exact hite _ _ _
    | dataType => exact hite _ _ _
    | _ => exact .none

lemma Sheet.same_leafText (hascii : ∀ c ∈ source, c.toNat < 128) (htokens : tree.tokens = .ofText source)
    (p : Policy) (k : LetterCases) (id : Nat) (role : LeafRole) :
    Correspondence.lower.Same (Sheet.leafText ⟨tree, p⟩ id role)
      (Sheet.leafText ⟨tree, p.cased k⟩ id role) := by
  have htext : ∀ c ∈ tree.leafText id, c.toNat < 128 := by
    rw [Tree.leafText, htokens]
    exact TokenStream.toNat_lt_of_mem_text hascii _
  have hcased (letterCase : LetterCase) :
      Text.asciiLower (letterCase.apply (tree.leafText id)) = Text.asciiLower (tree.leafText id) :=
    Text.asciiLower_letterCase htext letterCase
  unfold Sheet.leafText
  dsimp only
  obtain ⟨a, b, heq₁, heq₂, -⟩ | ⟨heq₁, heq₂⟩ := eq_or_eq_of_rel
    (Sheet.letterCase?_cased tree p k role (tree.tokenKind id) (tree.leafText id))
  · rw [heq₁, heq₂]
    exact (hcased a).trans (hcased b).symm
  · rw [heq₁, heq₂]
    exact .refl _

/-- The tree of an ASCII source is laid out alike under policies that set other letter cases. -/
lemma Tree.alike_cased (hascii : ∀ c ∈ source, c.toNat < 128) (hparse : Tree.parse source = .ok tree)
    (p : Policy) (k : LetterCases) : tree.Alike .lower p k tree where
  ordered := Tree.ordered_of_parse hparse
  size := rfl
  kind _ := rfl
  children _ := rfl
  first _ := rfl
  last _ := rfl
  token h := h ▸ rfl
  text h := h ▸ rfl
  parenLevel h := h ▸ rfl
  space h h' := h ▸ h' ▸ rfl
  labelClose h := h ▸ rfl
  startsLine _ _ := rfl
  endsLine _ _ := rfl
  leaf role _ := Sheet.same_leafText hascii (tokens_of_parse hparse) p k _ role
  error _ _ _ := .lines (.self (fun _ => rfl) _)

/--
An ASCII source that has a tree is formatted under policies that differ in letter cases only to texts that
are equal once their letters are small, or stops for the same fault under both.
-/
theorem format_toLower_eq_of_cased (hascii : ∀ c ∈ source, c.toNat < 128)
    (hparse : Tree.parse source = .ok tree) {p₁ p₂ : Policy}
    (hpolicies : p₂ = { p₁ with
      keywordCase := p₂.keywordCase, functionCase := p₂.functionCase, typeCase := p₂.typeCase }) :
    (∃ out₁ out₂, format p₁ source = .ok out₁ ∧ format p₂ source = .ok out₂
        ∧ Text.asciiLower out₁ = Text.asciiLower out₂ ∧ Text.toLower out₁ = Text.toLower out₂)
      ∧ ((∃ fault, formatBounded p₁ source = .error (.layout fault)
          ∧ formatBounded p₂ source = .error (.layout fault))
        ∨ ∃ out₁ out₂, formatBounded p₁ source = .ok out₁ ∧ formatBounded p₂ source = .ok out₂
          ∧ Text.asciiLower out₁ = Text.asciiLower out₂ ∧ Text.toLower out₁ = Text.toLower out₂) := by
  have halike := Tree.alike_cased hascii hparse p₁ p₂.letterCases
  have hroot := Tree.root_lt_of_parse hparse
  have hlower {out₁ out₂ : Text} (h : Correspondence.lower.Same out₁ out₂) :
      Text.asciiLower out₁ = Text.asciiLower out₂ ∧ Text.toLower out₁ = Text.toLower out₂ := by
    have hascii : Text.asciiLower out₁ = Text.asciiLower out₂ := h
    refine ⟨hascii, ?_⟩
    rw [← Text.toLower_asciiLower, hascii, Text.toLower_asciiLower]
  have hcased : p₂ = p₁.cased p₂.letterCases := hpolicies
  have hsame := same_formatTree halike rfl hroot
  have hbounded := agree_formatTreeBounded halike rfl hroot
  rw [← hcased] at hsame hbounded
  refine ⟨⟨formatTree p₁ tree, formatTree p₂ tree, ?_, ?_, hlower hsame⟩, ?_⟩
  · exact format_of_parse hparse
  · exact format_of_parse hparse
  · rw [formatBounded_of_parse hparse, formatBounded_of_parse hparse]
    obtain ⟨fault, h₁, h₂⟩ | ⟨out₁, out₂, h₁, h₂, hsame⟩ := hbounded
    · rw [h₁, h₂]
      exact .inl ⟨fault, rfl, rfl⟩
    · rw [h₁, h₂]
      exact .inr ⟨out₁, out₂, rfl, rfl, hlower hsame⟩

/-- A query with capital keywords and types, and with small ones. -/
theorem format_toLower_eq_of_query :
    ∃ tree, (∀ c ∈ "select cast(a as int), count(*) from T".toList, c.toNat < 128)
      ∧ Tree.parse "select cast(a as int), count(*) from T".toList = .ok tree
      ∧ ∃ out₁ out₂, format { keywordCase := .upper, typeCase := .upper }
          "select cast(a as int), count(*) from T".toList = .ok out₁
        ∧ format { keywordCase := .lower, functionCase := .capitalize }
          "select cast(a as int), count(*) from T".toList = .ok out₂
        ∧ Text.toLower out₁ = Text.toLower out₂ := by
  have hascii : ∀ c ∈ "select cast(a as int), count(*) from T".toList, c.toNat < 128 :=
    Text.forall_of_all (by decide +kernel)
  obtain ⟨tree, hparse, -⟩ := Tree.exists_of_any "select cast(a as int), count(*) from T".toList
    (fun _ => true) (by decide +kernel)
  obtain ⟨⟨out₁, out₂, hout₁, hout₂, -, hlower⟩, -⟩ := @format_toLower_eq_of_cased _ _ hascii hparse
    { keywordCase := .upper, typeCase := .upper }
    { keywordCase := .lower, functionCase := .capitalize } rfl
  exact ⟨tree, hascii, hparse, out₁, out₂, hout₁, hout₂, hlower⟩

end SqlLayout
