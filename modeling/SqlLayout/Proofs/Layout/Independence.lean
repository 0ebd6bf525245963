import SqlLayout.Proofs.Layout.RelatedEngine
import SqlLayout.Proofs.Tree.Alike

/-!
# The layout of a source has no effect on its formatted text

Spaces between tokens depend on words only. So trees of the same shape over streams that agree in their
words are alike, and have the same formatted text. Two sources without comments that have the same words,
and whitespace before the same opening brackets, are formatted to the same text, provided that one of
them has no errors.
-/

namespace SqlLayout

namespace TokenStream

variable {ts ts₁ ts₂ : TokenStream} {i j i' j' : Nat}

/-! ### Spaces between words -/

namespace Alike

variable (h : Alike ts₁ ts₂) (hij : Same ts₁ ts₂ i j)

include h hij

lemma isUnary_eq : ts₁.isUnary i = ts₂.isUnary j := by
  have hprev : (ts₁.prevSignificant i).all (fun i => expectsOperand (ts₁.kind i))
      = (ts₂.prevSignificant j).all (fun j => expectsOperand (ts₂.kind j)) := by
    obtain ⟨i', j', heq₁, heq₂, hsame⟩ | ⟨heq₁, heq₂⟩ := eq_or_eq_of_rel (h.prev_rel hij)
    · rw [heq₁, heq₂, Option.all_some, Option.all_some, h.kind_eq hsame]
    · rw [heq₁, heq₂, Option.all_none, Option.all_none]
  rw [isUnary, isUnary, h.text_eq hij, hprev]

lemma isTypeReference_eq : ts₁.isTypeReference i = ts₂.isTypeReference j := by
  simp only [isTypeReference, h.kind_eq hij.next, h.text_eq hij.next]

lemma isLabelOpen_eq : ts₁.isLabelOpen i = ts₂.isLabelOpen j := by
  simp only [isLabelOpen, h.text_eq hij, h.kind_eq hij.next, h.kind_eq hij.next.next,
    h.text_eq hij.next.next]

lemma isLabelClose_eq : ts₁.isLabelClose i = ts₂.isLabelClose j := by
  have hopen : ((ts₁.prevSignificant i).bind ts₁.prevSignificant).any ts₁.isLabelOpen
      = ((ts₂.prevSignificant j).bind ts₂.prevSignificant).any ts₂.isLabelOpen := by
    obtain ⟨i', j', heq₁, heq₂, hsame⟩ | ⟨heq₁, heq₂⟩ := eq_or_eq_of_rel (h.prev_rel hij)
    · rw [heq₁, heq₂]
      exact any_eq_of_rel (h.prev_rel hsame) fun _ _ => h.isLabelOpen_eq
    · rw [heq₁, heq₂]
      rfl
  rw [isLabelClose, isLabelClose, h.text_eq hij, hopen]

lemma spaceBetween_eq (hij' : Same ts₁ ts₂ i' j') : ts₁.spaceBetween i i' = ts₂.spaceBetween j j' := by
  simp only [spaceBetween, operatorHugsNext, operatorHugsPrevious, isModifiedType, h.kind_eq hij,
    h.text_eq hij, h.isUnary_eq hij, h.isTypeReference_eq hij, h.isLabelOpen_eq hij, h.kind_eq hij',
    h.text_eq hij', h.isTypeReference_eq hij', h.isLabelClose_eq hij']

end Alike
end TokenStream

/-! ### Trees of the same shape -/

/-- The correspondence of tokens in the same place of two streams, with equal characters. -/
def TokenStream.correspondence (ts₁ ts₂ : TokenStream) : Correspondence :=
  { Text.Folding.identity with token := Same ts₁ ts₂ }

/-- Trees of the same shape are alike, as comments and errors, which show where tokens stand, are absent. -/
lemma Tree.SameShape.alike {t₁ t₂ : Tree} (h : SameShape t₁ t₂) (hfaithful : t₁.Faithful) (p : Policy) :
    t₁.Alike (t₁.tokens.correspondence t₂.tokens) p p.letterCases t₂ := by
  have hcomment {id : Nat} (hid : id < t₁.size) : t₁.kind id ≠ .comment := by
    intro hkind
    have hcomment := (hfaithful.comment hid hkind).2
    rw [h.tokens.bare₁] at hcomment
    exact absurd hcomment nofun
  have herror {id index : Nat} (hid : id < t₁.size) : t₁.kind id ≠ .error index := by
    intro hkind
    have hconstruct := hfaithful.construct hid (by rw [hkind]; rfl)
    rw [hkind] at hconstruct
    exact absurd hconstruct (by simp [Grammar.Item.isConstruct])
  have hleaf {id : Nat} (role : LeafRole) (hid : id < t₁.size) :
      Sheet.leafText ⟨t₁, p⟩ id role = Sheet.leafText ⟨t₂, p.cased p.letterCases⟩ id role := by
    have hfirst := (h.ends hid).1
    simp only [Sheet.leafText, Sheet.letterCase?, Tree.tokenKind, Tree.leafText, h.tokens.kind_eq hfirst,
      h.tokens.text_eq hfirst]
    rfl
  exact
    { ordered := hfaithful.ordered
      size := h.size
      kind := h.kind
      children := h.children
      first := fun hid => (h.ends hid).1
      last := fun hid => (h.ends hid).2
      token := h.tokens.kind_eq
      text := h.tokens.text_eq
      parenLevel := h.tokens.parenLevel_eq
      space := h.tokens.spaceBetween_eq
      labelClose := h.tokens.isLabelClose_eq
      startsLine := fun hid hkind => absurd hkind (hcomment hid)
      endsLine := fun hid hkind => absurd hkind (hcomment hid)
      leaf := fun role hid => Text.Folding.same_identity_iff.2 (hleaf role hid)
      error := fun hid hkind => absurd hkind (herror hid) }

/-! ### Sources with the same words -/

/--
Sources without comments that agree in the kinds and texts of their words, and in whether whitespace
precedes each opening bracket, are formatted to the same text under every policy, if one has a tree
without errors; then the other has one too. If the columns of one get out of bounds, so do those of the
other.
-/
theorem format_eq_of_words_eq {source₁ source₂ : Text} {tree₁ : Tree}
    (hbare₁ : ∀ token ∈ (TokenStream.ofText source₁).tokens, token.kind.isComment = false)
    (hbare₂ : ∀ token ∈ (TokenStream.ofText source₂).tokens, token.kind.isComment = false)
    (hwords : (TokenStream.ofText source₁).words = (TokenStream.ofText source₂).words)
    (hparse : Tree.parse source₁ = .ok tree₁) (herrors : tree₁.errors.isEmpty = true) :
    ∃ tree₂, Tree.parse source₂ = .ok tree₂ ∧ tree₂.errors.isEmpty = true
      ∧ ∀ policy, (∃ out, format policy source₁ = .ok out ∧ format policy source₂ = .ok out)
        ∧ formatBounded policy source₁ = formatBounded policy source₂ := by
  have halike := TokenStream.alike_of_words (fun i => hbare₁ _ (TokenStream.get_mem_tokens _ i))
    (fun i => hbare₂ _ (TokenStream.get_mem_tokens _ i)) hwords
  obtain ⟨-, hfaithful⟩ := Tree.faithful_of_parse hparse herrors
  obtain ⟨tree₂, hparse₂, herrors₂, hshape⟩ := Tree.sameShape_of_parse halike hparse herrors
  refine ⟨tree₂, hparse₂, herrors₂, fun policy => ?_⟩
  have htrees := hshape.alike hfaithful policy
  constructor
  · have hsame := same_formatTree htrees hshape.root hfaithful.root_lt
    refine ⟨formatTree policy tree₁, ?_, ?_⟩
    · rw [format, hparse]
      rfl
    · rw [format, hparse₂, Text.Folding.same_identity_iff.1 hsame]
      rfl
  · have hbounded : formatTreeBounded policy tree₁ = formatTreeBounded policy tree₂ := by
      obtain ⟨fault, h₁, h₂⟩ | ⟨out₁, out₂, h₁, h₂, hsame⟩ :=
        agree_formatTreeBounded htrees hshape.root hfaithful.root_lt
      · exact h₁.trans h₂.symm
      · rw [h₁, Text.Folding.same_identity_iff.1 hsame]
        exact h₂.symm
    rw [formatBounded, formatBounded, hparse, hparse₂]
    exact congrArg (Except.mapError FormatFault.layout) hbounded

/-- A query on one line and the same query over several lines. -/
theorem format_eq_of_query_layouts :
    ∃ tree, Tree.parse "select  count(*),\n\n -a\nfrom t\n".toList = .ok tree
      ∧ tree.errors.isEmpty = true
      ∧ ∀ policy, (∃ out, format policy "select count(*), - a from t".toList = .ok out
          ∧ format policy "select  count(*),\n\n -a\nfrom t\n".toList = .ok out)
        ∧ formatBounded policy "select count(*), - a from t".toList
          = formatBounded policy "select  count(*),\n\n -a\nfrom t\n".toList := by
  obtain ⟨tree, hparse, herrors⟩ := Tree.exists_of_any "select count(*), - a from t".toList
    (fun tree => tree.errors.isEmpty) (by decide +kernel)
  exact format_eq_of_words_eq (by decide +kernel) (by decide +kernel) (by decide +kernel) hparse herrors

end SqlLayout
