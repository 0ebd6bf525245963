import SqlLayout.Proofs.Layout.RelatedEngine
import SqlLayout.Proofs.Tree.Bounds

/-!
# Columns within bounds

The program lays out with bounded columns and may stop for a fault. What it lays out is what would be
laid out if columns had no bounds, so all that is true of the formatted texts without bounds is true of
those that the program gives.
-/

namespace SqlLayout

/-- The correspondence of each token and each character with itself. -/
def Correspondence.identity : Correspondence :=
  { Text.Folding.identity with token := Eq }

lemma eq_of_rel_eq {α : Type} {x y : Option α} (h : Option.Rel Eq x y) : x = y := by
  cases h with
  | some h => rw [h]
  | none => rfl

lemma LineBuffer.Like.eq_of_identity {b₁ b₂ : LineBuffer} (h : Like .identity b₁ b₂) : b₁ = b₂ := by
  have hfinished : b₁.finished = b₂.finished :=
    List.forall₂_eq_eq_eq ▸ h.finished.imp fun _ _ => Text.Folding.same_identity_iff.1
  have hcurrent := Text.Folding.same_identity_iff.1 h.current
  have hlast := eq_of_rel_eq h.last_rel
  obtain ⟨-, -, hstart, hcolumn, hwidth, hbase, hlocal, hfresh, hbreak, -⟩ := h
  cases b₁
  cases b₂
  simp_all

lemma Piece.Like.eq_of_identity {p₁ p₂ : Piece} (h : Like .identity p₁ p₂) : p₁ = p₂ := by
  cases h with
  | fragment start htext hlast => rw [Text.Folding.same_identity_iff.1 htext, eq_of_rel_eq hlast]
  | lines h => rw [h.eq_of_identity]

variable {tree : Tree} {policy : Policy} {source out : Text}

/-- A tree is laid out like itself under the letter cases that the policy sets. -/
lemma Tree.alike_self (hordered : tree.Ordered) (policy : Policy) :
    tree.Alike .identity policy policy.letterCases tree where
  ordered := hordered
  size := rfl
  kind _ := rfl
  children _ := rfl
  first _ := rfl
  last _ := rfl
  token h := h ▸ rfl
  text h := h ▸ rfl
  parenLevel h := h ▸ rfl
  space h h' := h ▸ h' ▸ rfl
  labelClose h := h ▸ rfl
  startsLine _ _ := rfl
  endsLine _ _ := rfl
  leaf _ _ := .refl _
  error _ _ _ := .lines (.self (fun _ => rfl) _)

/-- What is laid out on an empty cache with bounded columns is what is laid out without bounds. -/
theorem Sheet.render_eq_of_renderBounded {sh : Sheet} (hordered : sh.tree.Ordered) {id : Nat}
    (hid : id < sh.tree.size) {ctx : Context} {column : Nat} {result : Piece × Cache Policy} {enabled : Bool}
    (h : sh.renderBounded id ctx column { enabled := enabled } = .ok result) :
    (sh.render id ctx column { enabled := enabled }).1 = result.1 := by
  have halike : RenderAlike (Cache.Like .identity sh.policy (sh.policy.cased sh.policy.letterCases)) .identity
      sh.tree sh.renderBounded sh.render id :=
    renderAlike_renderToIn (Tree.alike_self hordered sh.policy) (sh.tree.size + 1) hid
  have hrender := halike.related ctx column
  have hempty : Cache.Like .identity sh.policy (sh.policy.cased sh.policy.letterCases)
      ({ enabled := enabled } : Cache Policy) { enabled := enabled } := ⟨rfl, fun i => by simp⟩
  exact ((hrender _ _ hempty result h).1.eq_of_identity).symm

/-- What the program writes for a tree is its text without bounds of columns. -/
theorem formatTree_eq_of_formatTreeBounded (hordered : tree.Ordered) (hroot : tree.root < tree.size)
    (h : formatTreeBounded policy tree = .ok out) : formatTree policy tree = out := by
  rw [formatTreeBounded_eq] at h
  cases hresult : (Sheet.mk tree policy).renderBounded tree.root {} 0 {} with
  | error fault =>
    rw [hresult] at h
    exact absurd h nofun
  | ok result =>
    rw [hresult] at h
    obtain rfl := Except.ok.inj h
    have hpiece := @Sheet.render_eq_of_renderBounded ⟨tree, policy⟩ hordered _ hroot {} 0 _ true hresult
    exact congrArg (Sheet.finish ⟨tree, policy⟩) hpiece

lemma format_of_parse (hparse : Tree.parse source = .ok tree) :
    format policy source = .ok (formatTree policy tree) := by
  rw [format, hparse]
  rfl

lemma formatBounded_of_parse (hparse : Tree.parse source = .ok tree) :
    formatBounded policy source = (formatTreeBounded policy tree).mapError .layout := by
  rw [formatBounded, hparse]
  rfl

/-- A source that has a tree is formatted to its text without bounds, or stops for a fault of its columns. -/
lemma formatBounded_eq_or_fault (hparse : Tree.parse source = .ok tree) (policy : Policy) :
    formatBounded policy source = .ok (formatTree policy tree)
      ∨ ∃ fault, formatBounded policy source = .error (.layout fault) := by
  rw [formatBounded_of_parse hparse]
  cases hbounded : formatTreeBounded policy tree with
  | error fault => exact .inr ⟨fault, rfl⟩
  | ok out =>
    have hformat := formatTree_eq_of_formatTreeBounded (Tree.ordered_of_parse hparse)
      (Tree.root_lt_of_parse hparse) hbounded
    rw [hformat]
    exact .inl rfl

end SqlLayout
