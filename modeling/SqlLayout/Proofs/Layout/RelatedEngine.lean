import SqlLayout.Proofs.Layout.Cached
import SqlLayout.Proofs.Layout.RelatedExpressions
import SqlLayout.Proofs.Layout.RelatedLists
import SqlLayout.Proofs.Layout.RelatedStatements

/-!
# Whole trees side by side

The layouts of nodes of every kind in alike trees are related, if those of their children are, whichever
caches correspond. Caches are alike if they keep alike pieces at the same places under the same
circumstances: then both answer or neither does, and the formatted texts of alike trees are equal once
folded.
-/

namespace SqlLayout

namespace Sheet

variable {m₁ m₂ : Type → Type} [Monad m₁] [Monad m₂] [Faulting m₁] [Faulting m₂]
  [MonadStateOf (Cache Policy) m₁] [MonadStateOf (Cache Policy) m₂] [Coupling m₁ m₂]
  {R : Correspondence} {C : Cache Policy → Cache Policy → Prop} {t₁ t₂ : Tree} {p : Policy} {k : LetterCases}
  {r₁ : RenderIn m₁} {r₂ : RenderIn m₂} {id : Nat} {ctx : Context} {column : Nat}

lemma related_layoutNode (ht : t₁.Alike R p k t₂) (hid : id < t₁.size)
    (hr : ∀ child ∈ visibleChildren ⟨t₁, p⟩ id, RenderAlike C R t₁ r₁ r₂ child) :
    Related C (layoutNode ⟨t₁, p⟩ r₁ id ctx column) (layoutNode ⟨t₂, p.cased k⟩ r₂ id ctx column)
      (Piece.Like R) := by
  unfold layoutNode
  dsimp only
  rw [← ht.kind]
  cases hkind : t₁.kind id with
  | root => exact related_root ht hr
  | statementList => exact related_statementList ht hr
  | statement => exact related_statement ht hid hr
  | clause => exact related_clause ht hid hr
  | commaList => exact related_commaList ht hid hr
  | listElement | expression | declarationPart => exact related_expression ht hid hr
  | parenthesized => exact related_group ht hid hr
  | functionCall => exact related_functionCall ht hid hr
  | caseOf | caseStatement => exact related_caseOf ht hid hr
  | whenBranch => exact related_whenBranch ht hid hr
  | elseBranch => exact related_elseBranch ht hid hr
  | functionDefinition => exact related_routineDefinition ht hid hr
  | tableDefinition => exact related_tableDefinition ht hid hr
  | doBlock => exact related_doBlock ht hr
  | functionBody => exact related_routineBody ht hid hr
  | declarationList => exact related_declarationList ht hid hr
  | declaration => exact related_declaration ht hid hr
  | declareSection => exact related_declareSection ht hr
  | exceptionSection => exact related_exceptionSection ht hr
  | block | ifStatement | conditionalBranch | loopStatement => exact related_control ht hr
  | leaf role => exact .pure (like_leaf ht hid role column)
  | comment => exact .pure (.lines (like_appendComment ht hid hkind (.of_none rfl)))
  | error index => exact .pure (ht.error hid hkind column)

end Sheet

/-! ### Alike caches -/

/-- Entries that agree in all but their fingerprints and their pieces, which are alike. -/
inductive CacheEntry.Like {φ : Type} (R : Correspondence) (f₁ f₂ : φ) :
    CacheEntry φ → CacheEntry φ → Prop where
  | of (ctx : Context) (column : Nat) {p₁ p₂ : Piece} : Piece.Like R p₁ p₂ →
    Like R f₁ f₂ ⟨ctx, column, f₁, p₁⟩ ⟨ctx, column, f₂, p₂⟩

variable {φ : Type} {f₁ f₂ : φ} {R : Correspondence}

namespace CacheEntry.Like

variable {e₁ e₂ : CacheEntry φ} (h : Like R f₁ f₂ e₁ e₂)

include h

lemma column_eq : e₁.column = e₂.column := by
  cases h; rfl

lemma piece : Piece.Like R e₁.piece e₂.piece := by
  cases h with
  | of ctx column hpiece => exact hpiece

lemma moved? (column lineWidth : Nat) :
    Option.Rel (Piece.Like R) (e₁.moved? column lineWidth) (e₂.moved? column lineWidth) := by
  cases h with
  | of ctx _ hpiece =>
    unfold CacheEntry.moved?
    dsimp only
    rw [hpiece.width_eq, hpiece.start_eq]
    split
    · exact hpiece.rebase? column
    · exact .none

end CacheEntry.Like

namespace Cache

variable {c₁ c₂ : Cache φ}

/-- Caches that keep alike entries at the same places, each under its own fingerprint. -/
structure Like (R : Correspondence) (f₁ f₂ : φ) (c₁ c₂ : Cache φ) : Prop where
  enabled : c₁.enabled = c₂.enabled
  slots (i : Nat) : Option.Rel (CacheEntry.Like R f₁ f₂) (c₁.slots[i]?).join (c₂.slots[i]?).join

variable (h : Like R f₁ f₂ c₁ c₂) (node column : Nat) (ctx : Context)

include h

lemma Like.kept [DecidableEq φ] : Option.Rel (CacheEntry.Like R f₁ f₂)
    (c₁.entryOf? node ctx f₁) (c₂.entryOf? node ctx f₂) := by
  unfold Cache.entryOf?
  obtain ⟨e₁, e₂, heq₁, heq₂, he⟩ | ⟨heq₁, heq₂⟩ := eq_or_eq_of_rel (h.slots node)
  · rw [heq₁, heq₂]
    cases he with
    | of kept column hpiece =>
      simp only [Option.filter, true_and]
      split
      · exact .some (.of kept column hpiece)
      · exact .none
  · rw [heq₁, heq₂]
    exact .none

/-- Alike caches give alike answers. -/
lemma Like.get_fst [DecidableEq φ] (lineWidth : Nat) :
    Option.Rel (Piece.Like R) (c₁.get node ctx column f₁ lineWidth).1
      (c₂.get node ctx column f₂ lineWidth).1 := by
  unfold get
  rw [h.enabled]
  split
  · exact .none
  obtain ⟨e₁, e₂, heq₁, heq₂, he⟩ | ⟨heq₁, heq₂⟩ := eq_or_eq_of_rel (h.kept node ctx)
  · rw [heq₁, heq₂]
    dsimp only
    rw [he.column_eq]
    split
    · exact .some he.piece
    · obtain ⟨m₁, m₂, heq₁, heq₂, hmoved⟩ | ⟨heq₁, heq₂⟩ := eq_or_eq_of_rel (he.moved? column lineWidth)
      · rw [heq₁, heq₂]
        exact .some hmoved
      · rw [heq₁, heq₂]
        exact .none
  · rw [heq₁, heq₂]
    exact .none

lemma Like.get_snd [DecidableEq φ] (lineWidth : Nat) :
    Like R f₁ f₂ (c₁.get node ctx column f₁ lineWidth).2 (c₂.get node ctx column f₂ lineWidth).2 :=
  ⟨by simpa using h.enabled, by simpa using h.slots⟩

lemma Like.insert {p₁ p₂ : Piece} (hpiece : Piece.Like R p₁ p₂) :
    Like R f₁ f₂ (c₁.insert node ctx column f₁ p₁) (c₂.insert node ctx column f₂ p₂) := by
  refine ⟨by simpa using h.enabled, fun i => ?_⟩
  rw [join_slots_insert, join_slots_insert, h.enabled]
  split
  · exact .some (.of ctx column hpiece)
  · exact h.slots i

end Cache

namespace Sheet

variable {m₁ m₂ : Type → Type} [Monad m₁] [Monad m₂] [Faulting m₁] [Faulting m₂]
  [MonadStateOf (Cache Policy) m₁] [MonadStateOf (Cache Policy) m₂] [Coupling m₁ m₂]
  {R : Correspondence} {t₁ t₂ : Tree} {p : Policy} {k : LetterCases} {id : Nat}

lemma fault?_eq {p₁ p₂ : Piece} (h : Piece.Like R p₁ p₂) : p₁.fault? = p₂.fault? := by
  cases h with
  | fragment start _ _ => rfl
  | lines h =>
    unfold Piece.fault? LineBuffer.lineIndent
    dsimp only
    rw [h.indentBase_eq, h.localIndent_eq, h.width_eq]

/-- With alike caches, a layout is taken from both or from neither. -/
lemma related_cached {layout₁ : RenderIn m₁} {layout₂ : RenderIn m₂} {ctx : Context} {column : Nat}
    (h : Related (Cache.Like R p (p.cased k)) (layout₁ id ctx column) (layout₂ id ctx column)
      (Piece.Like R)) :
    Related (Cache.Like R p (p.cased k)) (cached ⟨t₁, p⟩ layout₁ id ctx column)
      (cached ⟨t₂, p.cased k⟩ layout₂ id ctx column) (Piece.Like R) := by
  have hget : Related (Cache.Like R p (p.cased k))
      (modifyGet (Cache.get · id ctx column p p.lineWidth.value) : m₁ (Option Piece))
      (modifyGet (Cache.get · id ctx column (p.cased k) p.lineWidth.value) : m₂ (Option Piece))
      (Option.Rel (Piece.Like R)) :=
    .modifyGet fun c₁ c₂ hcache =>
      ⟨hcache.get_fst id column ctx p.lineWidth.value, hcache.get_snd id column ctx p.lineWidth.value⟩
  refine hget.bind fun found₁ found₂ hfound => ?_
  cases hfound with
  | some hpiece => exact .pure hpiece
  | none =>
    refine h.bind fun piece₁ piece₂ hpiece => .stopFor (fault?_eq hpiece) ?_
    refine Related.bind (.modifyGet fun c₁ c₂ hcache => ⟨rfl, hcache.insert id column ctx hpiece⟩)
      fun _ _ _ => .pure hpiece

/-- Alike trees are laid out alike to any depth. -/
lemma renderAlike_renderToIn (ht : t₁.Alike R p k t₂) (depth : Nat) (hid : id < t₁.size) :
    RenderAlike (Cache.Like R p (p.cased k)) R t₁ (renderToIn ⟨t₁, p⟩ m₁ depth)
      (renderToIn ⟨t₂, p.cased k⟩ m₂ depth) id := by
  induction depth generalizing id with
  | zero => exact ⟨hid, fun ctx column => .pure (.fragment column (.refl []) .none)⟩
  | succ depth ih =>
    refine ⟨hid, fun ctx column => related_cached (related_layoutNode ht hid fun child hchild => ?_)⟩
    exact ih (lt_of_mem_visibleChildren ht hchild)

lemma same_finish {p₁ p₂ : Piece} (h : Piece.Like R p₁ p₂) :
    R.Same (finish ⟨t₁, p⟩ p₁) (finish ⟨t₂, p.cased k⟩ p₂) := by
  have hbuffer : LineBuffer.Like R (bufferOf p₁) (bufferOf p₂) := by
    cases h with
    | lines h => exact h
    | fragment start htext hlast =>
      exact LineBuffer.Like.append (.of_none rfl) (.fragment start htext hlast)
  have htext := hbuffer.trimTrailing.text.trimEnd
  unfold finish
  dsimp only
  rw [htext.isEmpty_eq]
  split
  · exact .refl []
  · split
    · exact htext
    · exact htext.append (.refl _)

end Sheet

lemma formatTreeBounded_eq (policy : Policy) (tree : Tree) :
    formatTreeBounded policy tree
      = ((Sheet.mk tree policy).renderBounded tree.root {} 0 {}).map fun result =>
        (Sheet.mk tree policy).finish result.1 := by
  show Except.map _ (Except.bind ((Sheet.mk tree policy).renderBounded tree.root {} 0 {}) _) = _
  cases (Sheet.mk tree policy).renderBounded tree.root {} 0 {} <;> rfl

section

variable {R : Correspondence} {policy : Policy} {k : LetterCases} {t₁ t₂ : Tree}

lemma Cache.like_empty : Cache.Like R policy (policy.cased k) ({} : Cache Policy) {} :=
  ⟨rfl, fun i => by simp⟩

variable (ht : t₁.Alike R policy k t₂) (hroot : t₁.root = t₂.root) (hlt : t₁.root < t₁.size)

include ht hroot hlt

/-- The roots of alike trees are laid out alike, with bounded columns or without. -/
lemma related_root_of_alike (m₁ m₂ : Type → Type) [Monad m₁] [Monad m₂] [Faulting m₁] [Faulting m₂]
    [MonadStateOf (Cache Policy) m₁] [MonadStateOf (Cache Policy) m₂] [Sheet.Coupling m₁ m₂] :
    Sheet.Related (Cache.Like R policy (policy.cased k))
      (Sheet.renderToIn ⟨t₁, policy⟩ m₁ (t₁.size + 1) t₁.root {} 0)
      (Sheet.renderToIn ⟨t₂, policy.cased k⟩ m₂ (t₂.size + 1) t₂.root {} 0) (Piece.Like R) := by
  rw [← ht.size, ← hroot]
  exact (Sheet.renderAlike_renderToIn ht (t₁.size + 1) hlt).related {} 0

/-- Alike trees with the same root have formatted texts that are equal once folded. -/
lemma same_formatTree : R.Same (formatTree policy t₁) (formatTree (policy.cased k) t₂) :=
  Sheet.same_finish ((related_root_of_alike ht hroot hlt Layout Layout) {} {} Cache.like_empty).1

/-- Alike trees with the same root stop for the same fault, or have texts that are equal once folded. -/
lemma agree_formatTreeBounded :
    (∃ fault, formatTreeBounded policy t₁ = .error fault ∧ formatTreeBounded (policy.cased k) t₂ = .error fault)
      ∨ ∃ out₁ out₂, formatTreeBounded policy t₁ = .ok out₁
        ∧ formatTreeBounded (policy.cased k) t₂ = .ok out₂ ∧ R.Same out₁ out₂ := by
  have hagree := (related_root_of_alike ht hroot hlt BoundedLayout BoundedLayout) {} {} Cache.like_empty
  rw [formatTreeBounded_eq, formatTreeBounded_eq, Sheet.renderBounded, Sheet.renderBounded]
  dsimp only
  generalize Sheet.renderToIn ⟨t₁, policy⟩ BoundedLayout (t₁.size + 1) t₁.root {} 0 {} = outcome₁ at hagree ⊢
  generalize Sheet.renderToIn ⟨t₂, policy.cased k⟩ BoundedLayout (t₂.size + 1) t₂.root {} 0 {} = outcome₂
    at hagree ⊢
  cases hagree with
  | fault fault => exact .inl ⟨fault, rfl, rfl⟩
  | result hpiece _ => exact .inr ⟨_, _, rfl, rfl, Sheet.same_finish hpiece⟩

end

end SqlLayout
