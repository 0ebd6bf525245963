import Mathlib.Tactic.Common
import SqlLayout.Layout.Engine

/-!
# Computations side by side

Two layouts are compared as they run side by side on two caches. They may be of different kinds: both
with bounded columns, both without bounds, or one of each. What is proved of renderers with the rules of
the judgement alone holds of all three.

Which caches correspond is left open.
-/

namespace SqlLayout.Sheet

/--
How layouts of two kinds are compared: `Related C x y post` says that `x` and `y` give results in the
relation `post` if they run on caches that correspond by `C`, and leave caches that do. What it says of
faults depends on the kinds.
-/
class Coupling (m₁ m₂ : Type → Type) [Monad m₁] [Monad m₂] [Faulting m₁] [Faulting m₂]
    [MonadStateOf (Cache Policy) m₁] [MonadStateOf (Cache Policy) m₂] where
  Related {α β : Type} (C : Cache Policy → Cache Policy → Prop) (x : m₁ α) (y : m₂ β) (post : α → β → Prop) : Prop
  pure {C : Cache Policy → Cache Policy → Prop} {α β : Type} {post : α → β → Prop} {a : α} {b : β} :
    post a b → Related C (pure a) (pure b) post
  bind {C : Cache Policy → Cache Policy → Prop} {α β γ δ : Type} {x : m₁ α} {y : m₂ β} {f : α → m₁ γ}
    {g : β → m₂ δ} {mid : α → β → Prop} {post : γ → δ → Prop} :
    Related C x y mid → (∀ a b, mid a b → Related C (f a) (g b) post) → Related C (x >>= f) (y >>= g) post
  stopFor {C : Cache Policy → Cache Policy → Prop} (fault? : Option LayoutFault) :
    Related C (Faulting.stopFor fault?) (Faulting.stopFor fault?) fun _ _ => True
  modifyGet {C : Cache Policy → Cache Policy → Prop} {α β : Type} {post : α → β → Prop}
    {f : Cache Policy → α × Cache Policy} {g : Cache Policy → β × Cache Policy} :
    (∀ c₁ c₂, C c₁ c₂ → post (f c₁).1 (g c₂).1 ∧ C (f c₁).2 (g c₂).2) →
    Related C (modifyGet f) (modifyGet g) post

variable {C : Cache Policy → Cache Policy → Prop} {α β γ δ : Type}

/-! ### The three kinds -/

/-- Without bounds of columns both layouts always give results. -/
instance : Coupling Layout Layout where
  Related C x y post := ∀ c₁ c₂, C c₁ c₂ → post (x c₁).1 (y c₂).1 ∧ C (x c₁).2 (y c₂).2
  pure h _ _ hcache := ⟨h, hcache⟩
  bind h hnext c₁ c₂ hcache := by
    obtain ⟨hmid, hcache⟩ := h c₁ c₂ hcache
    exact hnext _ _ hmid _ _ hcache
  stopFor _ _ _ hcache := ⟨trivial, hcache⟩
  modifyGet h := h

/-- A bounded layout beside one without bounds is compared as far as it gives a result. -/
instance : Coupling BoundedLayout Layout where
  Related C x y post := ∀ c₁ c₂, C c₁ c₂ → ∀ result, x c₁ = .ok result →
    post result.1 (y c₂).1 ∧ C result.2 (y c₂).2
  pure h c₁ c₂ hcache result hresult := by
    obtain rfl := Except.ok.inj hresult
    exact ⟨h, hcache⟩
  bind {C α β γ δ x y f g mid post} h hnext c₁ c₂ hcache result hresult := by
    cases hx : x c₁ with
    | error fault =>
      have herror : (x >>= f) c₁ = .error fault := by
        show Except.bind (x c₁) _ = _
        rw [hx]
        rfl
      exact absurd (herror.symm.trans hresult) nofun
    | ok mid =>
      have hok : (x >>= f) c₁ = f mid.1 mid.2 := by
        show Except.bind (x c₁) _ = _
        rw [hx]
        rfl
      obtain ⟨hmid, hcache⟩ := h c₁ c₂ hcache mid hx
      exact hnext _ _ hmid _ _ hcache result (hok.symm.trans hresult)
  stopFor fault? c₁ c₂ hcache result hresult := by
    cases fault? with
    | none =>
      obtain rfl := Except.ok.inj hresult
      exact ⟨trivial, hcache⟩
    | some fault => exact absurd hresult nofun
  modifyGet h c₁ c₂ hcache result hresult := by
    obtain rfl := Except.ok.inj hresult
    exact h c₁ c₂ hcache

/-- Outcomes of bounded layouts that agree: the same fault, or results in a relation. -/
inductive Agree (C : Cache Policy → Cache Policy → Prop) (post : α → β → Prop) :
    Except LayoutFault (α × Cache Policy) → Except LayoutFault (β × Cache Policy) → Prop where
  | fault (fault : LayoutFault) : Agree C post (.error fault) (.error fault)
  | result {a : α} {b : β} {c₁ c₂ : Cache Policy} :
    post a b → C c₁ c₂ → Agree C post (.ok (a, c₁)) (.ok (b, c₂))

/-- Bounded layouts stop for the same faults. -/
instance : Coupling BoundedLayout BoundedLayout where
  Related C x y post := ∀ c₁ c₂, C c₁ c₂ → Agree C post (x c₁) (y c₂)
  pure h _ _ hcache := .result h hcache
  bind {C α β γ δ x y f g mid post} h hnext c₁ c₂ hcache := by
    show Agree C post (Except.bind (x c₁) _) (Except.bind (y c₂) _)
    have hagree := h c₁ c₂ hcache
    generalize x c₁ = outcome₁ at hagree ⊢
    generalize y c₂ = outcome₂ at hagree ⊢
    cases hagree with
    | fault fault => exact .fault fault
    | result hmid hcache => exact hnext _ _ hmid _ _ hcache
  stopFor fault? c₁ c₂ hcache := by
    cases fault? with
    | none => exact .result trivial hcache
    | some fault => exact .fault fault
  modifyGet h c₁ c₂ hcache := .result (h c₁ c₂ hcache).1 (h c₁ c₂ hcache).2

/-! ### Rules -/

section

variable {m₁ m₂ : Type → Type} [Monad m₁] [Monad m₂] [Faulting m₁] [Faulting m₂]
  [MonadStateOf (Cache Policy) m₁] [MonadStateOf (Cache Policy) m₂] [Coupling m₁ m₂]

/-- Layouts of two kinds that are related on caches that correspond. -/
def Related (C : Cache Policy → Cache Policy → Prop) (x : m₁ α) (y : m₂ β) (post : α → β → Prop) : Prop :=
  Coupling.Related C x y post

namespace Related

lemma pure {post : α → β → Prop} {a : α} {b : β} (h : post a b) :
    Related C (Pure.pure a : m₁ α) (Pure.pure b : m₂ β) post :=
  Coupling.pure h

lemma bind {x : m₁ α} {y : m₂ β} {f : α → m₁ γ} {g : β → m₂ δ} {mid : α → β → Prop}
    {post : γ → δ → Prop} (h : Related C x y mid)
    (hnext : ∀ a b, mid a b → Related C (f a) (g b) post) : Related C (x >>= f) (y >>= g) post :=
  Coupling.bind h hnext

/-- Layouts that stop for equal faults are related if what they do else is. -/
lemma stopFor {f₁ f₂ : Option LayoutFault} (hfault : f₁ = f₂) {x : m₁ α} {y : m₂ β} {post : α → β → Prop}
    (h : Related C x y post) :
    Related C (do Faulting.stopFor f₁; x) (do Faulting.stopFor f₂; y) post := by
  subst hfault
  exact Related.bind (Coupling.stopFor f₁) fun _ _ _ => h

lemma modifyGet {post : α → β → Prop} {f : Cache Policy → α × Cache Policy} {g : Cache Policy → β × Cache Policy}
    (h : ∀ c₁ c₂, C c₁ c₂ → post (f c₁).1 (g c₂).1 ∧ C (f c₁).2 (g c₂).2) :
    Related C (MonadStateOf.modifyGet f : m₁ α) (MonadStateOf.modifyGet g : m₂ β) post :=
  Coupling.modifyGet h

lemma ite {c₁ c₂ : Prop} [Decidable c₁] [Decidable c₂] {x x' : m₁ α} {y y' : m₂ β}
    {post : α → β → Prop} (hc : c₁ ↔ c₂) (h : c₁ → Related C x y post) (h' : ¬c₁ → Related C x' y' post) :
    Related C (if c₁ then x else x') (if c₂ then y else y') post := by
  by_cases hc₁ : c₁
  · rw [if_pos hc₁, if_pos (hc.1 hc₁)]
    exact h hc₁
  · rw [if_neg hc₁, if_neg (hc₁ ∘ hc.2)]
    exact h' hc₁

/-- What each step of a loop keeps, the loop keeps. -/
lemma foldlM {step₁ : α → γ → m₁ α} {step₂ : β → γ → m₂ β} {xs : List γ} {inv : α → β → Prop}
    (hstep : ∀ x ∈ xs, ∀ a b, inv a b → Related C (step₁ a x) (step₂ b x) inv) {a : α} {b : β}
    (h : inv a b) : Related C (xs.foldlM step₁ a) (xs.foldlM step₂ b) inv := by
  induction xs generalizing a b with
  | nil => exact .pure h
  | cons x xs ih =>
    rw [List.foldlM_cons, List.foldlM_cons]
    exact (hstep x (by simp) a b h).bind fun a b h => ih (fun y hy => hstep y (by simp [hy])) h

end Related
end
end SqlLayout.Sheet
