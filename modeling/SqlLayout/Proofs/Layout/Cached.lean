import Mathlib.Tactic.Common
import SqlLayout.Layout.Engine

/-!
# What a cache answers and keeps

An answer is the kept piece of the node under the same context, or that piece moved to the column that is
asked for. An insertion changes the place of its node only.
-/

namespace SqlLayout

namespace Cache

variable {φ : Type} {c : Cache φ} {node column lineWidth : Nat} {ctx : Context}
  {fingerprint : φ}

/-- Asking changes nothing but the counts. -/
lemma exists_get_snd_eq [DecidableEq φ] (c : Cache φ) (node column lineWidth : Nat) (ctx : Context)
    (fingerprint : φ) :
    ∃ stats, (c.get node ctx column fingerprint lineWidth).2 = { c with stats := stats } := by
  unfold get
  split
  · exact ⟨c.stats, rfl⟩
  · split
    · exact ⟨_, rfl⟩
    · split
      · exact ⟨_, rfl⟩
      · split <;> exact ⟨_, rfl⟩

@[simp] lemma slots_get [DecidableEq φ] :
    (c.get node ctx column fingerprint lineWidth).2.slots = c.slots := by
  obtain ⟨stats, h⟩ := c.exists_get_snd_eq node column lineWidth ctx fingerprint
  rw [h]

@[simp] lemma enabled_get [DecidableEq φ] :
    (c.get node ctx column fingerprint lineWidth).2.enabled = c.enabled := by
  obtain ⟨stats, h⟩ := c.exists_get_snd_eq node column lineWidth ctx fingerprint
  rw [h]

/-- An answer is the kept piece of the node under the same context, or that piece moved. -/
lemma get_eq_some [DecidableEq φ] {piece : Piece}
    (h : (c.get node ctx column fingerprint lineWidth).1 = some piece) :
    ∃ e, c.slots[node]? = some (some e) ∧ e.context = ctx
      ∧ (e.piece = piece ∨ e.piece.rebase? column = some piece) := by
  unfold get at h
  split at h
  · exact absurd h nofun
  · split at h
    · exact absurd h nofun
    · next e he =>
      obtain ⟨hslot, hsame⟩ := Option.filter_eq_some_iff.1 he
      have hslot : c.slots[node]? = some (some e) := by
        simpa [Option.join_eq_some_iff] using hslot
      have hctx : e.context = ctx := by simpa using (of_decide_eq_true hsame).2
      split at h
      · exact ⟨e, hslot, hctx, .inl (Option.some.inj h)⟩
      · split at h
        · next moved hmoved =>
          obtain rfl := Option.some.inj h
          unfold CacheEntry.moved? at hmoved
          dsimp only at hmoved
          split at hmoved
          · exact ⟨e, hslot, hctx, .inr hmoved⟩
          · exact absurd hmoved nofun
        · exact absurd h nofun

@[simp] lemma enabled_insert {piece : Piece} :
    (c.insert node ctx column fingerprint piece).enabled = c.enabled := by
  unfold insert
  split <;> rfl

/-- A place holds what was kept there before, or what is inserted at it. -/
lemma join_slots_insert (piece : Piece) (i : Nat) :
    ((c.insert node ctx column fingerprint piece).slots[i]?).join
      = if c.enabled = true ∧ i = node then some ⟨ctx, column, fingerprint, piece⟩
        else (c.slots[i]?).join := by
  have hwidened (size : Nat) : ((widened c.slots size)[i]?).join = (c.slots[i]?).join := by
    rw [widened, Array.getElem?_append]
    split
    · rfl
    · next hge =>
      rw [Array.getElem?_eq_none (Nat.le_of_not_lt hge), Array.getElem?_replicate]
      split <;> rfl
  unfold insert
  cases c.enabled with
  | false => simp
  | true =>
    have hsize : node < (widened c.slots (node + 1)).size := by
      simp only [widened, Array.size_append, Array.size_replicate]
      omega
    simp only [Bool.not_true, Bool.false_eq_true, if_false, true_and, Array.getElem?_setIfInBounds]
    by_cases hi : node = i
    · rw [if_pos hi, if_pos hsize, if_pos hi.symm, Option.join_some]
    · rw [if_neg hi, if_neg (Ne.symm hi), hwidened]

/-- What is kept after an insertion was kept before, or is what was inserted. -/
lemma slots_insert {piece : Piece} {i : Nat} {e : CacheEntry φ}
    (h : (c.insert node ctx column fingerprint piece).slots[i]? = some (some e)) :
    c.slots[i]? = some (some e) ∨ (i = node ∧ e = ⟨ctx, column, fingerprint, piece⟩) := by
  have hjoin := congrArg Option.join h
  rw [join_slots_insert, Option.join_some] at hjoin
  split at hjoin
  · next hi => exact .inr ⟨hi.2, (Option.some.inj hjoin).symm⟩
  · exact .inl (by simpa [Option.join_eq_some_iff] using hjoin)

end Cache

namespace Sheet

variable {sh : Sheet} {id : Nat} {ctx : Context} {column : Nat}

lemma cached_eq (layout : Render) (cache : Cache Policy) :
    sh.cached layout id ctx column cache
      = match (cache.get id ctx column sh.policy sh.lineWidth).1 with
        | some piece => (piece, (cache.get id ctx column sh.policy sh.lineWidth).2)
        | none =>
          let result := layout id ctx column (cache.get id ctx column sh.policy sh.lineWidth).2
          (result.1, result.2.insert id ctx column sh.policy result.1) := by
  show (match (cache.get id ctx column sh.policy sh.lineWidth).1 with
    | some piece => _
    | none => _ : Layout Piece) _ = _
  cases (cache.get id ctx column sh.policy sh.lineWidth).1 with
  | some piece => rfl
  | none => rfl

end Sheet
end SqlLayout
