import Mathlib.Data.Finset.Card
import SqlLayout.Proofs.Layout.Cached

/-!
# What a cache answers after any history

A history is a list of calls on a new cache, the oldest first. Since the last time the cache was emptied,
the latest insertion at a node alone decides what the cache answers for it; how many pieces are kept and
how often the cache was asked can be read off the history too.
-/

namespace SqlLayout

/-- A call on a cache. -/
inductive CacheCall (φ : Type) where
  | insert (node : Nat) (context : Context) (column : Nat) (fingerprint : φ) (piece : Piece)
  | get (node : Nat) (context : Context) (column : Nat) (fingerprint : φ) (lineWidth : Nat)
  | clear

namespace CacheCall

variable {φ : Type}

/-- Whether the call empties the cache. -/
def isClear : CacheCall φ → Bool
  | clear => true
  | _ => false

/-- Whether the call asks the cache. -/
def isGet : CacheCall φ → Bool
  | get .. => true
  | _ => false

/-- The node at which the call inserts something. -/
def insertedAt? : CacheCall φ → Option Nat
  | insert node .. => some node
  | _ => none

/-- What the call inserts at a node. -/
def insertionAt? (node : Nat) : CacheCall φ → Option (CacheEntry φ)
  | insert other context column fingerprint piece =>
    if node = other then some ⟨context, column, fingerprint, piece⟩ else none
  | _ => none

end CacheCall

/-- How often a cache was asked, as far as it kept count. -/
def CacheStats.total (stats : CacheStats) : Nat :=
  stats.hits + stats.rebased + stats.misses

/-- When an entry answers, and with what. -/
def CacheEntry.Answers {φ : Type} (e : CacheEntry φ) (ctx : Context) (column : Nat)
    (fingerprint : φ) (lineWidth : Nat) (piece : Piece) : Prop :=
  e.context = ctx ∧ e.fingerprint = fingerprint
    ∧ (e.column = column ∧ piece = e.piece
      ∨ e.column ≠ column ∧ e.piece.height = 1
        ∧ column + (e.piece.width - e.piece.start) + ctx.trailing ≤ lineWidth
        ∧ e.piece.rebase? column = some piece)

namespace Cache

variable {φ : Type} [DecidableEq φ]

/-- The cache after a call. -/
def apply (c : Cache φ) : CacheCall φ → Cache φ
  | .insert node context column fingerprint piece => c.insert node context column fingerprint piece
  | .get node context column fingerprint lineWidth =>
    (c.get node context column fingerprint lineWidth).2
  | .clear => c.clear

/-- A new cache after a history of calls. -/
def afterCalls (calls : List (CacheCall φ)) : Cache φ :=
  calls.foldl apply {}

/-- The calls of a history since the cache was emptied last, the newest first. -/
def sinceClear (calls : List (CacheCall φ)) : List (CacheCall φ) :=
  calls.reverse.takeWhile (!·.isClear)

/-- The latest insertion at a node since the cache was emptied. -/
def latest? (calls : List (CacheCall φ)) (node : Nat) : Option (CacheEntry φ) :=
  (sinceClear calls).findSome? (·.insertionAt? node)

/-- The nodes at which something was inserted since the cache was emptied. -/
def insertedNodes (calls : List (CacheCall φ)) : Finset Nat :=
  ((sinceClear calls).filterMap (·.insertedAt?)).toFinset

/-! ### A history grows at its end -/

lemma afterCalls_append (calls : List (CacheCall φ)) (call : CacheCall φ) :
    afterCalls (calls ++ [call]) = (afterCalls calls).apply call := by
  simp only [afterCalls, List.foldl_append, List.foldl_cons, List.foldl_nil]

omit [DecidableEq φ] in
lemma sinceClear_append (calls : List (CacheCall φ)) (call : CacheCall φ) :
    sinceClear (calls ++ [call]) = if call.isClear then [] else call :: sinceClear calls := by
  simp only [sinceClear, List.reverse_append, List.reverse_cons, List.reverse_nil, List.nil_append,
    List.singleton_append, List.takeWhile_cons]
  cases call.isClear <;> rfl

omit [DecidableEq φ] in
lemma latest?_clear (calls : List (CacheCall φ)) (node : Nat) :
    latest? (calls ++ [.clear]) node = none := by
  rw [latest?, sinceClear_append]
  rfl

omit [DecidableEq φ] in
lemma latest?_get (calls : List (CacheCall φ)) (node other column lineWidth : Nat) (ctx : Context)
    (fingerprint : φ) :
    latest? (calls ++ [.get other ctx column fingerprint lineWidth]) node = latest? calls node := by
  rw [latest?, sinceClear_append]
  rfl

omit [DecidableEq φ] in
lemma latest?_insert (calls : List (CacheCall φ)) (node other column : Nat) (ctx : Context)
    (fingerprint : φ) (piece : Piece) :
    latest? (calls ++ [.insert other ctx column fingerprint piece]) node
      = if node = other then some ⟨ctx, column, fingerprint, piece⟩ else latest? calls node := by
  rw [latest?, sinceClear_append]
  show ((CacheCall.insert other ctx column fingerprint piece) :: sinceClear calls).findSome? _ = _
  rw [List.findSome?_cons, CacheCall.insertionAt?]
  split_ifs <;> rfl

omit [DecidableEq φ] in
/-- An insertion at one node does not show in what was inserted last at another. -/
lemma latest?_insert_between (before after : List (CacheCall φ)) {node other column : Nat}
    {ctx : Context} {fingerprint : φ} {piece : Piece} (h : other ≠ node) :
    latest? (before ++ .insert node ctx column fingerprint piece :: after) other
      = latest? (before ++ after) other := by
  induction after using List.reverseRecOn with
  | nil => rw [latest?_insert, if_neg h, List.append_nil]
  | append_singleton after call ih =>
    have hleft : before ++ CacheCall.insert node ctx column fingerprint piece :: (after ++ [call])
        = (before ++ CacheCall.insert node ctx column fingerprint piece :: after) ++ [call] := by
      simp only [List.append_assoc, List.cons_append]
    rw [hleft, ← List.append_assoc]
    cases call with
    | clear => rw [latest?_clear, latest?_clear]
    | get => rw [latest?_get, latest?_get, ih]
    | insert => rw [latest?_insert, latest?_insert, ih]

/-! ### What is kept after a history -/

/-- A new cache keeps pieces, and no call changes that. -/
lemma enabled_afterCalls (calls : List (CacheCall φ)) : (afterCalls calls).enabled = true := by
  induction calls using List.reverseRecOn with
  | nil => rfl
  | append_singleton calls call ih =>
    rw [afterCalls_append]
    cases call with
    | clear => exact ih
    | get => exact enabled_get.trans ih
    | insert => exact enabled_insert.trans ih

/-- Every place holds what was inserted there last since the cache was emptied. -/
lemma join_slots_afterCalls (calls : List (CacheCall φ)) (node : Nat) :
    ((afterCalls calls).slots[node]?).join = latest? calls node := by
  induction calls using List.reverseRecOn with
  | nil => rfl
  | append_singleton calls call ih =>
    rw [afterCalls_append]
    cases call with
    | clear => rw [latest?_clear]; rfl
    | get =>
      rw [latest?_get]
      show (((Cache.get _ _ _ _ _ _).2).slots[node]?).join = _
      rw [slots_get, ih]
    | insert =>
      rw [latest?_insert]
      show ((Cache.insert _ _ _ _ _ _).slots[node]?).join = _
      rw [join_slots_insert, ih, enabled_afterCalls]
      simp only [true_and]

omit [DecidableEq φ] in
/-- The places in use, counted by their numbers. -/
lemma countP_isSome_eq_card (slots : List (Option (CacheEntry φ))) :
    slots.countP Option.isSome
      = ((Finset.range slots.length).filter fun i => (slots[i]?).join.isSome).card := by
  induction slots using List.reverseRecOn with
  | nil => rfl
  | append_singleton slots slot ih =>
    have hbefore : (Finset.range slots.length).filter
          (fun i => ((slots ++ [slot])[i]?).join.isSome)
        = (Finset.range slots.length).filter fun i => (slots[i]?).join.isSome := by
      apply Finset.filter_congr
      intro i hi
      rw [List.getElem?_append_left (Finset.mem_range.1 hi)]
    rw [List.countP_append, List.countP_singleton, List.length_append, List.length_singleton,
      Finset.range_add_one, Finset.filter_insert, hbefore, List.getElem?_concat_length,
      Option.join_some]
    cases slot with
    | none => simpa using ih
    | some e =>
      show slots.countP Option.isSome + 1 = (Insert.insert slots.length _ : Finset Nat).card
      rw [Finset.card_insert_of_notMem, ih]
      simp

omit [DecidableEq φ] in
/-- Something was inserted at a node if there is a latest insertion at it. -/
lemma mem_insertedNodes (calls : List (CacheCall φ)) (node : Nat) :
    node ∈ insertedNodes calls ↔ (latest? calls node).isSome = true := by
  rw [insertedNodes, List.mem_toFinset, List.mem_filterMap, latest?, List.findSome?_isSome_iff]
  apply exists_congr
  intro call
  apply and_congr_right
  intro _
  cases call with
  | insert other =>
    rw [CacheCall.insertedAt?, CacheCall.insertionAt?, Option.some_inj, eq_comm]
    split_ifs with h <;> simp [h]
  | get | clear => exact ⟨nofun, nofun⟩

/-- As many pieces are kept as there are nodes with an insertion since the cache was emptied. -/
lemma size_afterCalls (calls : List (CacheCall φ)) :
    (afterCalls calls).size = (insertedNodes calls).card := by
  rw [size, countP_isSome_eq_card]
  congr 1
  ext node
  rw [Finset.mem_filter, Finset.mem_range, mem_insertedNodes, ← join_slots_afterCalls,
    Array.getElem?_toList, and_iff_right_iff_imp]
  intro hsome
  apply Decidable.byContradiction
  intro hge
  rw [Array.getElem?_eq_none (by simpa using hge)] at hsome
  exact absurd hsome nofun

/-! ### What is answered after a history -/

omit [DecidableEq φ] in
/-- An entry answers after a move if its piece has one line that fits where it is moved to. -/
lemma moved?_eq_some {e : CacheEntry φ} {column lineWidth : Nat} {piece : Piece} :
    e.moved? column lineWidth = some piece
      ↔ e.piece.height = 1
        ∧ column + (e.piece.width - e.piece.start) + e.context.trailing ≤ lineWidth
        ∧ e.piece.rebase? column = some piece := by
  have hheight (h : e.piece.rebase? column = some piece) : e.piece.height = 1 := by
    cases hp : e.piece with
    | fragment => rfl
    | lines b =>
      rw [hp, Piece.rebase?] at h
      split_ifs at h with hb
      exact hb
  rw [CacheEntry.moved?]
  split_ifs with hfits
  · exact ⟨fun h => ⟨hheight h, hfits, h⟩, fun h => h.2.2⟩
  · exact ⟨nofun, fun h => absurd h.2.1 hfits⟩

lemma entryOf?_eq_some {c : Cache φ} {node : Nat} {ctx : Context} {fingerprint : φ}
    {e : CacheEntry φ} :
    c.entryOf? node ctx fingerprint = some e
      ↔ (c.slots[node]?).join = some e ∧ e.context = ctx ∧ e.fingerprint = fingerprint := by
  rw [entryOf?, Option.filter_eq_some_iff, decide_eq_true_iff, and_comm (a := e.fingerprint = _)]

/-- An enabled cache answers if the entry of the node does. -/
lemma get_eq_some_iff {c : Cache φ} (henabled : c.enabled = true) {node column lineWidth : Nat}
    {ctx : Context} {fingerprint : φ} {piece : Piece} :
    (c.get node ctx column fingerprint lineWidth).1 = some piece
      ↔ ∃ e, (c.slots[node]?).join = some e
        ∧ e.Answers ctx column fingerprint lineWidth piece := by
  have hentry : (∃ e, (c.slots[node]?).join = some e
        ∧ e.Answers ctx column fingerprint lineWidth piece)
      ↔ ∃ e, c.entryOf? node ctx fingerprint = some e
        ∧ (e.column = column ∧ piece = e.piece
          ∨ e.column ≠ column ∧ e.moved? column lineWidth = some piece) := by
    apply exists_congr
    intro e
    rw [entryOf?_eq_some, moved?_eq_some, CacheEntry.Answers, and_assoc, and_assoc]
    apply and_congr_right
    intro _
    apply and_congr_right
    rintro rfl
    rfl
  rw [hentry, get, henabled, Bool.not_true, if_neg Bool.false_ne_true]
  cases c.entryOf? node ctx fingerprint with
  | none => exact ⟨nofun, fun ⟨_, h, _⟩ => nomatch h⟩
  | some e =>
    dsimp only
    by_cases hcolumn : e.column = column
    · rw [if_pos hcolumn]
      simp [hcolumn, eq_comm]
    · rw [if_neg hcolumn]
      cases hmoved : e.moved? column lineWidth with
      | none => simp [hcolumn, hmoved]
      | some moved => simp [hcolumn, hmoved]

/-- A cache that is asked counts the call. -/
lemma total_get {c : Cache φ} (henabled : c.enabled = true) (node column lineWidth : Nat)
    (ctx : Context) (fingerprint : φ) :
    (c.get node ctx column fingerprint lineWidth).2.stats.total = c.stats.total + 1 := by
  rw [get, henabled, Bool.not_true, if_neg Bool.false_ne_true]
  cases c.entryOf? node ctx fingerprint with
  | none => rfl
  | some e =>
    dsimp only
    by_cases hcolumn : e.column = column
    · rw [if_pos hcolumn]
      show c.stats.hits + 1 + c.stats.rebased + c.stats.misses
        = c.stats.hits + c.stats.rebased + c.stats.misses + 1
      omega
    · rw [if_neg hcolumn]
      cases e.moved? column lineWidth with
      | none => rfl
      | some moved =>
        show c.stats.hits + (c.stats.rebased + 1) + c.stats.misses
          = c.stats.hits + c.stats.rebased + c.stats.misses + 1
        omega

/-- Every call that asks the cache is counted once, and emptying the cache leaves the counts. -/
lemma total_afterCalls (calls : List (CacheCall φ)) :
    (afterCalls calls).stats.total = calls.countP CacheCall.isGet := by
  induction calls using List.reverseRecOn with
  | nil => rfl
  | append_singleton calls call ih =>
    rw [afterCalls_append, List.countP_append, ← ih]
    cases call with
    | clear => rfl
    | get => exact total_get (enabled_afterCalls calls) ..
    | insert =>
      show (Cache.insert _ _ _ _ _ _).stats.total = _
      rw [insert, enabled_afterCalls]
      rfl

end Cache
end SqlLayout
