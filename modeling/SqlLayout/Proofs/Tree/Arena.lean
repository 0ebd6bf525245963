import SqlLayout.Proofs.Grammar.Item
import SqlLayout.Proofs.Token.Significant
import SqlLayout.Tree.Basic

/-!
# How an arena grows

`Grows ts id pos err ids nodes errors past` describes the nodes that come to an arena, from the number
`id` on, while the tokens from `pos` up to `past` are read: comments and leaves hold one token each, a
node is followed by the nodes inside it, and an error node by the tokens that were rejected. `ids` are
the new children of the node that was open, and `errors` the errors recorded from the number `err` on.

An arena that grew like this passes the checks of `Tree.make`.
-/

namespace SqlLayout

/-- Whether a node of this kind holds one token and nothing else. -/
def NodeKind.isPiece : NodeKind → Bool
  | .leaf _ | .comment => true
  | _ => false

namespace Tree

variable {ts : TokenStream} {id pos err past : Nat} {ids : List Nat} {nodes : List Node}
  {errors : List SyntaxError}

/-- The record of a complaint at the next significant token. -/
def errorAt (ts : TokenStream) (cause : Complaint) (pos : Nat) : SyntaxError :=
  let token := ts.get (ts.nextSignificant pos)
  ⟨cause, if token.kind = .eof then none else some token.text, token.start, token.stop⟩

/--
The range of a node with the nodes `within` below it. It starts on a significant token or at the end of
input, and if it holds tokens it ends on a significant token, or with a node that holds none.
-/
structure Spans (ts : TokenStream) (pos past : Nat) (within : List Node) : Prop where
  start : (ts.kind pos).isTrivia = false
  ends : pos < past → (ts.kind (past - 1)).isTrivia = false
    ∨ ∃ n ∈ within, n.kind.isPiece = false ∧ n.first = past ∧ n.past = past

/-- Nodes come to an arena while tokens are read. -/
inductive Grows (ts : TokenStream) :
    Nat → Nat → Nat → List Nat → List Node → List SyntaxError → Nat → Prop where
  | nil (id pos err : Nat) :
    Grows ts id pos err [] [] [] pos
  | blank {id pos err past : Nat} {ids : List Nat} {nodes : List Node} {errors : List SyntaxError} :
    pos < ts.lastIndex →
    (ts.kind pos).isWhitespace = true →
    Grows ts id (pos + 1) err ids nodes errors past →
    Grows ts id pos err ids nodes errors past
  | comment {id pos err past : Nat} {ids : List Nat} {nodes : List Node}
      {errors : List SyntaxError} :
    pos < ts.lastIndex →
    (ts.kind pos).isComment = true →
    Grows ts (id + 1) (pos + 1) err ids nodes errors past →
    Grows ts id pos err (id :: ids) (⟨.comment, pos, pos + 1, []⟩ :: nodes) errors past
  | leaf {id pos err past : Nat} {ids : List Nat} {nodes : List Node} {errors : List SyntaxError}
      (role : LeafRole) :
    pos < ts.lastIndex →
    (ts.kind pos).isTrivia = false →
    Grows ts (id + 1) (pos + 1) err ids nodes errors past →
    Grows ts id pos err (id :: ids) (⟨.leaf role, pos, pos + 1, []⟩ :: nodes) errors past
  | complain {id pos err past : Nat} {ids : List Nat} {nodes : List Node}
      {errors : List SyntaxError} (cause : Complaint) :
    Grows ts id pos (err + 1) ids nodes errors past →
    Grows ts id pos err ids nodes (errorAt ts cause pos :: errors) past
  | node {id pos err mid past : Nat} {inner ids : List Nat} {within nodes : List Node}
      {errors errors' : List SyntaxError} {kind : NodeKind} :
    Grammar.Item.isConstruct kind = true →
    Spans ts pos mid within →
    Grows ts (id + 1) pos err inner within errors mid →
    Grows ts (id + 1 + within.length) mid (err + errors.length) ids nodes errors' past →
    Grows ts id pos err (id :: ids) (⟨kind, pos, mid, inner⟩ :: (within ++ nodes))
      (errors ++ errors') past
  | reject {id pos err mid past : Nat} {inner ids : List Nat} {within nodes : List Node}
      {errors : List SyntaxError} (cause : Complaint) :
    Spans ts pos mid within →
    (∀ n ∈ within, n.kind.isPiece = true) →
    Grows ts (id + 1) pos (err + 1) inner within [] mid →
    Grows ts (id + 1 + within.length) mid (err + 1) ids nodes errors past →
    Grows ts id pos err (id :: ids) (⟨.error err, pos, mid, inner⟩ :: (within ++ nodes))
      (errorAt ts cause pos :: errors) past

/-- An arena that grew can go on growing. -/
lemma Grows.append {past' : Nat} {ids' : List Nat} {nodes' : List Node} {errors' : List SyntaxError}
    (h : Grows ts id pos err ids nodes errors past)
    (h' : Grows ts (id + nodes.length) past (err + errors.length) ids' nodes' errors' past') :
    Grows ts id pos err (ids ++ ids') (nodes ++ nodes') (errors ++ errors') past' := by
  -- What follows is numbered from the end of all nodes and errors before it, in every case.
  induction h with
  | nil id pos err => exact h'
  | blank hlt hkind _ ih => exact .blank hlt hkind (ih h')
  | comment hlt hkind _ ih =>
    refine .comment hlt hkind (ih ?_)
    rwa [List.length_cons, ← Nat.add_assoc, Nat.add_right_comm] at h'
  | leaf role hlt hkind _ ih =>
    refine .leaf role hlt hkind (ih ?_)
    rwa [List.length_cons, ← Nat.add_assoc, Nat.add_right_comm] at h'
  | complain cause _ ih =>
    refine .complain cause (ih ?_)
    rwa [List.length_cons, ← Nat.add_assoc, Nat.add_right_comm] at h'
  | node hkind hspans hinner _ _ ih =>
    simp only [List.cons_append, List.append_assoc]
    refine .node hkind hspans hinner (ih ?_)
    simp only [List.length_cons, List.length_append] at h'
    convert h' using 1 <;> omega
  | reject cause hspans hpieces hinner _ _ ih =>
    simp only [List.cons_append, List.append_assoc]
    refine .reject cause hspans hpieces hinner (ih ?_)
    simp only [List.length_cons, List.length_append] at h'
    convert h' using 1 <;> omega

lemma Grows.le (h : Grows ts id pos err ids nodes errors past) : pos ≤ past := by
  induction h <;> omega

lemma Grows.le_lastIndex (h : Grows ts id pos err ids nodes errors past) (hpos : pos ≤ ts.lastIndex) :
    past ≤ ts.lastIndex := by
  induction h with
  | nil id pos err => exact hpos
  | blank hlt _ _ ih | comment hlt _ _ ih | leaf _ hlt _ _ ih => exact ih hlt
  | complain _ _ ih => exact ih hpos
  | node _ _ _ _ ih₁ ih₂ | reject _ _ _ _ _ ih₁ ih₂ => exact ih₂ (ih₁ hpos)

/-! ### The checks of an arena -/

/-- From the number `id` on, an arena holds the given nodes. -/
def Holds (arena : Array Node) (id : Nat) (nodes : List Node) : Prop :=
  ∀ i n, nodes[i]? = some n → arena[id + i]? = some n

variable {arena : Array Node}

lemma holds_cons {n : Node} :
    Holds arena id (n :: nodes) ↔ arena[id]? = some n ∧ Holds arena (id + 1) nodes := by
  constructor
  · intro h
    refine ⟨h 0 n rfl, fun i m hm => ?_⟩
    rw [Nat.add_assoc, Nat.add_comm 1]
    exact h (i + 1) m hm
  · rintro ⟨hn, h⟩ i m hm
    cases i with
    | zero =>
      obtain rfl : n = m := by simpa using hm
      exact hn
    | succ i =>
      rw [Nat.add_comm i, ← Nat.add_assoc]
      exact h i m (by simpa using hm)

lemma holds_append {nodes' : List Node} : Holds arena id (nodes ++ nodes')
    ↔ Holds arena id nodes ∧ Holds arena (id + nodes.length) nodes' := by
  induction nodes generalizing id with
  | nil => simp [Holds]
  | cons n nodes ih =>
    rw [List.cons_append, holds_cons, holds_cons, ih, List.length_cons, and_assoc,
      Nat.add_assoc, Nat.add_comm 1]

lemma holds_toArray (nodes : List Node) : Holds nodes.toArray 0 nodes := by
  intro i n h
  simpa using h

lemma checkNodes_append {xs ys : List Node} (hx : checkNodes arena xs = .ok ())
    (hy : checkNodes arena ys = .ok ()) : checkNodes arena (xs ++ ys) = .ok () := by
  induction xs with
  | nil => exact hy
  | cons n xs ih =>
    rw [List.cons_append, checkNodes]
    rw [checkNodes] at hx
    split at hx
    · exact absurd hx (by simp)
    · exact ih hx

/-- The children that an open node gets lie one after the other. -/
lemma Grows.checkChildren (h : Grows ts id pos err ids nodes errors past)
    (hholds : Holds arena id nodes) (parent : NodeKind) {low high : Nat} (hlow : low ≤ pos)
    (hhigh : past ≤ high) : checkChildren arena parent high low ids = .ok () := by
  -- The lower bound moves to the end of each child, the upper one stays that of the parent.
  induction h generalizing low with
  | nil id pos err => rfl
  | blank _ _ _ ih => exact ih hholds (by omega) hhigh
  | comment _ _ hrest ih | leaf _ _ _ hrest ih =>
    obtain ⟨hn, hholds⟩ := holds_cons.1 hholds
    have hle := hrest.le
    rw [Tree.checkChildren, hn]
    simp only
    rw [if_pos ⟨hlow, by omega⟩]
    exact ih hholds (Nat.le_refl _) hhigh
  | complain _ _ ih => exact ih hholds hlow hhigh
  | node _ _ _ hrest _ ih | reject _ _ _ _ hrest _ ih =>
    obtain ⟨hn, hholds⟩ := holds_cons.1 hholds
    have hle := hrest.le
    rw [Tree.checkChildren, hn]
    simp only
    rw [if_pos ⟨hlow, by omega⟩]
    exact ih (holds_append.1 hholds).2 (Nat.le_refl _) hhigh

/-- The nodes that come to an arena pass its checks. -/
lemma Grows.checkNodes (h : Grows ts id pos err ids nodes errors past)
    (hholds : Holds arena id nodes) : checkNodes arena nodes = .ok () := by
  induction h with
  | nil id pos err => rfl
  | blank _ _ _ ih => exact ih hholds
  | comment _ _ _ ih | leaf _ _ _ _ ih =>
    rw [Tree.checkNodes]
    exact ih (holds_cons.1 hholds).2
  | complain _ _ ih => exact ih hholds
  | node _ _ hinner _ ih₁ ih₂ | reject _ _ _ hinner _ ih₁ ih₂ =>
    obtain ⟨-, hholds⟩ := holds_cons.1 hholds
    obtain ⟨hwithin, hnodes⟩ := holds_append.1 hholds
    rw [Tree.checkNodes, hinner.checkChildren hwithin _ (Nat.le_refl _) (Nat.le_refl _)]
    exact checkNodes_append (ih₁ hwithin) (ih₂ hnodes)

end Tree
end SqlLayout
