import SqlLayout.Proofs.Token.Tiling
import SqlLayout.Proofs.Tree.Bounds

/-!
# Error nodes and their errors

Errors are recorded while the tokens are read, so they are sorted by where they start. An error node takes
the number of the error that is recorded as it opens. Nothing but pieces comes into it and no further error
is recorded inside it, so its error is the one at its first token, and the numbers of error nodes go up in
the order of the arena.
-/

namespace SqlLayout
namespace Tree

variable {ts : TokenStream} {t : Tree} {id pos err past : Nat} {ids : List Nat} {nodes : List Node}
  {errors : List SyntaxError}

/-! ### Error nodes that come to an arena -/

lemma isError_of_isConstruct {kind : NodeKind} (h : Grammar.Item.isConstruct kind = true) :
    kind.isError = false := by
  cases kind <;> first | rfl | exact absurd h (by simp [Grammar.Item.isConstruct])

/-- What holds one token is a comment or a leaf. -/
lemma eq_of_isPiece {kind : NodeKind} (h : kind.isPiece = true) : kind = .comment ∨ ∃ role, kind = .leaf role := by
  cases kind with
  | comment => exact .inl rfl
  | leaf role => exact .inr ⟨role, rfl⟩
  | _ => simp [NodeKind.isPiece] at h

/-- The error of an error node is recorded at the first token of the node. -/
lemma Grows.error_recorded (h : Grows ts id pos err ids nodes errors past) {n : Node} (hn : n ∈ nodes)
    {i : Nat} (hkind : n.kind = .error i) :
    (ts.kind n.first).isTrivia = false
      ∧ ∃ j cause, i = err + j ∧ errors[j]? = some (errorAt ts cause n.first) := by
  -- Numbers count from the errors before the arena grew, positions in `errors` from its own first one.
  induction h with
  | nil => exact absurd hn nofun
  | blank _ _ _ ih => exact ih hn
  | comment _ _ _ ih | leaf _ _ _ _ ih =>
    rcases List.mem_cons.1 hn with rfl | hn
    · cases hkind
    · exact ih hn
  | complain cause _ ih =>
    obtain ⟨htoken, j, cause', hi, herror⟩ := ih hn
    exact ⟨htoken, j + 1, cause', by omega, herror⟩
  | @node _ _ _ _ _ _ _ _ _ _ _ kind hconstruct _ _ _ ih₁ ih₂ =>
    rcases List.mem_cons.1 hn with rfl | hn
    · obtain rfl : kind = .error i := hkind
      exact absurd (isError_of_isConstruct hconstruct) nofun
    rcases List.mem_append.1 hn with hn | hn
    · obtain ⟨htoken, j, cause, hi, herror⟩ := ih₁ hn
      refine ⟨htoken, j, cause, hi, ?_⟩
      rw [List.getElem?_append_left (List.getElem?_eq_some_iff.1 herror).1, herror]
    · obtain ⟨htoken, j, cause, hi, herror⟩ := ih₂ hn
      exact ⟨htoken, _, cause, by rw [hi, Nat.add_assoc], by rwa [List.getElem?_append_right (by omega),
        Nat.add_sub_cancel_left]⟩
  | reject cause hspans hpieces _ _ _ ih =>
    rcases List.mem_cons.1 hn with rfl | hn
    · cases hkind
      exact ⟨hspans.start, 0, cause, rfl, rfl⟩
    rcases List.mem_append.1 hn with hn | hn
    · have hpiece := hpieces _ hn
      rw [hkind] at hpiece
      exact absurd hpiece nofun
    · obtain ⟨htoken, j, cause', hi, herror⟩ := ih hn
      exact ⟨htoken, j + 1, cause', by omega, herror⟩

/-- The numbers of error nodes go up in the order of the arena. -/
lemma Grows.pairwise_errors (h : Grows ts id pos err ids nodes errors past) :
    nodes.Pairwise fun m n => ∀ i j, m.kind = .error i → n.kind = .error j → i < j := by
  induction h with
  | nil => exact .nil
  | blank _ _ _ ih => exact ih
  | complain _ _ ih => exact ih
  | comment _ _ _ ih | leaf _ _ _ _ ih => exact .cons (fun _ _ _ _ hkind => absurd hkind nofun) ih
  | @node _ _ _ _ _ _ _ _ _ _ _ kind hconstruct _ hinner hrest ih₁ ih₂ =>
    refine .cons (fun _ _ i _ hkind => ?_)
      (List.pairwise_append.2 ⟨ih₁, ih₂, fun m hm n hn i j hi hj => ?_⟩)
    · obtain rfl : kind = .error i := hkind
      exact absurd (isError_of_isConstruct hconstruct) nofun
    · obtain ⟨-, k, _, rfl, herror⟩ := hinner.error_recorded hm hi
      obtain ⟨-, l, _, rfl, -⟩ := hrest.error_recorded hn hj
      have hk := (List.getElem?_eq_some_iff.1 herror).1
      omega
  | reject cause _ hpieces _ hrest ih₁ ih₂ =>
    have hnone {m : Node} {i : Nat} (hkind : m.kind = .error i) : m.kind.isPiece = false :=
      congrArg NodeKind.isPiece hkind
    refine .cons (fun n hn i j hi hj => ?_)
      (List.pairwise_append.2 ⟨ih₁, ih₂, fun m hm _ _ _ _ hi _ => ?_⟩)
    · rcases List.mem_append.1 hn with hn | hn
      · exact absurd (hpieces n hn) (by simp [hnone hj])
      · obtain ⟨-, l, _, rfl, -⟩ := hrest.error_recorded hn hj
        cases hi
        omega
    · exact absurd (hpieces m hm) (by simp [hnone hi])

/-! ### The order of errors -/

/-- Errors that start one after the other, between the next significant tokens at `pos` and at `past`. -/
def Sorted (ts : TokenStream) (pos past : Nat) (errors : List SyntaxError) : Prop :=
  errors.Pairwise (fun e e' => e.start ≤ e'.start)
    ∧ ∀ e ∈ errors, (ts.get (ts.nextSignificant pos)).start ≤ e.start
      ∧ e.start ≤ (ts.get (ts.nextSignificant past)).start

section

variable {source : Text} {errors' : List SyntaxError} {mid : Nat}

lemma start_nextSignificant_mono {i j : Nat} (h : i ≤ j) :
    ((TokenStream.ofText source).get ((TokenStream.ofText source).nextSignificant i)).start
      ≤ ((TokenStream.ofText source).get ((TokenStream.ofText source).nextSignificant j)).start :=
  TokenStream.start_mono source (TokenStream.nextSignificant_mono _ h)

lemma Sorted.mono_left (h : Sorted (.ofText source) mid past errors) (hle : pos ≤ mid) :
    Sorted (.ofText source) pos past errors :=
  ⟨h.1, fun e he => ⟨le_trans (start_nextSignificant_mono hle) (h.2 e he).1, (h.2 e he).2⟩⟩

/-- An error at a place stands before the errors of what is read from there on. -/
lemma Sorted.cons (h : Sorted (.ofText source) pos past errors) (cause : Complaint) (hle : pos ≤ past) :
    Sorted (.ofText source) pos past (errorAt (.ofText source) cause pos :: errors) := by
  refine ⟨.cons (fun e he => (h.2 e he).1) h.1, fun e he => ?_⟩
  rcases List.mem_cons.1 he with rfl | he
  · exact ⟨le_refl _, start_nextSignificant_mono hle⟩
  · exact h.2 e he

lemma Sorted.append (h : Sorted (.ofText source) pos mid errors)
    (h' : Sorted (.ofText source) mid past errors') (hpos : pos ≤ mid) (hpast : mid ≤ past) :
    Sorted (.ofText source) pos past (errors ++ errors') := by
  refine ⟨List.pairwise_append.2 ⟨h.1, h'.1, fun e he e' he' => ?_⟩, fun e he => ?_⟩
  · exact le_trans (h.2 e he).2 (h'.2 e' he').1
  rcases List.mem_append.1 he with he | he
  · exact ⟨(h.2 e he).1, le_trans (h.2 e he).2 (start_nextSignificant_mono hpast)⟩
  · exact (h'.mono_left hpos).2 e he

/-- Errors are recorded at tokens that are read one after the other. -/
lemma Grows.sorted (h : Grows (.ofText source) id pos err ids nodes errors past) :
    Sorted (.ofText source) pos past errors := by
  induction h with
  | nil => exact ⟨.nil, nofun⟩
  | blank _ _ _ ih | comment _ _ _ ih | leaf _ _ _ _ ih => exact ih.mono_left (Nat.le_succ _)
  | complain cause hrest ih => exact ih.cons cause hrest.le
  | node _ _ hinner hrest ih₁ ih₂ => exact ih₁.append ih₂ hinner.le hrest.le
  | reject cause _ _ hinner hrest _ ih =>
    exact (ih.mono_left hinner.le).cons cause (le_trans hinner.le hrest.le)

end

/-! ### The tree of a source -/

/-- A node whose first token is significant starts on it. -/
lemma firstToken_of_not_isTrivia (h : (t.tokens.kind (t.node id).first).isTrivia = false) :
    t.firstToken id = (t.node id).first := by
  rw [firstToken]
  cases (t.node id).past - (t.node id).first with
  | zero => rfl
  | succ n => rw [TokenStream.findForward, isWhitespace_of_not_isTrivia h]; rfl

/-- The children of an error node are pieces. -/
lemma isPiece_of_mem_error {source : Text} (h : parse source = .ok t) {i : Nat} (hkind : t.kind id = .error i)
    {child : Nat} (hchild : child ∈ t.children id) : (t.kind child).isPiece = true := by
  have hroot : t.kind id ≠ .root := by simp [hkind]
  obtain ⟨-, hgrown⟩ := isGrown_of_parse h
  obtain ⟨within, hencloses⟩ := hgrown.encloses (hgrown.isArena.pos_of_kind hroot) (lt_size_of_kind hroot)
    (by rw [hkind]; rfl)
  obtain ⟨_, _, -, hinner⟩ := hencloses.grows
  obtain hconstruct | ⟨-, hpieces⟩ := hencloses.kind
  · rw [show (t.node id).kind = .error i from hkind] at hconstruct
    simp [Grammar.Item.isConstruct] at hconstruct
  · exact hpieces _ (hinner.node_of_mem_ids hencloses.holds hchild).2

/--
Each error node has its own error, which covers the first token of the node, and the numbers of the errors
go up in the order of the nodes; only leaves and comments are in an error node; and the errors are sorted by
where they start.
-/
theorem error_nodes_match_errors {source : Text} (h : parse source = .ok t) :
    (∀ id i, t.kind id = .error i →
        (∃ e, t.errors[i]? = some e ∧ e.start = (t.tokens.get (t.firstToken id)).start
          ∧ e.stop = (t.tokens.get (t.firstToken id)).stop)
        ∧ ∀ child ∈ t.children id, t.kind child = .comment ∨ ∃ role, t.kind child = .leaf role)
      ∧ (∀ id id' i i', id < id' → t.kind id = .error i → t.kind id' = .error i' → i < i')
      ∧ t.errors.toList.Pairwise fun e e' => e.start ≤ e'.start := by
  obtain ⟨htokens, -, ids, nodes, hgrows, hnodes⟩ := isGrown_of_parse h
  have harena : t.nodes = (⟨.root, 0, t.tokens.size, ids⟩ :: nodes).toArray := by rw [← hnodes]
  have hnode {id i : Nat} (hkind : t.kind id = .error i) :
      ∃ j, id = j + 1 ∧ nodes[j]? = some (t.node id) := by
    obtain ⟨-, hroot⟩ | hother | ⟨hge, -⟩ := node_of_arena harena id
    · rw [kind, hroot] at hkind
      simp at hkind
    · exact hother
    · simp [kind_of_le hge] at hkind
  refine ⟨fun id i hkind => ⟨?_, fun child hchild => ?_⟩, fun id id' i i' hlt hi hi' => ?_, ?_⟩
  · obtain ⟨j, -, hn⟩ := hnode hkind
    obtain ⟨htoken, k, cause, rfl, herror⟩ := hgrows.error_recorded (List.mem_of_getElem? hn) hkind
    refine ⟨errorAt t.tokens cause (t.node id).first, ?_, ?_, ?_⟩
    · rw [Nat.zero_add, ← Array.getElem?_toList]
      exact herror
    · rw [firstToken_of_not_isTrivia htoken, errorAt, TokenStream.nextSignificant_of_not_isTrivia htoken]
    · rw [firstToken_of_not_isTrivia htoken, errorAt, TokenStream.nextSignificant_of_not_isTrivia htoken]
  · exact eq_of_isPiece (isPiece_of_mem_error h hkind hchild)
  · obtain ⟨j, rfl, hn⟩ := hnode hi
    obtain ⟨j', rfl, hn'⟩ := hnode hi'
    obtain ⟨hj, hn⟩ := List.getElem?_eq_some_iff.1 hn
    obtain ⟨hj', hn'⟩ := List.getElem?_eq_some_iff.1 hn'
    have hpair := List.pairwise_iff_getElem.1 hgrows.pairwise_errors j j' hj hj' (by omega) i i'
    rw [hn, hn'] at hpair
    exact hpair hi hi'
  · rw [htokens] at hgrows
    exact hgrows.sorted.1

/-- An open bracket between two that close nothing: its error, the second one, has no node. -/
theorem second_error_without_node :
    ∃ t, parse "select ) a ( ; )".toList = .ok t ∧ t.errors.size = 3
      ∧ ∃ id, t.kind id = .error 2 ∧ ∃ e, t.errors[2]? = some e
        ∧ e.start = (t.tokens.get (t.firstToken id)).start := by
  obtain ⟨t, ht, hall⟩ := exists_of_any "select ) a ( ; )".toList
    (fun t => decide (t.errors.size = 3 ∧ ∃ id < t.size, t.kind id = .error 2)) (by decide +kernel)
  obtain ⟨hsize, id, -, hkind⟩ := of_decide_eq_true hall
  obtain ⟨⟨e, he, hstart, -⟩, -⟩ := (error_nodes_match_errors ht).1 id 2 hkind
  exact ⟨t, ht, hsize, id, hkind, e, he, hstart⟩

end Tree
end SqlLayout
