import SqlLayout.Proofs.Tree.Formed

/-!
# Where malformed tokens go

The grammar puts a malformed token in an error node wherever it looks at the token. Two rules take a
keyword without looking: an attribute of a routine, and the words between `TABLE` and the name of a
table. What they take stands in the tree as a keyword.
-/

namespace SqlLayout
namespace Tree

variable {t : Tree} {id i : Nat}

/-- A token lies in the range of an error node, and an error is recorded. -/
def IsReported (t : Tree) (i : Nat) : Prop :=
  0 < t.errors.size
    ∧ ∃ id < t.size, (t.kind id).isError = true ∧ (t.node id).first ≤ i ∧ i < (t.node id).past

/-- A token was taken as a keyword by a clause or the definition of a table. -/
def IsTakenAsKeyword (t : Tree) (i : Nat) : Prop :=
  ∃ parent leaf, parent < t.size ∧ leaf ∈ t.children parent ∧ t.kind leaf = .leaf .keyword
    ∧ t.firstToken leaf = i ∧ (t.kind parent = .clause ∨ t.kind parent = .tableDefinition)

/-- Every token that is no whitespace is held by a node. -/
lemma IsArena.exists_holdsToken (h : t.IsArena) (hi : i < t.tokens.lastIndex)
    (hkind : (t.tokens.kind i).isWhitespace = false) :
    ∃ id, id < t.size ∧ HoldsToken t.tokens (t.node id) i := by
  have hmem : i ∈ tokensBetween t.tokens (!·.isWhitespace) 0 t.tokens.lastIndex :=
    List.mem_filter.2 ⟨by simpa using hi, by simp [hkind]⟩
  obtain ⟨n, hn, htoken⟩ : ∃ n ∈ ((List.range t.size).map t.node).filter (·.kind.isPiece),
      HoldsToken t.tokens n i := by
    obtain ⟨j, hj, rfl⟩ := List.mem_iff_getElem.1 hmem
    have hlength := h.pieces.length_eq
    exact ⟨_, List.getElem_mem _, (List.forall₂_iff_get.1 h.pieces).2 j (by omega) hj⟩
  obtain ⟨id, hid, rfl⟩ := List.mem_map.1 (List.mem_filter.1 hn).1
  exact ⟨id, List.mem_range.1 hid, htoken⟩

/-- Error nodes are there only if an error is recorded. -/
lemma errors_of_isError {source : Text} (h : parse source = .ok t) (hid : id < t.size)
    (hkind : (t.kind id).isError = true) : 0 < t.errors.size := by
  have harena := (isGrown_of_parse h).2.isArena
  have hroot : id ≠ t.root := by
    rintro rfl
    rw [harena.root_eq, harena.kind_root] at hkind
    exact absurd hkind (by decide)
  obtain ⟨parent, depth, -, -, hchild⟩ := exists_parent h hid hroot
  cases hchild with
  | piece htoken _ =>
    have hpiece : (t.kind id).isPiece = true := htoken.piece
    cases hk : t.kind id <;> simp [hk, NodeKind.isPiece, NodeKind.isError] at hpiece hkind
  | node hconstruct _ _ _ _ =>
    cases hk : t.kind id <;> simp [hk, Grammar.Item.isConstruct, NodeKind.isError] at hconstruct hkind
  | reject _ _ herrors _ => exact herrors

/--
A malformed token lies in the range of an error node, and an error is recorded, unless it was taken as a
keyword by a clause or the definition of a table.
-/
theorem malformed_token_cases {source : Text} (h : parse source = .ok t) (hi : t.tokens.kind i = .error) :
    t.IsReported i ∨ t.IsTakenAsKeyword i := by
  obtain ⟨htokens, hgrown⟩ := isGrown_of_parse h
  have harena := hgrown.isArena
  have hlt : i < t.tokens.lastIndex := by
    rw [htokens] at hi ⊢
    exact TokenStream.lt_lastIndex_of_kind hi nofun
  obtain ⟨leaf, hleaf, htoken⟩ := harena.exists_holdsToken hlt (by rw [hi]; rfl)
  have hroot : leaf ≠ t.root := by
    rintro rfl
    have hpiece : (t.kind t.root).isPiece = true := htoken.piece
    rw [harena.root_eq, harena.kind_root] at hpiece
    exact absurd hpiece (by decide)
  obtain ⟨parent, depth, hparent, hmem, hchild⟩ := exists_parent h hleaf hroot
  have hpiece : (t.kind leaf).isPiece = true := htoken.piece
  cases hchild with
  | node hconstruct _ _ _ _ =>
    rw [isPiece_of_isConstruct hconstruct] at hpiece
    exact absurd hpiece nofun
  | reject hkind _ _ _ =>
    rw [hkind] at hpiece
    exact absurd hpiece nofun
  | @piece i' htoken' htake =>
    obtain rfl : i' = i := htoken'.firstToken_eq.symm.trans htoken.firstToken_eq
    cases hk : t.kind leaf with
    | comment =>
      have hcomment := htoken.comment hk
      rw [hi] at hcomment
      exact absurd hcomment nofun
    | leaf role =>
      have htake := htake role hk
      rw [hi] at htake
      simp only [Grammar.mayTake, bne_self_eq_false, Bool.false_or, Bool.or_eq_true, Bool.and_eq_true,
        beq_iff_eq] at htake
      rcases htake with herror | ⟨rfl, hparentKind⟩
      · obtain ⟨-, hinside⟩ := harena.children hparent
        have hrange := hinside leaf hmem
        rw [htoken.node_eq] at hrange
        exact .inl ⟨errors_of_isError h hparent herror, parent, hparent, herror, hrange.1, hrange.2.2⟩
      · exact .inr ⟨parent, leaf, hparent, hmem, hk, htoken.firstToken_eq, hparentKind⟩
    | _ => simp [hk, NodeKind.isPiece] at hpiece

/-- A string that is not closed is reported where an operand is looked for. -/
theorem unclosed_operand_reported :
    ∃ t, parse "select 'abc".toList = .ok t ∧ t.tokens.kind 2 = .error ∧ t.IsReported 2 := by
  obtain ⟨t, ht, hall⟩ := exists_of_any "select 'abc".toList
    (fun t => decide (t.tokens.kind 2 = .error
      ∧ ∀ leaf < t.size, t.kind leaf = .leaf .keyword → t.firstToken leaf ≠ 2)) (by decide +kernel)
  obtain ⟨hkind, hother⟩ := of_decide_eq_true hall
  refine ⟨t, ht, hkind, (malformed_token_cases ht hkind).resolve_right ?_⟩
  rintro ⟨parent, leaf, -, hmem, hleaf, hfirst, -⟩
  obtain ⟨-, hlt⟩ := ordered_of_parse ht parent leaf hmem
  exact hother leaf hlt hleaf hfirst

/-- A string that is not closed passes for an attribute of a routine: no node and no error tell of it. -/
theorem unclosed_attribute_unreported :
    ∃ t, parse "create function f() 'abc".toList = .ok t ∧ t.errors.size = 0
      ∧ ∃ i < t.tokens.size, t.tokens.kind i = .error ∧ ¬t.IsReported i
        ∧ ∀ id < t.size, (t.kind id).isError = false := by
  obtain ⟨t, ht, hall⟩ := exists_of_any "create function f() 'abc".toList
    (fun t => decide (t.errors.size = 0 ∧ 8 < t.tokens.size ∧ t.tokens.kind 8 = .error
      ∧ ∀ id < t.size, (t.kind id).isError = false)) (by decide +kernel)
  obtain ⟨herrors, hlt, hkind, hnodes⟩ := of_decide_eq_true hall
  refine ⟨t, ht, herrors, 8, hlt, hkind, ?_, hnodes⟩
  rintro ⟨hrecorded, -⟩
  exact absurd hrecorded (by omega)

end Tree
end SqlLayout
