import Mathlib.Data.List.Nodup
import SqlLayout.Proofs.Token.BlockLevels
import SqlLayout.Proofs.Tree.Errors
import SqlLayout.Proofs.Tree.Formed

/-!
# Block levels around nodes

`CASE` and its `END` are found by the grammar, the levels of tokens by their kinds alone. A node keeps step
with the levels if the leaf that opens a block in it raises the level and no other of its leaves than the one
that closes the block lowers it. What is in step never lowers the level as a whole.

The `END` of a `CASE` statement is looked for by its level, so the level after such a statement is never
above the one that `blockLevelAfter` gives. It is that level where the statement is in step. For this it is
enough that its words match, so that none of its columns, say, has the name `end`. A statement without branches
need not have an `END`, and nothing is said of the level after it.
-/

namespace SqlLayout
namespace Tree

variable {t : Tree} {source : Text} {id pos err past : Nat} {ids : List Nat} {nodes : List Node}
  {errors : List SyntaxError}

/-! ### Nodes in step -/

/-- The leaf that opens the block of a node: `BEGIN` or `CASE`. -/
def opener? (t : Tree) (id : Nat) : Option Nat :=
  match t.kind id with
  | .block => (t.children id).find? (t.isLeafOf · (.keyword .BEGIN))
  | .caseOf | .caseStatement => (t.children id).find? (t.isLeafOf · (.keyword .CASE))
  | _ => none

/-- The leaf that closes the block of a node. -/
def closer? (t : Tree) (id : Nat) : Option Nat :=
  if (t.opener? id).isSome then (t.children id).find? (t.isLeafOf · (.keyword .END)) else none

/-- Whether the level after the first token of a node is above the one before it. -/
def Raises (t : Tree) (id : Nat) : Prop :=
  t.tokens.levelBefore (t.firstToken id) < (t.tokens.get (t.firstToken id)).blockLevel

/-- Whether the level after the first token of a node is below the one before it. -/
def Lowers (t : Tree) (id : Nat) : Prop :=
  (t.tokens.get (t.firstToken id)).blockLevel < t.tokens.levelBefore (t.firstToken id)

instance (t : Tree) (id : Nat) : Decidable (t.Raises id) := inferInstanceAs (Decidable (_ < _))

instance (t : Tree) (id : Nat) : Decidable (t.Lowers id) := inferInstanceAs (Decidable (_ < _))

/-- The leaf that opens the block of a node raises the level, and only the one that closes it lowers it. -/
def KeepsStep (t : Tree) (id : Nat) : Prop :=
  (∀ leaf ∈ t.opener? id, t.Raises leaf)
    ∧ ∀ leaf ∈ t.children id, (t.kind leaf).isPiece = true → t.Lowers leaf → t.closer? id = some leaf

instance (t : Tree) (id : Nat) : Decidable (t.KeepsStep id) := inferInstanceAs (Decidable (_ ∧ _))

/-- A node and all that is below it keeps step with the levels. -/
def InStep (t : Tree) (id : Nat) : Prop :=
  ∀ node ∈ t.preorder id, t.KeepsStep node

instance (t : Tree) (id : Nat) : Decidable (t.InStep id) := inferInstanceAs (Decidable (∀ _ ∈ _, _))

lemma isLeafKind_of_isLeafOf {kind : TokenKind} (h : t.isLeafOf id kind = true) :
    isLeafKind (t.kind id) = true := by
  unfold isLeafOf at h
  split at h
  · next hkind => rw [hkind]; rfl
  · exact absurd h nofun

/-- What opens a block is a leaf and one of the children. -/
lemma opener?_spec (h : t.opener? id = some child) :
    child ∈ t.children id ∧ isLeafKind (t.kind child) = true := by
  have of_find {wanted : TokenKind} (h : (t.children id).find? (t.isLeafOf · wanted) = some child) :
      child ∈ t.children id ∧ isLeafKind (t.kind child) = true :=
    ⟨List.mem_of_find?_eq_some h, isLeafKind_of_isLeafOf (List.find?_some (p := (t.isLeafOf · wanted)) h)⟩
  unfold opener? at h
  split at h
  · exact of_find h
  · exact of_find h
  · exact of_find h
  · exact absurd h nofun

/-- Among the children of a node no more close a block than open one. -/
lemma count_closer_le (hnodup : (t.children id).Nodup) :
    (t.children id).countP (some · == t.closer? id) ≤ (t.children id).countP (some · == t.opener? id) := by
  cases hopener : t.opener? id with
  | none =>
    rw [closer?, hopener, List.countP_eq_zero.2 (by simp)]
    exact Nat.zero_le _
  | some opener =>
    have hmem := (opener?_spec hopener).1
    refine Nat.le_trans ?_ (List.countP_pos_iff.2 ⟨opener, hmem, beq_self_eq_true _⟩)
    cases t.closer? id with
    | none => simp
    | some closer =>
      have hcount := List.nodup_iff_count_le_one.1 hnodup closer
      rw [List.count_eq_countP] at hcount
      simpa using hcount

lemma KeepsStep.of_opener (h : t.KeepsStep id) {leaf : Nat} (hleaf : (some leaf == t.opener? id) = true) :
    isLeafKind (t.kind leaf) = true ∧ t.Raises leaf := by
  have hopener := (beq_iff_eq.1 hleaf).symm
  exact ⟨(opener?_spec hopener).2, h.1 leaf hopener⟩

lemma KeepsStep.closer_of_lowers (h : t.KeepsStep id) {leaf : Nat} (hleaf : leaf ∈ t.children id)
    (hpiece : (t.kind leaf).isPiece = true) (hlowers : t.Lowers leaf) : (some leaf == t.closer? id) = true :=
  beq_iff_eq.2 (h.2 leaf hleaf hpiece hlowers).symm

/-! ### Words -/

/--
The words of a node are what the levels take them for: the one that opens its block opens one for the levels
too, and an `END` among its leaves that ends neither an `IF` nor a `LOOP` closes that block.
-/
def WordsMatch (t : Tree) (id : Nat) : Prop :=
  (∀ leaf ∈ t.opener? id, Level.opensBlock (t.tokens.previousKind? (t.firstToken leaf)) (t.tokenKind leaf)
      (t.tokens.nextKind? (t.firstToken leaf)) = true)
    ∧ ∀ leaf ∈ t.children id, (t.kind leaf).isPiece = true → t.tokenKind leaf = .keyword .END →
      Level.followsInnerEnd (t.tokens.nextKind? (t.firstToken leaf)) = true ∨ t.closer? id = some leaf

instance (t : Tree) (id : Nat) : Decidable (t.WordsMatch id) := inferInstanceAs (Decidable (_ ∧ _))

lemma firstToken_lt_of_isPiece (h : parse source = .ok t) {leaf : Nat} (hleaf : leaf ∈ t.children id)
    (hpiece : (t.kind leaf).isPiece = true) : t.firstToken leaf < t.tokens.lastIndex := by
  obtain ⟨hlt, hsize⟩ := ordered_of_parse h id leaf hleaf
  have hroot : leaf ≠ t.root := by
    rw [(isGrown_of_parse h).2.isArena.root_eq]
    exact Nat.ne_of_gt (Nat.zero_lt_of_lt hlt)
  obtain ⟨parent, depth, -, -, hchild⟩ := exists_parent h hsize hroot
  cases hchild with
  | piece htoken _ =>
    rw [htoken.firstToken_eq]
    exact htoken.lt
  | node hconstruct _ _ _ _ =>
    rw [isPiece_of_isConstruct hconstruct] at hpiece
    exact absurd hpiece Bool.false_ne_true
  | reject hkind _ _ _ =>
    rw [hkind] at hpiece
    exact absurd hpiece Bool.false_ne_true

lemma WordsMatch.keepsStep (h : parse source = .ok t) (hwords : t.WordsMatch id) : t.KeepsStep id := by
  have htokens := (isGrown_of_parse h).1
  obtain ⟨hopens, hends⟩ := hwords
  constructor
  · intro leaf hleaf
    obtain ⟨hmem, hkind⟩ := opener?_spec hleaf
    have hpiece : (t.kind leaf).isPiece = true := by
      by_contra hpiece
      rw [isLeafKind_of_not_isPiece _ (eq_false_of_ne_true hpiece)] at hkind
      exact absurd hkind Bool.false_ne_true
    have hlt := firstToken_lt_of_isPiece h hmem hpiece
    have hopens := hopens leaf hleaf
    rw [Raises]
    rw [tokenKind] at hopens
    rw [htokens] at hlt hopens ⊢
    exact TokenStream.lt_blockLevel_of_opensBlock hlt hopens
  · intro leaf hleaf hpiece hlowers
    have hlt := firstToken_lt_of_isPiece h hleaf hpiece
    rw [Lowers, htokens] at hlowers
    rw [htokens] at hlt
    obtain ⟨hend, hinner⟩ := TokenStream.end_of_blockLevel_lt hlt hlowers
    refine (hends leaf hleaf hpiece ?_).resolve_left ?_
    · rw [tokenKind, htokens]
      exact hend
    · rw [htokens, hinner]
      exact Bool.false_ne_true

/-- A node is in step if the words of all nodes below it match. -/
theorem inStep_of_wordsMatch (h : parse source = .ok t) (hwords : ∀ node ∈ t.preorder id, t.WordsMatch node) :
    t.InStep id :=
  fun node hnode => (hwords node hnode).keepsStep h

/-! ### Levels over growing nodes -/

section

variable {opens closes : Nat → Bool}

/-- What one leaf or comment of a node in step makes of the level before it. -/
lemma levelBefore_le_of_piece {token : Nat} (hfirst : t.firstToken id = token)
    (hbounds : t.tokens.levelBefore token ≤ (t.tokens.get token).blockLevel + 1)
    (hopens : opens id = true → t.Raises id) (hcloses : t.Lowers id → closes id = true) :
    t.tokens.levelBefore token + (if opens id then 1 else 0)
      ≤ t.tokens.levelBefore (token + 1) + if closes id then 1 else 0 := by
  change _ ≤ (t.tokens.get token).blockLevel + _
  rw [Raises, hfirst] at hopens
  rw [Lowers, hfirst] at hcloses
  cases ho : opens id with
  | true =>
    have hraises := hopens ho
    rw [if_pos rfl]
    omega
  | false =>
    rw [if_neg Bool.false_ne_true]
    rcases Nat.lt_or_ge (t.tokens.get token).blockLevel (t.tokens.levelBefore token) with hlt | hge
    · rw [if_pos (hcloses hlt)]
      exact hbounds
    · omega

/--
The level does not go down while nodes in step come to an arena, apart from leaves that close the block of the
node around them, and it goes up at leaves that open one.
-/
lemma Grows.levelBefore_le (htokens : t.tokens = .ofText source)
    (h : Grows t.tokens id pos err ids nodes errors past) (hnone : errors = []) (hholds : Holds t.nodes id nodes)
    (hstep : ∀ node, id ≤ node → node < id + nodes.length → t.KeepsStep node)
    (hopens : ∀ leaf, opens leaf = true → isLeafKind (t.kind leaf) = true ∧ t.Raises leaf)
    (hcloses : ∀ leaf ∈ ids, (t.kind leaf).isPiece = true → t.Lowers leaf → closes leaf = true) :
    t.tokens.levelBefore pos + ids.countP opens ≤ t.tokens.levelBefore past + ids.countP closes := by
  have bounds {token : Nat} (hlt : token < t.tokens.lastIndex) :
      t.tokens.levelBefore token ≤ (t.tokens.get token).blockLevel + 1 := by
    rw [htokens] at hlt ⊢
    exact (TokenStream.blockLevel_bounds hlt).2
  have trivia {token : Nat} (hlt : token < t.tokens.lastIndex) (htrivia : (t.tokens.kind token).isTrivia = true) :
      t.tokens.levelBefore (token + 1) = t.tokens.levelBefore token := by
    rw [htokens] at hlt htrivia ⊢
    exact TokenStream.blockLevel_of_isTrivia hlt htrivia
  induction h generalizing opens closes with
  | nil => exact Nat.le_refl _
  | blank hlt hkind _ ih =>
    rw [← trivia hlt (by simp [TokenKind.isTrivia, hkind])]
    exact ih hnone hholds hstep hopens hcloses
  | comment hlt hkind _ ih =>
    obtain ⟨hn, hholds⟩ := holds_cons.1 hholds
    obtain ⟨hkind, htoken⟩ := holdsToken_comment hn hlt hkind
    have hpiece := levelBefore_le_of_piece htoken.firstToken_eq (bounds hlt) (fun ho => (hopens _ ho).2)
      (hcloses _ List.mem_cons_self (by rw [hkind]; rfl))
    have hrest := ih hnone hholds (fun node hle hlt => hstep node (by omega) (by rw [List.length_cons]; omega))
      hopens fun leaf hleaf => hcloses leaf (List.mem_cons_of_mem _ hleaf)
    rw [List.countP_cons, List.countP_cons]
    omega
  | leaf role hlt hkind _ ih =>
    obtain ⟨hn, hholds⟩ := holds_cons.1 hholds
    obtain ⟨hkind, htoken⟩ := holdsToken_leaf hn hlt hkind
    have hpiece := levelBefore_le_of_piece htoken.firstToken_eq (bounds hlt) (fun ho => (hopens _ ho).2)
      (hcloses _ List.mem_cons_self (by rw [hkind]; rfl))
    have hrest := ih hnone hholds (fun node hle hlt => hstep node (by omega) (by rw [List.length_cons]; omega))
      hopens fun leaf hleaf => hcloses leaf (List.mem_cons_of_mem _ hleaf)
    rw [List.countP_cons, List.countP_cons]
    omega
  | complain | reject => exact absurd hnone (List.cons_ne_nil _ _)
  | @node id _ _ mid _ inner _ within nodes _ _ _ hconstruct _ hinner _ ih₁ ih₂ =>
    obtain ⟨hn, hholds⟩ := holds_cons.1 hholds
    obtain ⟨hwithin, hnodes⟩ := holds_append.1 hholds
    obtain ⟨hnone₁, hnone₂⟩ := List.append_eq_nil_iff.1 hnone
    have hlength : (within ++ nodes).length = within.length + nodes.length := List.length_append
    rw [List.length_cons, hlength] at hstep
    have hkind := kind_eq_of_holds hn
    have hchildren : t.children id = inner := by rw [Tree.children, node_eq_of_holds hn]
    have hkeeps := hstep id (Nat.le_refl _) (by omega)
    -- Inside the node the leaf that closes its block makes up for the one that opens it.
    have hnodup : (t.children id).Nodup := hchildren ▸ hinner.nodup_ids
    have hcount := count_closer_le hnodup
    rw [hchildren] at hcount
    have hlevel := ih₁ hnone₁ hwithin (fun node hle hlt => hstep node (by omega) (by omega))
      (fun _ => hkeeps.of_opener) (fun _ hleaf => hkeeps.closer_of_lowers (hchildren ▸ hleaf))
    have hrest := ih₂ hnone₂ hnodes (fun node hle hlt => hstep node (by omega) (by omega)) hopens
      fun leaf hleaf => hcloses leaf (List.mem_cons_of_mem _ hleaf)
    have hnot : opens id = false := by
      cases ho : opens id with
      | false => rfl
      | true =>
        have hleaf := (hopens id ho).1
        rw [hkind, isLeafKind_of_not_isPiece _ (isPiece_of_isConstruct hconstruct)] at hleaf
        exact absurd hleaf Bool.false_ne_true
    rw [List.countP_cons, List.countP_cons, hnot, if_neg Bool.false_ne_true]
    omega

end

/-! ### The tree of a source -/

/-- A node in step does not lower the level as a whole. -/
lemma InStep.levelBefore_le (h : parse source = .ok t) (hnone : t.errors.size = 0) (hid : 0 < id)
    (hlt : id < t.size) (hpiece : (t.kind id).isPiece = false) (hstep : t.InStep id) :
    t.tokens.levelBefore (t.node id).first ≤ t.tokens.levelBefore (t.node id).past := by
  obtain ⟨htokens, hgrown⟩ := isGrown_of_parse h
  obtain ⟨within, hencloses⟩ := hgrown.encloses hid hlt hpiece
  obtain ⟨err, errors, herrors, hinner⟩ := hencloses.grows
  rw [List.length_eq_zero_iff.1 hnone] at herrors
  rw [InStep, hencloses.preorder_eq hgrown.ordered] at hstep
  have hkeeps := hstep id (List.mem_range'_1.2 (by omega))
  have hlevel := hinner.levelBefore_le htokens (List.subset_nil.1 herrors) hencloses.holds
    (fun node hle hlt => hstep node (List.mem_range'_1.2 (by omega))) (fun _ => hkeeps.of_opener)
    (fun _ => hkeeps.closer_of_lowers)
  have hcount := count_closer_le hinner.nodup_ids
  rw [children] at hcount
  omega

/-- Behind a node that starts on a significant token the level is that of the last token of the node. -/
lemma blockLevel_lastToken (h : parse source = .ok t)
    (hstart : (t.tokens.kind (t.node id).first).isTrivia = false)
    (hlt : (t.node id).first < (t.node id).past) (hpast : (t.node id).past ≤ t.tokens.lastIndex) :
    (t.tokens.get (t.lastToken id)).blockLevel = t.tokens.levelBefore (t.node id).past := by
  have htokens := (isGrown_of_parse h).1
  have hwhite := isWhitespace_of_not_isTrivia hstart
  rw [htokens] at hwhite hpast
  obtain ⟨last, hlast, hle, hlevel⟩ := TokenStream.exists_findBackward hwhite hlt hpast
  have htoken : t.lastToken id = last := by
    rw [lastToken, htokens]
    simp only [hlast]
    exact Nat.max_eq_left hle
  rw [htoken, htokens, hlevel]

/--
The block level after the last token of a `CASE` statement with branches is not above the one that is given for
the statement, and is that one where the statement is in step.
-/
theorem blockLevel_after_caseStatement (h : parse source = .ok t) (hnone : t.errors.size = 0)
    (hkind : t.kind id = .caseStatement) (hbranch : ∃ child ∈ t.children id, t.isBranch child = true) :
    (t.tokens.get (t.lastToken id)).blockLevel ≤ t.blockLevelAfter id
      ∧ (t.InStep id → t.blockLevelAfter id = (t.tokens.get (t.lastToken id)).blockLevel) := by
  obtain ⟨htokens, hgrown⟩ := isGrown_of_parse h
  have hroot : t.kind id ≠ .root := by simp [hkind]
  have hlt := lt_size_of_kind hroot
  have hid := (isGrown_of_parse h).2.isArena.pos_of_kind hroot
  have hpiece : (t.kind id).isPiece = false := by rw [hkind]; rfl
  have hpast := hgrown.past_le hid hlt
  obtain ⟨within, hencloses⟩ := hgrown.encloses hid hlt hpiece
  have hstart := hencloses.spans.start
  have hframed : t.Framed id := framed_of_parse h (by rw [hkind]; rfl) hroot (by simp [hkind])
  obtain ⟨first, read, last, tail, hread, hcase, hend, hclosed, htail⟩ := hframed.closed hkind hnone hbranch
  have hempty : (t.node id).first < (t.node id).past := by
    by_contra hge
    have hle : (t.tokens.significantFrom (t.node id).first).length
        ≤ (t.tokens.significantFrom (t.node id).past).length :=
      Grammar.length_significantFrom_le (Nat.le_of_not_lt hge)
    rw [hread] at hle
    simp only [List.length_cons, List.length_append] at hle
    omega
  have hlast := blockLevel_lastToken h hstart hempty hpast
  have hc : t.tokens.Closed := htokens ▸ TokenStream.closed_ofText source
  obtain ⟨hfirst, hfirstLt, hafter⟩ := hc.of_significantFrom_eq_cons hread
  rw [TokenStream.nextSignificant_of_not_isTrivia hstart] at hfirst
  obtain ⟨hlastLt, hrest⟩ := hc.of_significantFrom_eq_append hafter
  have hafterEnd : t.tokens.levelBefore (t.node id).past = (t.tokens.get last).blockLevel := by
    rw [htokens] at hend hlastLt hpast hrest htail ⊢
    exact TokenStream.levelBefore_of_endCase hend hlastLt hpast hrest htail
  have hafterCase : t.blockLevelAfter id = t.tokens.levelOutside first := by
    rw [blockLevelAfter, hkind, firstToken_of_not_isTrivia hstart, hfirst]
  have hbefore : t.tokens.levelOutside first ≤ t.tokens.levelBefore first := by
    rw [htokens] at hfirstLt hcase ⊢
    exact TokenStream.levelOutside_le hfirstLt hcase
  rw [hafterCase, hlast, hafterEnd]
  refine ⟨hclosed, fun hstep => Nat.le_antisymm ?_ hclosed⟩
  have hkept := hstep.levelBefore_le h hnone hid hlt hpiece
  rw [← hafterEnd]
  rw [← hfirst] at hkept
  exact Nat.le_trans hbefore hkept

/-- The words of a block and of a `CASE` expression in the branches of a `CASE` statement match. -/
theorem blockLevel_after_case_of_blocks :
    ∃ t, parse "do $$begin case x when 1 then begin a; end; else b := case when c then d end; end case; end $$".toList
        = .ok t
      ∧ ∃ id, t.kind id = .caseStatement ∧ t.InStep id
        ∧ t.blockLevelAfter id = (t.tokens.get (t.lastToken id)).blockLevel := by
  obtain ⟨t, ht, hcase⟩ := exists_of_any
    "do $$begin case x when 1 then begin a; end; else b := case when c then d end; end case; end $$".toList
    (fun t => decide (t.errors.size = 0 ∧ t.kind 9 = .caseStatement
      ∧ (∃ child ∈ t.children 9, t.isBranch child = true) ∧ ∀ node ∈ t.preorder 9, t.WordsMatch node))
    (by decide +kernel)
  obtain ⟨hnone, hkind, hbranch, hwords⟩ := of_decide_eq_true hcase
  have hstep := inStep_of_wordsMatch ht hwords
  exact ⟨t, ht, 9, hkind, hstep, (blockLevel_after_caseStatement ht hnone hkind hbranch).2 hstep⟩

/-- A column with the name `end` lowers the level inside a `CASE` statement, and with it the level after it. -/
theorem level_lowered_by_column :
    ∃ t, parse "do $$begin case x when 1 then a := b.end; end case; end $$".toList = .ok t ∧ t.errors.size = 0
      ∧ (∀ i < t.tokens.size, t.tokens.kind i ≠ .error)
      ∧ ∃ id, t.kind id = .caseStatement
        ∧ t.blockLevelAfter id ≠ (t.tokens.get (t.lastToken id)).blockLevel := by
  obtain ⟨t, ht, hcase⟩ := exists_of_any "do $$begin case x when 1 then a := b.end; end case; end $$".toList
    (fun t => decide (t.errors.size = 0 ∧ (∀ i < t.tokens.size, t.tokens.kind i ≠ .error)
      ∧ t.kind 9 = .caseStatement ∧ t.blockLevelAfter 9 ≠ (t.tokens.get (t.lastToken 9)).blockLevel))
    (by decide +kernel)
  obtain ⟨hnone, herror, hkind, hlevel⟩ := of_decide_eq_true hcase
  exact ⟨t, ht, hnone, herror, 9, hkind, hlevel⟩

end Tree
end SqlLayout
