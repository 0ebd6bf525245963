import SqlLayout.Proofs.Content
import SqlLayout.Proofs.Layout.Format

/-!
# Formatted texts apart from blanks

The characters of a layout that are not blank, its ink, are those of the leaves of its node, in order,
wherever commas stand and whatever is taken from the cache. So the place of commas changes only blanks,
provided that each comma of a declaration list comes before a declaration: others are held back for a
declaration and get lost if commas start lines. A piece that is taken from the cache and moved keeps the gaps
that it had, which need not be those of a new layout.
-/

namespace SqlLayout

/-- The characters of a text that are not blank. -/
def Text.ink (t : Text) : Text :=
  t.filter fun c => !Text.isBlank c

/-- The policy with commas on the given side of line breaks. -/
def Policy.withComma (policy : Policy) (comma : CommaPosition) : Policy :=
  { policy with lists.comma := comma }

namespace Sheet

/-- The ink of the leaves below a node. -/
def inkOf (sh : Sheet) (id : Nat) : Text :=
  (sh.content id).leaves.flatMap fun leaf => (sh.pieceText leaf).ink

/-- A call for the layout of a node. -/
structure Call where
  node : Nat
  context : Context
  column : Nat

/-- The texts of layouts that are made one after the other with one cache. -/
def texts (sh : Sheet) (calls : List Call) : Layout (List Text) :=
  calls.mapM fun call => return (← sh.render call.node call.context call.column).text

variable {sh : Sheet} {t : Text} {ids : List Nat} {d : Bool} {id : Nat}

/-! ### The ink of written texts -/

lemma ink_append (t u : Text) : Text.ink (t ++ u) = Text.ink t ++ Text.ink u :=
  List.filter_append t u

/-- Gaps leave no ink. -/
lemma Written.ink (h : Written sh t ids d) : t.ink = ids.flatMap fun id => (sh.pieceText id).ink := by
  induction h with
  | nil => rfl
  | space _ ih =>
    rw [ink_append, ih]
    exact List.append_nil _
  | feed _ ih =>
    rw [ink_append, ih]
    exact List.append_nil _
  | piece _ _ ih => rw [ink_append, ih, List.flatMap_append, List.flatMap_singleton]

lemma Written.filter_isLeaf (h : Written sh t ids d) (hbare : ∀ i, sh.isComment i = false) :
    ids.filter sh.isLeaf = ids := by
  rw [List.filter_eq_self]
  induction h with
  | nil => nofun
  | space _ ih => exact ih
  | feed _ ih => exact ih
  | @piece _ _ i hsolid _ ih =>
    refine List.forall_mem_append.2 ⟨ih, List.forall_mem_singleton.2 ?_⟩
    exact (isLeaf_or_isComment_of_solid hsolid).resolve_right (by simp [hbare i])

/-- Without comments, the ink of a text that shows a node is that of its leaves. -/
lemma Written.ink_eq_inkOf (h : Written sh t ids d) (hbare : ∀ i, sh.isComment i = false)
    (hparts : sh.partsOf ids = sh.content id) : t.ink = sh.inkOf id := by
  have hleaves : ids.filter sh.isLeaf = (sh.content id).leaves := congrArg Parts.leaves hparts
  rw [h.filter_isLeaf hbare] at hleaves
  rw [h.ink, inkOf, hleaves]

lemma isComment_eq_false (hfaithful : sh.tree.Faithful)
    (hbare : ∀ token ∈ sh.tree.tokens.tokens, token.kind.isComment = false) (id : Nat) :
    sh.isComment id = false := by
  rw [isComment, beq_eq_false_iff_ne]
  intro hkind
  rcases Nat.lt_or_ge id sh.tree.size with hid | hid
  · have hcomment := (hfaithful.comment hid hkind).2
    rw [TokenStream.kind, hbare _ (TokenStream.get_mem_tokens _ _)] at hcomment
    exact absurd hcomment Bool.false_ne_true
  · rw [Tree.kind_of_le hid] at hkind
    exact absurd hkind (by simp)

/-! ### The ink of layouts -/

section

variable (hsh : sh.Clean) (hbare : ∀ token ∈ sh.tree.tokens.tokens, token.kind.isComment = false)

include hsh hbare

lemma ink_finish {piece : Piece} (h : Shown sh piece (sh.content id)) :
    (sh.finish piece).ink = sh.inkOf id := by
  obtain ⟨ids, d, hw, hparts⟩ := h.finish
  exact hw.ink_eq_inkOf (isComment_eq_false hsh.faithful hbare) hparts

lemma ink_text {piece : Piece} (h : Shown sh piece (sh.content id)) : piece.text.ink = sh.inkOf id := by
  have hlead (n : Nat) : Written sh (Text.spaces n) [] false := Written.nil.spaces n
  cases piece with
  | fragment start text last =>
    obtain ⟨ids, hw, hparts⟩ := h
    exact ((hlead start).append hw).ink_eq_inkOf (isComment_eq_false hsh.faithful hbare) hparts
  | lines buf =>
    obtain ⟨ids, d, hw, hparts, -⟩ := h
    rw [Piece.text, LineBuffer.text_eq]
    exact ((hlead buf.start).append hw).ink_eq_inkOf (isComment_eq_false hsh.faithful hbare) hparts

omit hbare in
lemma ensures_render (hid : id < sh.tree.size) {ctx : Context} (hctx : ctx.isMeasuring = false)
    (column : Nat) : Ensures (Keeps sh) (sh.render id ctx column) (Shown sh · (sh.content id)) :=
  ((renders_renderTo hsh hid (by omega)).2 ctx column).mono fun _ hfits => hfits.shown (.inl hctx)

/-- Whatever the cache keeps, the layouts have the ink of their nodes. -/
theorem ensures_ink_texts {calls : List Call}
    (hcalls : ∀ call ∈ calls, call.node < sh.tree.size ∧ call.context.isMeasuring = false) :
    Ensures (Keeps sh) (sh.texts calls) fun texts =>
      texts.map Text.ink = calls.map fun call => sh.inkOf call.node := by
  induction calls with
  | nil => exact .pure rfl
  | cons call calls ih =>
    obtain ⟨hnode, hctx⟩ := hcalls call (by simp)
    have ih := ih fun c hc => hcalls c (by simp [hc])
    have hcall : Ensures (Keeps sh) (do return (← sh.render call.node call.context call.column).text)
        fun text => text.ink = sh.inkOf call.node :=
      (ensures_render hsh hnode hctx call.column).bind fun _ hpiece => .pure (ink_text hsh hbare hpiece)
    rw [texts, List.mapM_cons]
    refine hcall.bind fun text htext => ih.bind fun texts htexts => .pure ?_
    rw [List.map_cons, List.map_cons, htext, htexts]

end

lemma keeps_of_slots {cache : Cache Policy} (h : cache.slots = #[]) : Keeps sh cache := by
  intro id entry hentry
  simp [h] at hentry

end Sheet

/-- Trees in which each comma of a declaration list comes before a declaration keep their commas. -/
lemma clean_of_declarations {policy : Policy} {source : Text} {tree : Tree}
    (hparse : Tree.parse source = .ok tree) (herrors : tree.errors.isEmpty = true)
    (hlexed : ∀ token ∈ (TokenStream.ofText source).tokens, token.kind ≠ .error)
    (hcommas : policy.lists.comma = .before → ∀ id < tree.size, tree.kind id = .declarationList →
      tree.separates false (tree.children id) = true) : Sheet.Clean ⟨tree, policy⟩ := by
  refine Sheet.clean_of_separates hparse herrors (@fun id hbefore hkind => ?_) hlexed
  refine hcommas hbefore id (Nat.lt_of_not_ge fun hge => ?_) hkind
  exact absurd ((Tree.kind_of_le hge).symm.trans hkind) nofun

/-! ### Commas -/

/--
Unless a comma of a declaration list lacks its declaration, the place of commas changes only blanks in what
the program writes, if columns stay within bounds.
-/
theorem ink_format_withComma {policy : Policy} {source : Text} {tree : Tree}
    (hparse : Tree.parse source = .ok tree) (herrors : tree.errors.isEmpty = true)
    (hbare : ∀ token ∈ (TokenStream.ofText source).tokens, token.kind.isComment = false)
    (hlexed : ∀ token ∈ (TokenStream.ofText source).tokens, token.kind ≠ .error)
    (hcommas : ∀ id < tree.size, tree.kind id = .declarationList →
      tree.separates false (tree.children id) = true) :
    ∃ before after, format (policy.withComma .before) source = .ok before
      ∧ format (policy.withComma .after) source = .ok after ∧ before.ink = after.ink
      ∧ (formatBounded (policy.withComma .before) source = .ok before
        ∨ ∃ fault, formatBounded (policy.withComma .before) source = .error (.layout fault))
      ∧ (formatBounded (policy.withComma .after) source = .ok after
        ∨ ∃ fault, formatBounded (policy.withComma .after) source = .error (.layout fault)) := by
  obtain ⟨htokens, hfaithful⟩ := Tree.faithful_of_parse hparse herrors
  have hink (comma : CommaPosition) : (formatTree (policy.withComma comma) tree).ink
      = Sheet.inkOf ⟨tree, policy.withComma comma⟩ tree.root := by
    have hclean : Sheet.Clean ⟨tree, policy.withComma comma⟩ :=
      clean_of_declarations hparse herrors hlexed fun _ => hcommas
    have hrender : Sheet.Ensures (Sheet.Keeps ⟨tree, _⟩) ((Sheet.mk tree _).render tree.root {} 0) _ :=
      Sheet.ensures_render hclean hfaithful.root_lt rfl 0
    exact Sheet.ink_finish hclean (htokens ▸ hbare) (hrender {} (Sheet.keeps_of_slots rfl)).1
  refine ⟨_, _, format_of_parse hparse, format_of_parse hparse, ?_, formatBounded_eq_or_fault hparse _,
    formatBounded_eq_or_fault hparse _⟩
  rw [hink, hink]
  rfl

/-- A table on several lines, with commas at both ends of lines. -/
theorem ink_format_withComma_of_table :
    ∃ before after,
      format (Policy.withComma { lineWidth := ⟨10, .one⟩ } .before) "create table t (a int, b int)".toList
        = .ok before
      ∧ format (Policy.withComma { lineWidth := ⟨10, .one⟩ } .after) "create table t (a int, b int)".toList
        = .ok after
      ∧ before.ink = after.ink := by
  obtain ⟨tree, hparse, hfits⟩ := Tree.exists_of_any "create table t (a int, b int)".toList
    (fun tree => tree.errors.isEmpty && decide (∀ id < tree.size, tree.kind id = .declarationList →
      tree.separates false (tree.children id) = true)) (by decide +kernel)
  rw [Bool.and_eq_true, decide_eq_true_iff] at hfits
  obtain ⟨before, after, hbefore, hafter, hink, -⟩ := @ink_format_withComma { lineWidth := ⟨10, .one⟩ } _ _ hparse
    hfits.1 (by decide +kernel) (by decide +kernel) hfits.2
  exact ⟨before, after, hbefore, hafter, hink⟩

/-- If commas stand first, one after the last declaration is held back and never written. -/
theorem trailing_comma_lost :
    isValid "create table t (a int, b int,)".toList = true
      ∧ format (Policy.withComma { lineWidth := ⟨10, .one⟩ } .after)
          "create table t (a int, b int,)".toList
        = .ok "CREATE TABLE t (\n    a int,\n    b int,\n)\n".toList
      ∧ format (Policy.withComma { lineWidth := ⟨10, .one⟩ } .before)
          "create table t (a int, b int,)".toList
        = .ok "CREATE TABLE t (\n    a int\n  , b int\n)\n".toList
      ∧ Text.ink "CREATE TABLE t (\n    a int,\n    b int,\n)\n".toList
        ≠ Text.ink "CREATE TABLE t (\n    a int\n  , b int\n)\n".toList :=
  ⟨by decide +kernel, ok_of_toOption (by decide +kernel), ok_of_toOption (by decide +kernel), by decide⟩

/-! ### Kept pieces -/

/-- A kept branch is moved with the gap before its `THEN`, which should stay at its column. -/
theorem kept_branch_moves_then :
    ∃ tree, Tree.parse "select case when a then b end".toList = .ok tree
      ∧ let sh := Sheet.mk tree { cases.thenPosition := .aligned }
        let calls := [0, 5].map (Sheet.Call.mk 8 { overlay := .caseBranch .normal (some 30) })
        (sh.texts calls {}).1 ≠ (sh.texts calls .disabled).1 := by
  obtain ⟨tree, htree, hdiffer⟩ := Tree.exists_of_any "select case when a then b end".toList
    (fun tree =>
      let sh := Sheet.mk tree { cases.thenPosition := .aligned }
      let calls := [0, 5].map (Sheet.Call.mk 8 { overlay := .caseBranch .normal (some 30) })
      decide ((sh.texts calls {}).1 ≠ (sh.texts calls .disabled).1))
    (by decide +kernel)
  exact ⟨tree, htree, of_decide_eq_true hdiffer⟩

end SqlLayout
