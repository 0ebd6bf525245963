import Mathlib.Data.List.Basic
import SqlLayout.Proofs.Token.Significant

/-!
# Matching brackets

`openBrackets ts i` is the stack of brackets that are open before the token at `i`: an opening bracket
goes onto it, a closing one of either shape takes the innermost off, and one that meets an empty stack is
dropped. `Matches ts i j` says that the bracket at `j` takes the one at `i` off. The stack is as deep as
the level that tokens carry, `parenLevel_ofText`; so the first later closing bracket on the level of an
opening one is its match, `closesLevel_iff_matches`, and what stands between them is on higher levels.
-/

namespace SqlLayout
namespace TokenStream

variable {ts : TokenStream} {source : Text} {i j k : Nat}

/-- Indices of the brackets that are open before a token, the innermost first. -/
def openBrackets (ts : TokenStream) : Nat → List Nat
  | 0 => []
  | i + 1 =>
    if (ts.kind i).isOpening then i :: ts.openBrackets i
    else if (ts.kind i).isClosing then (ts.openBrackets i).tail
    else ts.openBrackets i

/-- The bracket at `j` closes the one at `i`, which is the innermost one open before it. -/
def Matches (ts : TokenStream) (i j : Nat) : Prop :=
  (ts.kind j).isClosing = true ∧ (ts.openBrackets j).head? = some i

/-- A later closing bracket on the level of the token at `i`. -/
def IsLevelCloser (ts : TokenStream) (i j : Nat) : Prop :=
  i < j ∧ (ts.kind j).isClosing = true ∧ (ts.get j).parenLevel = (ts.get i).parenLevel

/-- The first later closing bracket on the level of the token at `i`. -/
def ClosesLevel (ts : TokenStream) (i j : Nat) : Prop :=
  ts.IsLevelCloser i j ∧ ∀ k < j, ¬ts.IsLevelCloser i k

/-! ### The stack -/

lemma openBrackets_succ_of_isOpening (h : (ts.kind i).isOpening = true) :
    ts.openBrackets (i + 1) = i :: ts.openBrackets i := by
  rw [openBrackets, if_pos h]

lemma isOpening_eq_false_of_isClosing {kind : TokenKind} (h : kind.isClosing = true) :
    kind.isOpening = false := by
  unfold TokenKind.isClosing at h
  split at h <;> first | rfl | exact absurd h nofun

lemma openBrackets_succ_of_isClosing (h : (ts.kind i).isClosing = true) :
    ts.openBrackets (i + 1) = (ts.openBrackets i).tail := by
  rw [openBrackets, if_neg (by simp [isOpening_eq_false_of_isClosing h]), if_pos h]

lemma openBrackets_succ_of_not (hopening : (ts.kind i).isOpening = false)
    (hclosing : (ts.kind i).isClosing = false) : ts.openBrackets (i + 1) = ts.openBrackets i := by
  simp [openBrackets, hopening, hclosing]

lemma lt_of_mem_openBrackets (h : i ∈ ts.openBrackets k) : i < k := by
  induction k with
  | zero => exact absurd h List.not_mem_nil
  | succ k ih =>
    rw [openBrackets] at h
    split_ifs at h
    · rcases List.mem_cons.1 h with rfl | h
      · exact Nat.lt_succ_self _
      · exact Nat.lt_succ_of_lt (ih h)
    · exact Nat.lt_succ_of_lt (ih (List.mem_of_mem_tail h))
    · exact Nat.lt_succ_of_lt (ih h)

/-- An open bracket stands on those that were open before it, and below later ones. -/
lemma eq_append_of_mem_openBrackets (h : i ∈ ts.openBrackets k) :
    (ts.kind i).isOpening = true
      ∧ ∃ inner, ts.openBrackets k = inner ++ i :: ts.openBrackets i ∧ ∀ x ∈ inner, i < x := by
  induction k with
  | zero => exact absurd h (List.not_mem_nil)
  | succ k ih =>
    cases hopening : (ts.kind k).isOpening with
    | true =>
      rw [openBrackets_succ_of_isOpening hopening] at h ⊢
      rcases List.mem_cons.1 h with rfl | h
      · exact ⟨hopening, [], rfl, nofun⟩
      · obtain ⟨hi, inner, heq, hinner⟩ := ih h
        refine ⟨hi, k :: inner, by rw [heq]; rfl, ?_⟩
        exact List.forall_mem_cons.2 ⟨lt_of_mem_openBrackets h, hinner⟩
    | false =>
      cases hclosing : (ts.kind k).isClosing with
      | true =>
        rw [openBrackets_succ_of_isClosing hclosing] at h ⊢
        obtain ⟨hi, inner, heq, hinner⟩ := ih (List.mem_of_mem_tail h)
        refine ⟨hi, ?_⟩
        cases inner with
        | nil =>
          -- The bracket itself was taken off, and those below it came before it.
          rw [heq] at h
          exact absurd (lt_of_mem_openBrackets h) (Nat.lt_irrefl i)
        | cons x inner =>
          exact ⟨inner, by rw [heq]; rfl, fun y hy => hinner y (List.mem_cons_of_mem x hy)⟩
      | false =>
        rw [openBrackets_succ_of_not hopening hclosing] at h ⊢
        exact ih h

/-- A bracket that is open has been open since it stood there. -/
lemma mem_openBrackets_of_le (h : i ∈ ts.openBrackets j) (hik : i < k) (hkj : k ≤ j) :
    i ∈ ts.openBrackets k := by
  induction j with
  | zero => exact absurd h List.not_mem_nil
  | succ j ih =>
    rcases Nat.lt_or_eq_of_le hkj with hlt | rfl
    · have hne : i ≠ j := by omega
      refine ih ?_ (Nat.le_of_lt_succ hlt)
      rw [openBrackets] at h
      split_ifs at h
      · exact (List.mem_cons.1 h).resolve_left hne
      · exact List.mem_of_mem_tail h
      · exact h
    · exact h

/-! ### Matches -/

lemma Matches.eq_cons (h : ts.Matches i j) : ts.openBrackets j = i :: ts.openBrackets i := by
  obtain ⟨rest, hrest⟩ := List.head?_eq_some_iff.1 h.2
  have hmem : i ∈ ts.openBrackets j := hrest ▸ List.mem_cons_self
  obtain ⟨-, inner, heq, hinner⟩ := eq_append_of_mem_openBrackets hmem
  cases inner with
  | nil => exact heq
  | cons x inner =>
    rw [hrest] at heq
    exact absurd (hinner x List.mem_cons_self) ((List.cons.inj heq).1 ▸ Nat.lt_irrefl i)

lemma Matches.isOpening (h : ts.Matches i j) : (ts.kind i).isOpening = true := by
  have hmem : i ∈ ts.openBrackets j := by simp [h.eq_cons]
  exact (eq_append_of_mem_openBrackets hmem).1

lemma Matches.lt (h : ts.Matches i j) : i < j :=
  lt_of_mem_openBrackets (h.eq_cons ▸ List.mem_cons_self)

/-- Up to its match a bracket stays open, and before its match it is not the innermost one to be closed. -/
lemma Matches.open_before (h : ts.Matches i j) (hik : i < k) (hkj : k < j) :
    ∃ inner, ts.openBrackets k = inner ++ i :: ts.openBrackets i
      ∧ ((ts.kind k).isClosing = true → inner ≠ []) := by
  have hmem : i ∈ ts.openBrackets j := by simp [h.eq_cons]
  obtain ⟨-, inner, heq, -⟩ :=
    eq_append_of_mem_openBrackets (mem_openBrackets_of_le hmem hik (Nat.le_of_lt hkj))
  refine ⟨inner, heq, ?_⟩
  rintro hclosing rfl
  have hnext := mem_openBrackets_of_le hmem (Nat.lt_succ_of_lt hik) hkj
  rw [openBrackets_succ_of_isClosing hclosing, heq] at hnext
  exact Nat.lt_irrefl i (lt_of_mem_openBrackets hnext)

/-- An opening bracket stays open until its match. -/
lemma mem_openBrackets_or_matches (h : (ts.kind i).isOpening = true) (hik : i < k) :
    i ∈ ts.openBrackets k ∨ ∃ j < k, ts.Matches i j := by
  induction k with
  | zero => omega
  | succ k ih =>
    rcases Nat.lt_or_eq_of_le (Nat.le_of_lt_succ hik) with hlt | rfl
    · rcases ih hlt with hopen | ⟨j, hj, hmatch⟩
      · cases hopening : (ts.kind k).isOpening with
        | true => exact .inl (by simp [openBrackets_succ_of_isOpening hopening, hopen])
        | false =>
          cases hclosing : (ts.kind k).isClosing with
          | true =>
            rw [openBrackets_succ_of_isClosing hclosing]
            obtain ⟨-, inner, heq, -⟩ := eq_append_of_mem_openBrackets hopen
            cases inner with
            | nil => exact .inr ⟨k, Nat.lt_succ_self k, hclosing, by rw [heq]; rfl⟩
            | cons x inner => exact .inl (by simp [heq])
          | false => exact .inl (by rwa [openBrackets_succ_of_not hopening hclosing])
      · exact .inr ⟨j, Nat.lt_succ_of_lt hj, hmatch⟩
    · exact .inl (by simp [openBrackets_succ_of_isOpening h])

/-! ### Levels -/

lemma length_openBrackets_succ (ts : TokenStream) (i : Nat) :
    (ts.openBrackets (i + 1)).length = Level.parenAfter (ts.openBrackets i).length (ts.kind i) := by
  rw [openBrackets, Level.parenAfter]
  split_ifs <;> simp

lemma parenAfter_of_isTrivia {kind : TokenKind} (h : kind.isTrivia = true) (paren : Nat) :
    Level.parenAfter paren kind = paren := by
  cases kind <;> first | rfl | exact absurd h nofun

/-- The level that is placed on a significant token, from the kinds before it. -/
lemma parenLevel_place {start : Nat} {depth shown : Level} {previous : Option TokenKind}
    {lexemes : List Lexeme} {token : Token} (hk : k < lexemes.length)
    (htoken : (place start depth shown previous lexemes)[k]? = some token)
    (htrivia : token.kind.isTrivia = false) :
    token.parenLevel
      = Level.parenOf (((lexemes.take k).map Lexeme.kind).foldl Level.parenAfter depth.paren) token.kind := by
  induction lexemes generalizing start depth shown previous k with
  | nil => exact absurd hk (Nat.not_lt_zero k)
  | cons x rest ih =>
    rw [place] at htoken
    dsimp only at htoken
    cases hx : x.kind.isTrivia with
    | true =>
      rw [if_pos hx] at htoken
      cases k with
      | zero =>
        obtain rfl := Option.some.inj htoken
        exact absurd (hx.symm.trans htrivia) Bool.noConfusion
      | succ k =>
        rw [ih (Nat.lt_of_succ_lt_succ hk) htoken]
        simp [parenAfter_of_isTrivia hx]
    | false =>
      rw [if_neg (by simp [hx])] at htoken
      cases k with
      | zero =>
        obtain rfl := Option.some.inj htoken
        rfl
      | succ k =>
        rw [ih (Nat.lt_of_succ_lt_succ hk) htoken]
        simp

lemma length_openBrackets_ofText (source : Text) (h : i ≤ (ofText source).lastIndex) :
    ((ofText source).openBrackets i).length
      = (((Lexeme.scan {} source).take i).map Lexeme.kind).foldl Level.parenAfter 0 := by
  induction i with
  | zero => rfl
  | succ i ih =>
    have hscan := getElem?_scan (Nat.le_of_lt h)
    rw [List.getElem?_append_left (lastIndex_ofText source ▸ h)] at hscan
    rw [length_openBrackets_succ, ih (Nat.le_of_lt h), List.take_add_one, hscan]
    simp

/-- Significant tokens carry the depth of the stack, closing brackets the depth below the innermost. -/
lemma parenLevel_ofText (h : i < (ofText source).lastIndex)
    (htrivia : ((ofText source).kind i).isTrivia = false) :
    ((ofText source).get i).parenLevel
      = Level.parenOf ((ofText source).openBrackets i).length ((ofText source).kind i) := by
  rw [length_openBrackets_ofText source (Nat.le_of_lt h)]
  have htoken := getElem?_tokens (Nat.le_of_lt h)
  rw [← Array.getElem?_toList] at htoken
  exact parenLevel_place (lastIndex_ofText source ▸ h) htoken htrivia

lemma isTrivia_eq_false_of_isClosing {kind : TokenKind} (h : kind.isClosing = true) :
    kind.isTrivia = false := by
  unfold TokenKind.isClosing at h
  split at h <;> first | rfl | exact absurd h nofun

lemma isTrivia_eq_false_of_isOpening {kind : TokenKind} (h : kind.isOpening = true) :
    kind.isTrivia = false := by
  unfold TokenKind.isOpening at h
  split at h <;> first | rfl | exact absurd h nofun

/-- Brackets stand before the end of input. -/
lemma lt_lastIndex_of_isClosing (h : ((ofText source).kind i).isClosing = true) :
    i < (ofText source).lastIndex := by
  by_contra hle
  rw [((closed_ofText source).kind_eq_eof_iff i).2 (Nat.le_of_not_lt hle)] at h
  exact absurd h nofun

lemma lt_lastIndex_of_isOpening (h : ((ofText source).kind i).isOpening = true) :
    i < (ofText source).lastIndex := by
  by_contra hle
  rw [((closed_ofText source).kind_eq_eof_iff i).2 (Nat.le_of_not_lt hle)] at h
  exact absurd h nofun

lemma parenLevel_of_isOpening (h : ((ofText source).kind i).isOpening = true) :
    ((ofText source).get i).parenLevel = ((ofText source).openBrackets i).length := by
  rw [parenLevel_ofText (lt_lastIndex_of_isOpening h) (isTrivia_eq_false_of_isOpening h), Level.parenOf, if_neg]
  intro hclosing
  simp [isOpening_eq_false_of_isClosing hclosing] at h

lemma parenLevel_of_isClosing (h : ((ofText source).kind i).isClosing = true) :
    ((ofText source).get i).parenLevel = ((ofText source).openBrackets i).length - 1 := by
  rw [parenLevel_ofText (lt_lastIndex_of_isClosing h) (isTrivia_eq_false_of_isClosing h), Level.parenOf, if_pos h]

/-- What stands between a bracket and its match is on higher levels. -/
lemma Matches.parenLevel_lt (h : (ofText source).Matches i j) (hik : i < k) (hkj : k < j)
    (hsignificant : ((ofText source).kind k).isTrivia = false) :
    ((ofText source).get i).parenLevel < ((ofText source).get k).parenLevel := by
  have hj := lt_lastIndex_of_isClosing h.1
  obtain ⟨inner, heq, hinner⟩ := h.open_before hik hkj
  rw [parenLevel_of_isOpening h.isOpening, parenLevel_ofText (by omega) hsignificant, heq, Level.parenOf]
  split
  · next hclosing =>
    have := List.length_pos_iff.2 (hinner hclosing)
    simp only [List.length_append, List.length_cons]
    omega
  · simp only [List.length_append, List.length_cons]
    omega

lemma Matches.isLevelCloser (h : (ofText source).Matches i j) : (ofText source).IsLevelCloser i j := by
  refine ⟨h.lt, h.1, ?_⟩
  rw [parenLevel_of_isClosing h.1, parenLevel_of_isOpening h.isOpening, h.eq_cons]
  exact Nat.add_sub_cancel _ 1

/-- No closing bracket before the match of a bracket is on its level. -/
lemma Matches.not_isLevelCloser (h : (ofText source).Matches i j) (hkj : k < j) :
    ¬(ofText source).IsLevelCloser i k := by
  rintro ⟨hik, hclosing, hlevel⟩
  have hlt := h.parenLevel_lt hik hkj (isTrivia_eq_false_of_isClosing hclosing)
  omega

/-- A later closing bracket on the level of an opening one is its match or stands behind it. -/
lemma exists_matches_of_isLevelCloser (h : ((ofText source).kind i).isOpening = true)
    (hcloser : (ofText source).IsLevelCloser i k) : ∃ j ≤ k, (ofText source).Matches i j := by
  obtain ⟨hik, hclosing, hlevel⟩ := hcloser
  rcases mem_openBrackets_or_matches h hik with hopen | ⟨j, hj, hmatch⟩
  · obtain ⟨-, inner, heq, -⟩ := eq_append_of_mem_openBrackets hopen
    -- It closes the innermost bracket, so the level says that nothing else is open inside.
    rw [parenLevel_of_isClosing hclosing, parenLevel_of_isOpening h, heq] at hlevel
    simp only [List.length_append, List.length_cons] at hlevel
    obtain rfl : inner = [] := List.length_eq_zero_iff.1 (by omega)
    exact ⟨k, Nat.le_refl k, hclosing, by rw [heq]; rfl⟩
  · exact ⟨j, Nat.le_of_lt hj, hmatch⟩

/-- The first later closing bracket on the level of an opening one is its match. -/
lemma closesLevel_iff_matches (h : ((ofText source).kind i).isOpening = true) :
    (ofText source).ClosesLevel i j ↔ (ofText source).Matches i j := by
  constructor
  · rintro ⟨hcloser, hfirst⟩
    obtain ⟨k, hk, hmatch⟩ := exists_matches_of_isLevelCloser h hcloser
    rcases Nat.lt_or_eq_of_le hk with hlt | rfl
    · exact absurd hmatch.isLevelCloser (hfirst k hlt)
    · exact hmatch
  · intro hmatch
    exact ⟨hmatch.isLevelCloser, fun k => hmatch.not_isLevelCloser⟩

lemma exists_isLevelCloser_iff (h : ((ofText source).kind i).isOpening = true) :
    (∃ j, (ofText source).IsLevelCloser i j) ↔ ∃ j, (ofText source).Matches i j := by
  constructor
  · rintro ⟨k, hcloser⟩
    obtain ⟨j, -, hmatch⟩ := exists_matches_of_isLevelCloser h hcloser
    exact ⟨j, hmatch⟩
  · rintro ⟨j, hmatch⟩
    exact ⟨j, hmatch.isLevelCloser⟩

end TokenStream
end SqlLayout
