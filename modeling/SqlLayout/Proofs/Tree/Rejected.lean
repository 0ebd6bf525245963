import SqlLayout.Proofs.Token.Brackets
import SqlLayout.Proofs.Tree.Formed

/-!
# Groups that are nested too deeply

A group of brackets that the grammar refuses is read to the first later closing bracket on the level of
the one that opened it, `pos_takeGroup`, and its events become one error node over the tokens that were
read, `exists_rejectsGroup`. By the theory of matching brackets that node covers the group as a stack of
brackets delimits it.
-/

namespace SqlLayout

namespace TokenStream

variable {ts : TokenStream} {i k : Nat}

lemma isTrivia_of_lt_nextSignificant (hik : i ≤ k) (hk : k < ts.nextSignificant i) :
    (ts.kind k).isTrivia = true := by
  fun_induction nextSignificant ts i with
  | case1 i h ih =>
    rcases Nat.lt_or_eq_of_le hik with hlt | rfl
    · exact ih hlt hk
    · exact h.2
  | case2 i h => omega

/--
The tokens from the bracket at `i` up to `past` end with its match if it has one, and else with the last
significant token.
-/
def SpansGroup (ts : TokenStream) (i past : Nat) : Prop :=
  (∃ j, ts.Matches i j ∧ past = j + 1)
    ∨ ((¬∃ j, ts.Matches i j) ∧ i < past ∧ (ts.kind (past - 1)).isTrivia = false
      ∧ ts.significantFrom past = [])

end TokenStream

namespace Grammar

variable {ts : TokenStream} {s t : State} {i : Nat}

lemma closesGroup_of_isOpening {opener : Token} (h : opener.kind.isOpening = true) (outside : Nat)
    (token : Token) : closesGroup opener outside token
      = (token.kind.isClosing && token.parenLevel == opener.parenLevel) := by
  unfold TokenKind.isOpening at h
  unfold closesGroup
  split at h
  · next heq => simp [heq]
  · next heq => simp [heq]
  · exact absurd h nofun

lemma endsKeptBody_of_isOpening {opener : Token} (h : opener.kind.isOpening = true) (token : Token) :
    endsKeptBody opener token = false := by
  unfold TokenKind.isOpening at h
  unfold endsKeptBody
  split at h
  · next heq => simp [heq]
  · next heq => simp [heq]
  · exact absurd h nofun

/-- The last token that has been read is significant. -/
lemma Takes.isTrivia_pred (hc : ts.Closed) {roles : List LeafRole} (h : Takes ts s roles t) :
    t = s ∨ (s.pos < t.pos ∧ (ts.kind (t.pos - 1)).isTrivia = false) := by
  induction h with
  | nil s => exact .inl rfl
  | @cons s t role roles hne _ ih =>
    have hle := ts.le_nextSignificant s.pos
    have hpos : (take ts role s).pos = ts.nextSignificant s.pos + 1 := by rw [take_eq hne]
    rcases ih with rfl | ⟨hlt, htrivia⟩
    · refine .inr ⟨by omega, ?_⟩
      rw [hpos]
      exact hc.isTrivia_nextSignificant s.pos
    · exact .inr ⟨by omega, htrivia⟩

/--
What is left of a group is read up to and including the first closing bracket on the level of its opener,
if there is one, and else to the end of input.
-/
lemma pos_takeGroup (hc : ts.Closed) (h : (ts.kind i).isOpening = true) (outside : Nat) (s : State)
    (his : i < s.pos) (hbefore : ∀ k < s.pos, ¬ts.IsLevelCloser i k) :
    (∃ j, ts.ClosesLevel i j ∧ (takeGroup ts (ts.get i) outside s).pos = j + 1)
      ∨ ((¬∃ j, ts.IsLevelCloser i j)
        ∧ ts.significantFrom (takeGroup ts (ts.get i) outside s).pos = []) := by
  -- Nothing up to the next significant token closes the group.
  have hskip {s : State} (hbefore : ∀ k < s.pos, ¬ts.IsLevelCloser i k) {k : Nat}
      (hk : k < ts.nextSignificant s.pos) : ¬ts.IsLevelCloser i k := by
    rcases Nat.lt_or_ge k s.pos with hlt | hge
    · exact hbefore k hlt
    · rintro ⟨-, hclosing, -⟩
      have htrivia := TokenStream.isTrivia_of_lt_nextSignificant hge hk
      rw [TokenStream.isTrivia_eq_false_of_isClosing hclosing] at htrivia
      contradiction
  have hcloses {s : State} (his : i < s.pos) :
      closesGroup (ts.get i) outside (ts.get (nthIndex ts s 0)) = true
        ↔ ts.IsLevelCloser i (ts.nextSignificant s.pos) := by
    have hlt := Nat.lt_of_lt_of_le his (ts.le_nextSignificant s.pos)
    rw [closesGroup_of_isOpening h, Bool.and_eq_true, beq_iff_eq]
    exact ⟨fun h => ⟨hlt, h⟩, fun h => h.2⟩
  have hahead {s : State} (hend : ¬(atEnd ts s || endsKeptBody (ts.get i) (ts.get (nthIndex ts s 0))) = true) :
      nth ts s 0 ≠ .eof := by
    simp only [Bool.or_eq_true, not_or, Bool.not_eq_true] at hend
    exact atEnd_eq_false_iff.1 hend.1
  fun_induction takeGroup ts (ts.get i) outside s with
  | case1 s token hend =>
    rw [endsKeptBody_of_isOpening h, Bool.or_false] at hend
    have heof : ts.kind (ts.nextSignificant s.pos) = .eof := by
      simpa [atEnd, at?, current, nth, nthIndex] using hend
    have hle := (hc.kind_eq_eof_iff _).1 heof
    refine .inr ⟨?_, TokenStream.significantFrom_eq_nil_of_nextSignificant hle⟩
    rintro ⟨k, hk⟩
    rcases Nat.lt_or_ge k (ts.nextSignificant s.pos) with hlt | hge
    · exact hskip hbefore hlt hk
    · have hkind := hk.2.1
      rw [(hc.kind_eq_eof_iff k).2 (Nat.le_trans hle hge)] at hkind
      contradiction
  | case2 s token hend t hclosing =>
    have hcloser := (hcloses his).1 hclosing
    refine .inl ⟨_, ⟨hcloser, fun k hk => hskip hbefore hk⟩, ?_⟩
    rw [show t = take ts .literal s from rfl, take_eq (hahead hend)]
  | case3 s token hend t hclosing _ ih =>
    have hpos : t.pos = ts.nextSignificant s.pos + 1 := by
      rw [show t = take ts .literal s from rfl, take_eq (hahead hend)]
    have hle := ts.le_nextSignificant s.pos
    refine ih (by omega) fun k hk => ?_
    rcases Nat.lt_or_eq_of_le (Nat.le_of_lt_succ (hpos ▸ hk)) with hlt | rfl
    · exact hskip hbefore hlt
    · exact fun hcloser => hclosing ((hcloses his).2 hcloser)
  | case4 s token hend t _ hstuck => exact absurd (remaining_take_lt hc (hahead hend) .literal) hstuck

/-- A refused group of brackets is read as an error with the tokens of the group as its leaves. -/
lemma exists_takes_rejectGroup {source : Text} (hts : TokenStream.ofText source = ts)
    (h : (ts.kind i).isOpening = true) (hi : nthIndex ts s 0 = i) : ∃ role roles t,
      Takes ts (complain .nestingTooDeep (s.opening (.error 0))) (role :: roles) t
        ∧ rejectGroup ts s = t.closing ∧ ts.SpansGroup i t.pos := by
  have hc : ts.Closed := hts ▸ TokenStream.closed_ofText source
  have hne : nth ts s 0 ≠ .eof := by
    rw [nth, hi]
    intro heof
    rw [heof] at h
    contradiction
  set start := complain .nestingTooDeep (s.opening (.error 0)) with hstart
  have hstart0 : nth ts start 0 ≠ .eof := by simpa [hstart] using hne
  obtain ⟨roles, hroles⟩ := @takes_takeGroup ts (ts.get i) (levelOutside ts s) (take ts .punctuation start)
  have hpos : (take ts .punctuation start).pos = i + 1 := by
    rw [take_eq hstart0, ← hi]
    rfl
  refine ⟨.punctuation, roles, _, .cons hstart0 hroles, by rw [← hi]; rfl, ?_⟩
  rcases pos_takeGroup hc h (levelOutside ts s) (take ts .punctuation start) (by omega)
    (fun k hk hcloser => by have := hcloser.1; omega) with ⟨j, hcloses, heq⟩ | ⟨hnone, hend⟩
  · subst hts
    exact .inl ⟨j, (TokenStream.closesLevel_iff_matches h).1 hcloses, heq⟩
  · have hle := hroles.pos_le
    refine .inr ⟨?_, by omega, ?_, hend⟩
    · subst hts
      rwa [← TokenStream.exists_isLevelCloser_iff h]
    · rcases hroles.isTrivia_pred hc with heq | ⟨-, htrivia⟩
      · rw [heq, hpos]
        exact TokenStream.isTrivia_eq_false_of_isOpening h
      · exact htrivia

end Grammar

namespace Tree

open Grammar (Item State)
open TokenStream (ofText)

variable {ts : TokenStream} {i : Nat}

lemma Remarks.past_eq (hc : ts.Closed) {id pos past : Nat} {ids : List Nat} {nodes : List Node}
    (h : Remarks ts id pos ids nodes past) : past = ts.nextSignificant pos := by
  have hskip {pos : Nat} (htrivia : (ts.kind pos).isTrivia = true) :
      ts.nextSignificant (pos + 1) = ts.nextSignificant pos := by
    have hlt : pos < ts.lastIndex := by
      by_contra hge
      rw [(hc.kind_eq_eof_iff pos).2 (Nat.le_of_not_lt hge)] at htrivia
      exact absurd htrivia nofun
    rw [TokenStream.nextSignificant.eq_def ts pos, if_pos ⟨hlt, htrivia⟩]
  induction h with
  | nil hkind => exact (TokenStream.nextSignificant_of_not_isTrivia hkind).symm
  | blank hblank _ ih => exact ih.trans (hskip (by simp [TokenKind.isTrivia, hblank]))
  | comment _ hcomment _ ih => exact ih.trans (hskip (by simp [TokenKind.isTrivia, hcomment]))

/-- Leaves are mirrored up to where the tokens for them have been read. -/
lemma Mirrors.past_leaves (hc : ts.Closed) {s t : State} {role : LeafRole} {roles : List LeafRole}
    (htakes : Grammar.Takes ts s (role :: roles) t) {id pos past count : Nat} {ids : List Nat} {nodes : List Node}
    (h : Mirrors ts id pos ((role :: roles).map .leaf) ids nodes count past)
    (hpos : ts.nextSignificant pos = ts.nextSignificant s.pos) : past = t.pos := by
  induction roles generalizing role s id pos ids nodes count with
  | nil =>
    cases htakes with
    | cons hne hrest =>
      cases hrest
      cases h with
      | leaf _ hremarks _ hnil =>
        cases hnil
        rw [Grammar.take_eq hne, hremarks.past_eq hc, hpos]
  | cons role' roles ih =>
    cases htakes with
    | cons hne hrest =>
      cases h with
      | leaf _ hremarks _ hmirrors =>
        refine ih hrest hmirrors ?_
        rw [Grammar.take_eq hne, hremarks.past_eq hc, hpos]

namespace Builder

variable {b b' : Builder} {top : Nat} {outer : List Nat}

/--
The open node `top` has got one more child, an error node for a group that is nested too deeply. The node
covers the tokens from `first` up to `past`, and the builder goes on behind them.
-/
structure GainsRejected (ts : TokenStream) (top first past : Nat) (b b' : Builder) : Prop where
  pos : b'.pos = past
  opened : b'.opened = b.opened
  error : b'.errors[b.errors.size]? = some (errorAt ts .nestingTooDeep first)
  node : ∃ id leaves parent, b.nodes.size ≤ id
    ∧ b'.nodes[id]? = some ⟨.error b.errors.size, first, past, leaves⟩
    ∧ b'.nodes[top]? = some parent ∧ parent.children.getLast? = some id

/-- What has come to a builder when a group is rejected. -/
lemma gainsRejected_grown (h : b.IsOpen top outer) (remarks leaves : List Nat) (before nodes : List Node)
    (first past : Nat) :
    GainsRejected ts top first past b (b.grown (remarks ++ [b.nodes.size + before.length])
      (before ++ ⟨.error b.errors.size, first, past, leaves⟩ :: nodes) [errorAt ts .nestingTooDeep first]
      past) := by
  obtain ⟨hopened, hlt⟩ := h
  refine ⟨rfl, rfl, ?_, b.nodes.size + before.length, leaves,
    { b.nodes[top] with children := b.nodes[top].children ++ (remarks ++ [b.nodes.size + before.length]) },
    Nat.le_add_right _ _, ?_, ?_, ?_⟩
  · simp [grown]
  · simp [grown]
  · rw [grown, hopened, List.headD_cons, Array.getElem?_append_left (by simpa using hlt),
      Array.getElem?_modify, if_pos rfl, Array.getElem?_eq_getElem hlt]
    rfl
  · simp [← List.append_assoc]

/-- The events of a refused group make one error node, if the builder has come to its opener. -/
lemma gainsRejected_foldl (hc : ts.Closed) (h : b.IsOpen top outer) {s t : State} {role : LeafRole}
    {roles : List LeafRole} (htakes : Grammar.Takes ts s (role :: roles) t)
    (hpos : ts.nextSignificant b.pos = ts.nextSignificant s.pos) :
    GainsRejected ts top (ts.nextSignificant s.pos) t.pos b
      ((Item.node (.error 0) (.error .nestingTooDeep :: (role :: roles).map .leaf)).events.foldl
        (step ts) b) := by
  have hread : (role :: roles).length ≤ (ts.significantFrom b.pos).length := by
    obtain ⟨read, hlength, hread⟩ := htakes.significantFrom hc
    rw [← ts.significantFrom_nextSignificant, hpos, ts.significantFrom_nextSignificant, hread,
      List.length_append, hlength]
    exact Nat.le_add_right _ _
  obtain ⟨remarks, before, mid, ids, nodes, past, hremarks, hmirrors, heq⟩ :=
    exists_foldl_reject hc h .nestingTooDeep (role :: roles) hread
  have hmid : mid = ts.nextSignificant s.pos := (hremarks.past_eq hc).trans hpos
  have hpast : past = t.pos := by
    refine hmirrors.past_leaves hc htakes ?_
    rw [hmid, TokenStream.nextSignificant_of_not_isTrivia (hc.isTrivia_nextSignificant s.pos)]
  rw [heq, hmid, hpast]
  exact gainsRejected_grown h remarks ids before nodes _ _

end Builder

/--
The first later closing bracket on the level of an opening bracket is the one that a stack of brackets
matches with it, whatever their shapes; significant tokens between the two are on higher levels; and no
closing bracket on its level follows exactly if it stays unmatched. So where the grammar refuses the group
that the bracket opens, the error node covers the bracket up to its match, or up to the last significant
token if it has none.
-/
theorem levels_match_brackets (source : Text) {i : Nat} (h : ((ofText source).kind i).isOpening = true) :
    (∀ j, (ofText source).ClosesLevel i j ↔ (ofText source).Matches i j)
      ∧ (∀ j k, (ofText source).Matches i j → i < k → k < j → ((ofText source).kind k).isTrivia = false →
        ((ofText source).get i).parenLevel < ((ofText source).get k).parenLevel)
      ∧ ((¬∃ j, (ofText source).IsLevelCloser i j) ↔ ¬∃ j, (ofText source).Matches i j)
      ∧ ∀ (rule : State → State) (s : State), Grammar.nthIndex (ofText source) s 0 = i →
        Grammar.maxNesting ≤ s.depth →
        ∃ (events : List Event) (past : Nat),
          (Grammar.nested (ofText source) rule s).events = events.reverse ++ s.events
          ∧ (Grammar.nested (ofText source) rule s).pos = past
          ∧ (ofText source).SpansGroup i past
          ∧ ∀ (b : Builder) (top : Nat) (outer : List Nat), b.IsOpen top outer →
            (ofText source).nextSignificant b.pos = i →
            b.GainsRejected (ofText source) top i past (events.foldl (Builder.step (ofText source)) b) := by
  have hc := TokenStream.closed_ofText source
  refine ⟨fun j => TokenStream.closesLevel_iff_matches h, fun j k hmatch => hmatch.parenLevel_lt,
    not_congr (TokenStream.exists_isLevelCloser_iff h), fun rule s hi hdepth => ?_⟩
  obtain ⟨role, roles, t, htakes, heq, hspans⟩ := Grammar.exists_takes_rejectGroup rfl h hi
  have hnested : Grammar.nested (ofText source) rule s = t.closing := by
    rw [Grammar.nested, if_neg (Nat.not_lt.2 hdepth), heq]
  rw [hnested]
  refine ⟨(Item.node (.error 0) (.error .nestingTooDeep :: (role :: roles).map .leaf)).events, t.pos, ?_, rfl,
    hspans, fun b top outer hopen hpos => ?_⟩
  · simp [State.closing, htakes.events, Grammar.complain, State.opening, Item.eventsOf, Item.events]
  · have hstart : (ofText source).nextSignificant
        (Grammar.complain .nestingTooDeep (s.opening (.error 0))).pos = i := hi
    have hgains := Builder.gainsRejected_foldl hc hopen htakes (hpos.trans hi.symm)
    rwa [hstart] at hgains

/--
The group of a round bracket ends with a square one; the round one after it is stray, and a bracket at the
end is unmatched.
-/
theorem mixed_brackets_match :
    let ts := ofText "a (b [c) d] e) (".toList
    let s : State := { pos := 1, depth := Grammar.maxNesting }
    let b : Builder := { Builder.entered .root {} with pos := 1 }
    (ts.kind 2).isOpening = true ∧ (ts.kind 15).isOpening = true ∧ Grammar.nthIndex ts s 0 = 2
      ∧ ts.ClosesLevel 2 10 ∧ (¬∃ j, ts.IsLevelCloser 15 j)
      ∧ ∃ events : List Event, (Grammar.nested ts id s).events = events.reverse
        ∧ b.GainsRejected ts 0 2 11 (events.foldl (Builder.step ts) b) := by
  intro ts s b
  have h : (ts.kind 2).isOpening = true := by decide +kernel
  have h' : (ts.kind 15).isOpening = true := by decide +kernel
  have hs : Grammar.nthIndex ts s 0 = 2 := by decide +kernel
  obtain ⟨hcloses, -, -, hrejects⟩ := levels_match_brackets "a (b [c) d] e) (".toList h
  obtain ⟨-, -, hunmatched, -⟩ := levels_match_brackets "a (b [c) d] e) (".toList h'
  refine ⟨h, h', hs, (hcloses 10).2 ⟨by decide +kernel, by decide +kernel⟩, hunmatched.2 ?_, ?_⟩
  · -- What a bracket closes is open before it, and the bracket at 15 is the last token.
    rintro ⟨j, hmatch⟩
    have hj := TokenStream.lt_lastIndex_of_isClosing hmatch.1
    have hlast : ts.lastIndex = 16 := by decide +kernel
    have hlt := hmatch.lt
    change j < ts.lastIndex at hj
    omega
  · obtain ⟨events, past, hevents, hpast, -, hgains⟩ := hrejects id s hs (Nat.le_refl _)
    obtain rfl : 11 = past := by
      rw [← hpast]
      decide +kernel
    exact ⟨events, hevents.trans (List.append_nil _), hgains b 0 [] ⟨rfl, by decide⟩ (by decide +kernel)⟩

end Tree
end SqlLayout
