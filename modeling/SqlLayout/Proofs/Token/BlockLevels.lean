import Mathlib.Data.List.Basic
import SqlLayout.Proofs.Token.Words

/-!
# Block levels

Tokens carry the depth of blocks after them, so `levelBefore` of a token is what the one before it
carries. Trivia keep it. What any other token makes of it follows from its kind and from the kinds of the
significant tokens next to it, and from nothing else: `blockLevel_ofText`. So no token changes the level by
more than one, `END` alone lowers it unless it ends an `IF` or a `LOOP`, and neither a semicolon nor the `CASE`
of `END CASE` changes it.
-/

namespace SqlLayout

namespace Level

variable {block : Nat} {previous next : Option TokenKind} {kind : TokenKind}

lemma blockAfter_le (block : Nat) (previous : Option TokenKind) (kind : TokenKind) (next : Option TokenKind) :
    blockAfter block previous kind next ≤ block + 1 := by
  unfold blockAfter
  split <;> first | omega | (split <;> omega)

lemma le_blockAfter (block : Nat) (previous : Option TokenKind) (kind : TokenKind) (next : Option TokenKind) :
    block ≤ blockAfter block previous kind next + 1 := by
  unfold blockAfter
  split <;> first | omega | (split <;> omega)

/-- Only an `END` that ends neither an `IF` nor a `LOOP` lowers the level. -/
lemma end_of_blockAfter_lt (h : blockAfter block previous kind next < block) :
    kind = .keyword .END ∧ followsInnerEnd next = false := by
  unfold blockAfter at h
  split at h
  · split at h <;> omega
  · split at h <;> omega
  · split at h
    · omega
    · next hinner => exact ⟨rfl, eq_false_of_ne_true hinner⟩
  · omega

/-- Whether a word between others opens a block. -/
def opensBlock (previous : Option TokenKind) (kind : TokenKind) (next : Option TokenKind) : Bool :=
  match kind with
  | .keyword .BEGIN => !followsTransactionBegin next
  | .keyword .CASE => previous != some (.keyword .END)
  | _ => false

lemma lt_blockAfter_of_opensBlock (h : opensBlock previous kind next = true) :
    block < blockAfter block previous kind next := by
  unfold opensBlock at h
  split at h
  · rw [blockAfter, if_neg (by simpa using h)]
    omega
  · rw [blockAfter, if_neg (by simpa using h)]
    omega
  · exact absurd h nofun

/-- The `CASE` of `END CASE` opens nothing. -/
lemma blockAfter_endCase : blockAfter block (some (.keyword .END)) (.keyword .CASE) next = block := rfl

lemma blockAfter_semicolon : blockAfter block previous .semicolon next = block := rfl

end Level

namespace TokenStream

variable {ts : TokenStream} {source : Text} {i j : Nat}

/-- The kind of the last word before a token. -/
def previousKind? (ts : TokenStream) (i : Nat) : Option TokenKind :=
  (ts.prevSignificant i).map ts.kind

/-- The kind of the first word behind a token. -/
def nextKind? (ts : TokenStream) (i : Nat) : Option TokenKind :=
  (ts.significantFrom (i + 1)).head?.map ts.kind

/-- Depth of blocks before a token. -/
def levelBefore (ts : TokenStream) : Nat → Nat
  | 0 => 0
  | i + 1 => (ts.get i).blockLevel

/-! ### Tokens as they are placed -/

/-- The last kind that is no trivia, where `previous` was the last one before. -/
def lastSignificant (previous : Option TokenKind) (lexemes : List Lexeme) : Option TokenKind :=
  lexemes.foldl (fun previous x => if x.kind.isTrivia then previous else some x.kind) previous

lemma lastSignificant_append (previous : Option TokenKind) (xs ys : List Lexeme) :
    lastSignificant previous (xs ++ ys) = lastSignificant (lastSignificant previous xs) ys :=
  List.foldl_append

/-- The depth of blocks after tokens, where it was `block` before them. -/
def levelAfter (block : Nat) (tokens : List Token) : Nat :=
  tokens.foldl (fun _ token => token.blockLevel) block

/-- Lexemes are placed one after the other, each behind the level and the significant kind before it. -/
lemma exists_place_append (start : Nat) {depth shown : Level} (previous : Option TokenKind)
    (hshown : shown.block = depth.block) (xs ys : List Lexeme) :
    ∃ placed start' depth' shown', place start depth shown previous (xs ++ ys)
        = placed ++ place start' depth' shown' (lastSignificant previous xs) ys
      ∧ placed.length = xs.length ∧ shown'.block = depth'.block
      ∧ depth'.block = levelAfter depth.block placed := by
  induction xs generalizing start depth shown previous with
  | nil => exact ⟨[], start, depth, shown, rfl, rfl, hshown, rfl⟩
  | cons x xs ih =>
    rw [List.cons_append, place]
    dsimp only
    cases hx : x.kind.isTrivia with
    | true =>
      obtain ⟨placed, start', depth', shown', heq, hlength, hshown', hdepth⟩ :=
        ih (start + Text.byteLength x.text) previous hshown
      refine ⟨⟨x.kind, x.text, start, shown.paren, shown.block⟩ :: placed, start', depth', shown', ?_,
        congrArg Nat.succ hlength, hshown', ?_⟩
      · have hlast : lastSignificant previous (x :: xs) = lastSignificant previous xs := by
          rw [lastSignificant, List.foldl_cons, if_pos hx, lastSignificant]
        rw [if_pos rfl, heq, hlast, List.cons_append]
      · rw [hdepth, ← hshown]
        rfl
    | false =>
      generalize Level.blockAfter depth.block previous x.kind (firstSignificant (xs ++ ys)) = block
      have hlevels : (Level.mk (Level.parenOf depth.paren x.kind) block).block
          = (Level.mk (Level.parenAfter depth.paren x.kind) block).block := rfl
      obtain ⟨placed, start', depth', shown', heq, hlength, hshown', hdepth⟩ :=
        ih (start + Text.byteLength x.text) (some x.kind) hlevels
      refine ⟨⟨x.kind, x.text, start, Level.parenOf depth.paren x.kind, block⟩ :: placed, start', depth',
        shown', ?_, congrArg Nat.succ hlength, hshown', ?_⟩
      · have hlast : lastSignificant previous (x :: xs) = lastSignificant (some x.kind) xs := by
          rw [lastSignificant, List.foldl_cons, if_neg (by simp [hx]), lastSignificant]
        rw [if_neg Bool.false_ne_true, heq, hlast, List.cons_append]
      · rw [hdepth]
        rfl

/-- What the token at an index carries is the level after it. -/
lemma levelAfter_take (h : i ≤ ts.lastIndex) : levelAfter 0 (ts.tokens.toList.take i) = ts.levelBefore i := by
  cases i with
  | zero => rfl
  | succ i =>
    have htoken := getElem?_tokens (Nat.le_of_lt h)
    rw [← Array.getElem?_toList] at htoken
    rw [List.take_add_one, htoken, levelAfter, List.foldl_append]
    rfl

/-- The last kind before an index that is no trivia. -/
lemma lastSignificant_take (h : i ≤ (ofText source).lastIndex) :
    lastSignificant none ((Lexeme.scan {} source).take i) = (ofText source).previousKind? i := by
  have hsize : i ≤ (ofText source).size := Nat.le_of_lt (Nat.lt_of_le_of_lt h (ofText source).lastIndex_lt_size)
  rw [previousKind?, prevSignificant, Nat.min_eq_left hsize]
  clear hsize
  induction i with
  | zero => rfl
  | succ i ih =>
    have hscan := getElem?_scan (Nat.le_of_lt h)
    rw [List.getElem?_append_left (lastIndex_ofText source ▸ h)] at hscan
    rw [List.take_add_one, hscan, lastSignificant_append, ih (Nat.le_of_lt h), findBackward]
    cases hkind : ((ofText source).kind i).isTrivia <;> simp [hkind, lastSignificant]

/-- The first kind from an index on that is no trivia. -/
lemma firstSignificant_drop (i : Nat) :
    firstSignificant ((Lexeme.scan {} source).drop i)
      = ((ofText source).significantFrom i).head?.map (ofText source).kind := by
  rcases Nat.lt_or_ge i (ofText source).lastIndex with hlt | hge
  · have hscan := getElem?_scan (Nat.le_of_lt hlt)
    rw [List.getElem?_append_left (lastIndex_ofText source ▸ hlt)] at hscan
    rw [List.drop_eq_getElem?_toList_append, hscan, Option.toList_some, List.singleton_append,
      significantFrom_of_lt hlt, firstSignificant, List.find?_cons]
    have ih := firstSignificant_drop (i + 1)
    rw [firstSignificant] at ih
    cases hkind : ((ofText source).kind i).isTrivia with
    | true => simpa using ih
    | false => simp
  · rw [significantFrom_eq_nil hge, List.drop_eq_nil_of_le (lastIndex_ofText source ▸ hge)]
    rfl
termination_by (ofText source).lastIndex - i

/-- Trivia keep the level; what another token makes of it depends on the significant tokens around it. -/
lemma blockLevel_ofText (h : i < (ofText source).lastIndex) :
    ((ofText source).get i).blockLevel
      = if ((ofText source).kind i).isTrivia then (ofText source).levelBefore i
        else Level.blockAfter ((ofText source).levelBefore i) ((ofText source).previousKind? i)
          ((ofText source).kind i) ((ofText source).nextKind? i) := by
  have hlt : i < (Lexeme.scan {} source).length := lastIndex_ofText source ▸ h
  obtain ⟨placed, start, depth, shown, heq, hlength, hshown, hdepth⟩ := exists_place_append 0 none
    (rfl : (Level.mk 0 0).block = _) ((Lexeme.scan {} source).take i) ((Lexeme.scan {} source).drop i)
  rw [List.take_append_drop, lastSignificant_take (Nat.le_of_lt h)] at heq
  rw [List.length_take_of_le (Nat.le_of_lt hlt)] at hlength
  have htokens : (ofText source).tokens.toList = placed ++ _ := heq
  have hbefore := levelAfter_take (Nat.le_of_lt h)
  rw [htokens, List.take_left' hlength, ← hdepth] at hbefore
  have htoken := getElem?_tokens (Nat.le_of_lt h)
  rw [← Array.getElem?_toList, htokens, List.getElem?_append_right (Nat.le_of_eq hlength), hlength, Nat.sub_self,
    List.drop_eq_getElem_cons hlt, place] at htoken
  dsimp only at htoken
  cases hx : ((Lexeme.scan {} source)[i]).kind.isTrivia with
  | true =>
    rw [if_pos hx, List.getElem?_cons_zero, Option.some.injEq] at htoken
    rw [kind, ← htoken, if_pos hx, hshown, hbefore]
  | false =>
    rw [if_neg (by simp [hx]), List.getElem?_cons_zero, Option.some.injEq] at htoken
    rw [nextKind?, ← firstSignificant_drop, kind, ← htoken, if_neg (by simp [hx]), ← hbefore]

/-! ### From token to token -/

lemma blockLevel_of_isTrivia (h : i < (ofText source).lastIndex)
    (htrivia : ((ofText source).kind i).isTrivia = true) :
    ((ofText source).get i).blockLevel = (ofText source).levelBefore i := by
  rw [blockLevel_ofText h, if_pos htrivia]

lemma blockLevel_eq_blockAfter (h : i < (ofText source).lastIndex)
    (htrivia : ((ofText source).kind i).isTrivia = false) :
    ((ofText source).get i).blockLevel
      = Level.blockAfter ((ofText source).levelBefore i) ((ofText source).previousKind? i)
        ((ofText source).kind i) ((ofText source).nextKind? i) := by
  rw [blockLevel_ofText h, if_neg (by simp [htrivia])]

/-- A token that lowers the level is an `END`, and ends neither an `IF` nor a `LOOP`. -/
lemma end_of_blockLevel_lt (h : i < (ofText source).lastIndex)
    (hlt : ((ofText source).get i).blockLevel < (ofText source).levelBefore i) :
    (ofText source).kind i = .keyword .END ∧ Level.followsInnerEnd ((ofText source).nextKind? i) = false := by
  cases htrivia : ((ofText source).kind i).isTrivia with
  | true =>
    rw [blockLevel_of_isTrivia h htrivia] at hlt
    exact absurd hlt (Nat.lt_irrefl _)
  | false =>
    rw [blockLevel_eq_blockAfter h htrivia] at hlt
    exact Level.end_of_blockAfter_lt hlt

/-- A word that opens a block raises the level. -/
lemma lt_blockLevel_of_opensBlock (h : i < (ofText source).lastIndex)
    (hopens : Level.opensBlock ((ofText source).previousKind? i) ((ofText source).kind i)
      ((ofText source).nextKind? i) = true) :
    (ofText source).levelBefore i < ((ofText source).get i).blockLevel := by
  have htrivia : ((ofText source).kind i).isTrivia = false := by
    unfold Level.opensBlock at hopens
    split at hopens
    · next hkind => rw [hkind]; rfl
    · next hkind => rw [hkind]; rfl
    · exact absurd hopens nofun
  rw [blockLevel_eq_blockAfter h htrivia]
  exact Level.lt_blockAfter_of_opensBlock hopens

/-- No token changes the level by more than one. -/
lemma blockLevel_bounds (h : i < (ofText source).lastIndex) :
    ((ofText source).get i).blockLevel ≤ (ofText source).levelBefore i + 1
      ∧ (ofText source).levelBefore i ≤ ((ofText source).get i).blockLevel + 1 := by
  cases htrivia : ((ofText source).kind i).isTrivia with
  | true =>
    rw [blockLevel_of_isTrivia h htrivia]
    exact ⟨Nat.le_succ _, Nat.le_succ _⟩
  | false =>
    rw [blockLevel_eq_blockAfter h htrivia]
    exact ⟨Level.blockAfter_le _ _ _ _, Level.le_blockAfter _ _ _ _⟩

/-- `CASE` stands outside at the level before it, or below that. -/
lemma levelOutside_le (h : i < (ofText source).lastIndex) (hkind : (ofText source).kind i = .keyword .CASE) :
    (ofText source).levelOutside i ≤ (ofText source).levelBefore i := by
  have hle := (blockLevel_bounds h).1
  have hcase : ((ofText source).get i).kind = .keyword .CASE := hkind
  rw [levelOutside, if_pos hcase]
  omega

lemma levelBefore_nextSignificant (h : i ≤ (ofText source).lastIndex) :
    (ofText source).levelBefore ((ofText source).nextSignificant i) = (ofText source).levelBefore i := by
  fun_induction nextSignificant (ofText source) i with
  | case1 i hskip ih => rw [ih hskip.1, levelBefore, blockLevel_of_isTrivia hskip.1 hskip.2]
  | case2 => rfl

/-- The level is that of the last token before that is no whitespace. -/
lemma exists_findBackward (hi : ((ofText source).kind i).isWhitespace = false) (hlt : i < j)
    (hj : j ≤ (ofText source).lastIndex) :
    ∃ k, (ofText source).findBackward (!·.isWhitespace) j = some k ∧ i ≤ k
      ∧ (ofText source).levelBefore j = ((ofText source).get k).blockLevel := by
  induction j with
  | zero => exact absurd hlt (Nat.not_lt_zero i)
  | succ j ih =>
    rw [findBackward]
    cases hkind : ((ofText source).kind j).isWhitespace with
    | false => exact ⟨j, rfl, Nat.le_of_lt_succ hlt, rfl⟩
    | true =>
      have hne : i ≠ j := by
        rintro rfl
        rw [hi] at hkind
        exact absurd hkind Bool.false_ne_true
      obtain ⟨k, hk, hle, hlevel⟩ := ih (by omega) (Nat.le_of_lt hj)
      refine ⟨k, hk, hle, ?_⟩
      rw [← hlevel]
      exact blockLevel_of_isTrivia hj (by simp [TokenKind.isTrivia, hkind])

/-- The next significant token, read off the list of them. -/
lemma Closed.headD_significantFrom (hc : ts.Closed) (h : i ≤ ts.lastIndex) :
    (ts.significantFrom i).headD ts.lastIndex = ts.nextSignificant i := by
  rcases Nat.lt_or_ge (ts.nextSignificant i) ts.lastIndex with hlt | hge
  · rw [hc.significantFrom_eq_cons hlt, List.headD_cons]
  · rw [significantFrom_eq_nil_of_nextSignificant hge]
    exact Nat.le_antisymm hge (nextSignificant_le h)

/-- Between places with the same significant tokens after them the level stays. -/
lemma levelBefore_congr (hi : i ≤ (ofText source).lastIndex) (hj : j ≤ (ofText source).lastIndex)
    (h : (ofText source).significantFrom i = (ofText source).significantFrom j) :
    (ofText source).levelBefore i = (ofText source).levelBefore j := by
  have hc := closed_ofText source
  rw [← levelBefore_nextSignificant hi, ← levelBefore_nextSignificant hj, ← hc.headD_significantFrom hi,
    ← hc.headD_significantFrom hj, h]

/-- The first of the significant tokens from a place on, with those after it. -/
lemma Closed.of_significantFrom_eq_cons (hc : ts.Closed) {rest : List Nat} (h : ts.significantFrom i = j :: rest) :
    j = ts.nextSignificant i ∧ j < ts.lastIndex ∧ ts.significantFrom (j + 1) = rest := by
  have hnext : ts.nextSignificant i < ts.lastIndex := by
    by_contra hge
    rw [significantFrom_eq_nil_of_nextSignificant (Nat.le_of_not_lt hge)] at h
    exact absurd h nofun
  rw [hc.significantFrom_eq_cons hnext] at h
  obtain ⟨rfl, hrest⟩ := List.cons.inj h
  exact ⟨rfl, hnext, hrest⟩

lemma Closed.of_significantFrom_eq_append (hc : ts.Closed) {read rest : List Nat}
    (h : ts.significantFrom i = read ++ j :: rest) : j < ts.lastIndex ∧ ts.significantFrom (j + 1) = rest := by
  induction read generalizing i with
  | nil => exact (hc.of_significantFrom_eq_cons h).2
  | cons x read ih => exact ih (hc.of_significantFrom_eq_cons h).2.2

/-- A semicolon keeps the level. -/
lemma blockLevel_of_semicolon (h : i < (ofText source).lastIndex) (hkind : (ofText source).kind i = .semicolon) :
    ((ofText source).get i).blockLevel = (ofText source).levelBefore i := by
  rw [blockLevel_eq_blockAfter h (by rw [hkind]; rfl), hkind, Level.blockAfter_semicolon]

/-- So does `CASE` right after `END`. -/
lemma blockLevel_of_endCase (hend : (ofText source).kind i = .keyword .END)
    (hj : j = (ofText source).nextSignificant (i + 1)) (hlt : j < (ofText source).lastIndex)
    (hcase : (ofText source).kind j = .keyword .CASE) :
    ((ofText source).get j).blockLevel = (ofText source).levelBefore j := by
  have hprevious : (ofText source).prevSignificant j = some i := by
    have hsize : j ≤ (ofText source).size := Nat.le_of_lt (Nat.lt_trans hlt (ofText source).lastIndex_lt_size)
    rw [prevSignificant, Nat.min_eq_left hsize, hj, findBackward_nextSignificant, findBackward, hend]
    rfl
  rw [blockLevel_eq_blockAfter hlt (by rw [hcase]; rfl), previousKind?, hprevious, Option.map_some, hend, hcase,
    Level.blockAfter_endCase]

/-- Behind tokens that keep the level it is what it was before them. -/
lemma levelBefore_of_kept {tail : List Nat} (hi : i < (ofText source).lastIndex)
    (hj : j ≤ (ofText source).lastIndex)
    (htail : (ofText source).significantFrom (i + 1) = tail ++ (ofText source).significantFrom j)
    (hkept : ∀ k ∈ tail, ((ofText source).get k).blockLevel = (ofText source).levelBefore k) :
    (ofText source).levelBefore j = ((ofText source).get i).blockLevel := by
  induction tail generalizing i with
  | nil => exact levelBefore_congr hj hi htail.symm
  | cons k tail ih =>
    obtain ⟨hnext, hlt, hrest⟩ := (closed_ofText source).of_significantFrom_eq_cons htail
    rw [ih hlt hrest fun m hm => hkept m (List.mem_cons_of_mem _ hm), hkept k List.mem_cons_self, hnext,
      levelBefore_nextSignificant hi]
    rfl

/-- Behind `END`, `END CASE` and their semicolon the level is that of `END`. -/
lemma levelBefore_of_endCase {tail : List Nat} (hend : (ofText source).kind i = .keyword .END)
    (hi : i < (ofText source).lastIndex) (hj : j ≤ (ofText source).lastIndex)
    (htail : (ofText source).significantFrom (i + 1) = tail ++ (ofText source).significantFrom j)
    (hkinds : (tail.map (ofText source).kind).Sublist [.keyword .CASE, .semicolon]) :
    (ofText source).levelBefore j = ((ofText source).get i).blockLevel := by
  have semicolon {k : Nat} (hk : k ∈ (ofText source).significantFrom (i + 1))
      (hkind : (ofText source).kind k ∈ [TokenKind.semicolon]) :
      ((ofText source).get k).blockLevel = (ofText source).levelBefore k := by
    obtain ⟨read, rest, hsplit⟩ := List.append_of_mem hk
    exact blockLevel_of_semicolon ((closed_ofText source).of_significantFrom_eq_append hsplit).1
      (List.mem_singleton.1 hkind)
  have hmem {k : Nat} (hk : k ∈ tail) : k ∈ (ofText source).significantFrom (i + 1) :=
    htail ▸ List.mem_append_left _ hk
  refine levelBefore_of_kept hi hj htail fun k hk => ?_
  cases tail with
  | nil => exact absurd hk nofun
  | cons first tail =>
    rcases List.cons_sublist_cons'.1 hkinds with hsub | ⟨hcase, hsub⟩
    · exact semicolon (hmem hk) (hsub.subset (List.mem_map_of_mem hk))
    · rcases List.mem_cons.1 hk with rfl | hrest
      · obtain ⟨hnext, hlt, -⟩ := (closed_ofText source).of_significantFrom_eq_cons htail
        exact blockLevel_of_endCase hend hnext hlt hcase
      · exact semicolon (hmem hk) (hsub.subset (List.mem_map_of_mem hrest))

end TokenStream
end SqlLayout
