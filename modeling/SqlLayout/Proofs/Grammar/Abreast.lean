import SqlLayout.Grammar.Block
import SqlLayout.Proofs.Token.Words

/-!
# Two runs abreast

Two runs of the grammar on alike streams are abreast if they have read the same number of words and
recorded the same events. `Abreast ts₁ ts₂ n s₁ s₂` says so of two states and that at most `n` words are
left. What a rule looks at is then the same in both, and the steps that rules are made of keep the runs
abreast: they record the same, and read a word in both or in none.

The number of words left bounds how deep rules have to be unfolded: reading a word takes it from `n + 1`
to `n`.
-/

namespace SqlLayout.Grammar

variable {ts ts₁ ts₂ : TokenStream} {n m : Nat} {s s₁ s₂ t₁ t₂ : State}

/-- States of two runs that have read the same words and recorded the same. -/
structure Abreast (ts₁ ts₂ : TokenStream) (n : Nat) (s₁ s₂ : State) : Prop where
  alike : ts₁.Alike ts₂
  read : ∃ k ≤ ts₁.wordCount, ts₁.wordCount ≤ k + n
    ∧ s₁.pos = ts₁.afterWords k ∧ s₂.pos = ts₂.afterWords k
  events : s₁.events = s₂.events
  depth : s₁.depth = s₂.depth
  overrun : s₁.overrun = s₂.overrun

lemma Abreast.mono (h : Abreast ts₁ ts₂ n s₁ s₂) (hn : n ≤ m) : Abreast ts₁ ts₂ m s₁ s₂ := by
  obtain ⟨k, hk, hleft, hpos⟩ := h.read
  exact ⟨h.alike, ⟨k, hk, by omega, hpos⟩, h.events, h.depth, h.overrun⟩

lemma Abreast.succ (h : Abreast ts₁ ts₂ n s₁ s₂) : Abreast ts₁ ts₂ (n + 1) s₁ s₂ :=
  h.mono n.le_succ

/-! ### Looking ahead -/

/-- Tokens ahead are words up to the end of input. -/
lemma nthIndex_eq_wordIndex (hc : ts.Closed) {k : Nat} (hk : k ≤ ts.wordCount)
    (hpos : s.pos = ts.afterWords k) (m : Nat) :
    nthIndex ts s m = ts.wordIndex (min (k + m) ts.wordCount) := by
  induction m with
  | zero =>
    rw [nthIndex, hpos, Nat.add_zero, Nat.min_eq_left hk]
    rfl
  | succ m ih =>
    rw [nthIndex, ih]
    rcases Nat.lt_or_ge (k + m) ts.wordCount with hlt | hge
    · have heof : ts.isEof (ts.wordIndex (k + m)) = false := by
        rw [TokenStream.isEof, beq_eq_false_iff_ne]
        exact fun h => absurd ((hc.kind_eq_eof_iff _).1 h) (Nat.not_le.2 (hc.wordIndex_lt_iff.2 hlt))
      rw [Nat.min_eq_left (Nat.le_of_lt hlt), Nat.min_eq_left (by omega), heof]
      rfl
    · have heof : ts.isEof (ts.wordIndex ts.wordCount) = true := by
        rw [TokenStream.isEof, beq_iff_eq]
        exact (hc.kind_eq_eof_iff _).2 (hc.lastIndex_le_wordIndex (Nat.le_refl _))
      rw [Nat.min_eq_right hge, Nat.min_eq_right (by omega), heof]
      rfl

namespace Abreast

variable (h : Abreast ts₁ ts₂ n s₁ s₂)

include h

lemma same (m : Nat) : TokenStream.Same ts₁ ts₂ (nthIndex ts₁ s₁ m) (nthIndex ts₂ s₂ m) := by
  obtain ⟨k, hk, -, hpos₁, hpos₂⟩ := h.read
  refine ⟨min (k + m) ts₁.wordCount, nthIndex_eq_wordIndex h.alike.closed₁ hk hpos₁ m, ?_⟩
  rw [h.alike.count] at hk ⊢
  exact nthIndex_eq_wordIndex h.alike.closed₂ hk hpos₂ m

lemma nth_eq (m : Nat) : nth ts₁ s₁ m = nth ts₂ s₂ m :=
  h.alike.kind_eq (h.same m)

lemma nthText_eq (m : Nat) : nthText ts₁ s₁ m = nthText ts₂ s₂ m :=
  h.alike.text_eq (h.same m)

lemma current_eq : current ts₁ s₁ = current ts₂ s₂ :=
  h.nth_eq 0

lemma currentText_eq : currentText ts₁ s₁ = currentText ts₂ s₂ :=
  h.nthText_eq 0

lemma previous_eq : previous ts₁ s₁ = previous ts₂ s₂ := by
  unfold previous
  have hprev := h.alike.prev_rel (h.same 0)
  generalize ts₁.prevSignificant _ = i, ts₂.prevSignificant _ = j at hprev ⊢
  cases hprev with
  | none => rfl
  | some hij => exact congrArg some (h.alike.kind_eq hij)

lemma at?_eq (kind : TokenKind) : at? ts₁ s₁ kind = at? ts₂ s₂ kind := by
  rw [at?, at?, h.current_eq]

lemma atAny_eq (kinds : KindSet) : atAny ts₁ s₁ kinds = atAny ts₂ s₂ kinds := by
  rw [atAny, atAny, h.current_eq]

lemma atOperator_eq (spelling : String) : atOperator ts₁ s₁ spelling = atOperator ts₂ s₂ spelling := by
  rw [atOperator, atOperator, h.at?_eq, h.currentText_eq]

lemma atEnd_eq : atEnd ts₁ s₁ = atEnd ts₂ s₂ :=
  h.at?_eq .eof

lemma nthIsWord_eq (m : Nat) (word : String) : nthIsWord ts₁ s₁ m word = nthIsWord ts₂ s₂ m word := by
  rw [nthIsWord, nthIsWord, h.nthText_eq]

lemma blockLevel_eq : blockLevel ts₁ s₁ = blockLevel ts₂ s₂ :=
  h.alike.blockLevel_eq (h.same 0)

lemma levelOutside_eq : levelOutside ts₁ s₁ = levelOutside ts₂ s₂ := by
  have hkind := h.nth_eq 0
  have hlevel := h.blockLevel_eq
  unfold levelOutside TokenStream.levelOutside
  unfold nth TokenStream.kind at hkind
  unfold blockLevel at hlevel
  simp only [hkind, hlevel]

/-- Without comments, only whitespace parts a bracket from the word before it. -/
lemma nthIsSpaced_eq {m : Nat} (hparen : nth ts₁ s₁ m = .lParen) :
    nthIsSpaced ts₁ s₁ m = nthIsSpaced ts₂ s₂ m := by
  unfold nthIsSpaced
  dsimp only
  rw [h.alike.bare₁, h.alike.bare₂]
  unfold nth at hparen
  obtain ⟨k, hk₁, hk₂⟩ := h.same m
  rw [hk₁] at hparen
  rw [hk₁, hk₂, h.alike.spaced k hparen]

lemma inferredRole_eq : inferredRole ts₁ s₁ = inferredRole ts₂ s₂ := by
  simp only [inferredRole, identRole, keywordRole, h.current_eq, h.currentText_eq, h.previous_eq, h.nth_eq]

lemma atClauseStart_eq : atClauseStart ts₁ s₁ = atClauseStart ts₂ s₂ := by
  simp only [atClauseStart, h.current_eq, h.previous_eq, h.nth_eq, h.nthIsWord_eq]

lemma hit_eq (stop : Stop) : stop.hit ts₁ s₁ = stop.hit ts₂ s₂ := by
  rw [Stop.hit, Stop.hit, h.atAny_eq, h.atClauseStart_eq]

end Abreast

/-- Where the input has not ended, there is a word left. -/
lemma Abreast.exists_succ (h : Abreast ts₁ ts₂ n s₁ s₂) (hne : nth ts₁ s₁ 0 ≠ .eof) :
    ∃ m, n = m + 1 := by
  obtain ⟨k, hk, hleft, hpos₁, -⟩ := h.read
  rcases Nat.lt_or_eq_of_le hk with hlt | rfl
  · exact ⟨n - 1, by omega⟩
  · refine absurd ?_ hne
    rw [nth, nthIndex_eq_wordIndex h.alike.closed₁ hk hpos₁, Nat.add_zero, Nat.min_self]
    exact (h.alike.closed₁.kind_eq_eof_iff _).2 (h.alike.closed₁.lastIndex_le_wordIndex hk)

/-- Reading stops at the same word in both runs or in none. -/
lemma Abreast.nthIndex_eq_iff (h : Abreast ts₁ ts₂ n s₁ s₂) (h' : Abreast ts₁ ts₂ m t₁ t₂) :
    nthIndex ts₁ t₁ 0 = nthIndex ts₁ s₁ 0 ↔ nthIndex ts₂ t₂ 0 = nthIndex ts₂ s₂ 0 := by
  obtain ⟨i, hi₁, hi₂⟩ := h'.same 0
  obtain ⟨j, hj₁, hj₂⟩ := h.same 0
  rw [hi₁, hi₂, hj₁, hj₂, ts₁.strictMono_wordIndex.injective.eq_iff,
    ts₂.strictMono_wordIndex.injective.eq_iff]

lemma remaining_afterWords_lt_iff (hc : ts.Closed) {j k : Nat} (hj : j ≤ ts.wordCount) :
    ts.size - ts.afterWords k < ts.size - ts.afterWords j ↔ j < k := by
  have hsize := ts.lastIndex_lt_size
  have hle := hc.afterWords_le hj
  have hmono : ts.afterWords j < ts.afterWords k ↔ j < k := ts.strictMono_afterWords.lt_iff_lt
  rw [← hmono, TokenStream.size]
  omega

/-- A rule moves forward in both runs or in none; where it does, fewer words are left. -/
lemma Abreast.remaining_lt_iff (h : Abreast ts₁ ts₂ n s₁ s₂) (h' : Abreast ts₁ ts₂ m t₁ t₂) :
    (remaining ts₁ t₁ < remaining ts₁ s₁ ↔ remaining ts₂ t₂ < remaining ts₂ s₂)
      ∧ (remaining ts₁ t₁ < remaining ts₁ s₁ → ∃ l, n = l + 1 ∧ Abreast ts₁ ts₂ l t₁ t₂) := by
  obtain ⟨j, hj, hleft, hj₁, hj₂⟩ := h.read
  obtain ⟨k, hk, -, hk₁, hk₂⟩ := h'.read
  have hlt₁ := @remaining_afterWords_lt_iff _ h.alike.closed₁ j k hj
  have hlt₂ := @remaining_afterWords_lt_iff _ h.alike.closed₂ j k (h.alike.count ▸ hj)
  rw [remaining, remaining, remaining, remaining, hj₁, hj₂, hk₁, hk₂, hlt₁, hlt₂]
  refine ⟨Iff.rfl, fun hlt => ⟨n - 1, by omega, ?_⟩⟩
  exact ⟨h.alike, ⟨k, hk, by omega, hk₁, hk₂⟩, h'.events, h'.depth, h'.overrun⟩

/-! ### Steps -/

lemma Abreast.ite {c₁ c₂ : Prop} [Decidable c₁] [Decidable c₂] {a₁ a₂ b₁ b₂ : State} (hc : c₁ ↔ c₂)
    (ha : c₁ → Abreast ts₁ ts₂ n a₁ a₂) (hb : ¬c₁ → Abreast ts₁ ts₂ n b₁ b₂) :
    Abreast ts₁ ts₂ n (if c₁ then a₁ else b₁) (if c₂ then a₂ else b₂) := by
  by_cases h : c₁
  · rw [if_pos h, if_pos (hc.1 h)]
    exact ha h
  · rw [if_neg h, if_neg (h ∘ hc.2)]
    exact hb h

lemma Abreast.cond {c₁ c₂ : Bool} {a₁ a₂ b₁ b₂ : State} (hc : c₁ = c₂)
    (ha : c₁ = true → Abreast ts₁ ts₂ n a₁ a₂) (hb : ¬c₁ = true → Abreast ts₁ ts₂ n b₁ b₂) :
    Abreast ts₁ ts₂ n (if c₁ then a₁ else b₁) (if c₂ then a₂ else b₂) :=
  .ite (by rw [hc]) ha hb

lemma Abreast.complain (h : Abreast ts₁ ts₂ n s₁ s₂) (cause : Complaint) :
    Abreast ts₁ ts₂ n (complain cause s₁) (complain cause s₂) :=
  ⟨h.alike, h.read, congrArg (_ :: ·) h.events, h.depth, h.overrun⟩

/-- Reading a word leaves one less; at the end of input none was left. -/
lemma Abreast.takeWord (h : Abreast ts₁ ts₂ (n + 1) s₁ s₂) (role : LeafRole) :
    Abreast ts₁ ts₂ n (take ts₁ role s₁) (take ts₂ role s₂) := by
  obtain ⟨k, hk, hleft, hpos₁, hpos₂⟩ := h.read
  have hnext₁ := nthIndex_eq_wordIndex h.alike.closed₁ hk hpos₁ 0
  have hnext₂ := nthIndex_eq_wordIndex h.alike.closed₂ (h.alike.count ▸ hk) hpos₂ 0
  rw [Nat.add_zero, Nat.min_eq_left hk] at hnext₁
  rw [Nat.add_zero, Nat.min_eq_left (h.alike.count ▸ hk)] at hnext₂
  have hend : atEnd ts₁ s₁ = true ↔ k = ts₁.wordCount := by
    rw [atEnd, at?, beq_iff_eq, current, nth, hnext₁,
      h.alike.closed₁.kind_eq_eof_iff, ← Nat.not_lt, h.alike.closed₁.wordIndex_lt_iff]
    omega
  unfold take
  rw [← h.atEnd_eq]
  split
  · next hk' =>
    rw [hend] at hk'
    exact ⟨h.alike, ⟨k, hk, by omega, hpos₁, hpos₂⟩, h.events, h.depth, rfl⟩
  · next hk' =>
    rw [hend] at hk'
    refine ⟨h.alike, ⟨k + 1, by omega, by omega, ?_, ?_⟩, congrArg (_ :: ·) h.events, h.depth, h.overrun⟩
    · exact congrArg (· + 1) hnext₁
    · exact congrArg (· + 1) hnext₂

lemma Abreast.take (h : Abreast ts₁ ts₂ n s₁ s₂) (role : LeafRole) :
    Abreast ts₁ ts₂ n (take ts₁ role s₁) (take ts₂ role s₂) :=
  h.succ.takeWord role

lemma Abreast.bumpWord (h : Abreast ts₁ ts₂ (n + 1) s₁ s₂) :
    Abreast ts₁ ts₂ n (bump ts₁ s₁) (bump ts₂ s₂) := by
  unfold Grammar.bump
  rw [h.inferredRole_eq]
  exact h.takeWord _

lemma Abreast.bump (h : Abreast ts₁ ts₂ n s₁ s₂) : Abreast ts₁ ts₂ n (bump ts₁ s₁) (bump ts₂ s₂) :=
  h.succ.bumpWord

lemma Abreast.takeIf (h : Abreast ts₁ ts₂ n s₁ s₂) (kind : TokenKind) (role : LeafRole) :
    Abreast ts₁ ts₂ n (if at? ts₁ s₁ kind then Grammar.take ts₁ role s₁ else s₁)
      (if at? ts₂ s₂ kind then Grammar.take ts₂ role s₂ else s₂) :=
  .cond (h.at?_eq kind) (fun _ => h.take role) fun _ => h

lemma Abreast.eat (h : Abreast ts₁ ts₂ n s₁ s₂) (kind : TokenKind) :
    Abreast ts₁ ts₂ n (eat ts₁ kind s₁) (eat ts₂ kind s₂) :=
  .cond (h.at?_eq kind) (fun _ => h.bump) fun _ => h

lemma Abreast.require (h : Abreast ts₁ ts₂ n s₁ s₂) (kind : TokenKind) (role : LeafRole)
    (cause : Complaint) :
    Abreast ts₁ ts₂ n (require ts₁ kind role cause s₁) (require ts₂ kind role cause s₂) :=
  .cond (h.at?_eq kind) (fun _ => h.take role) fun _ => h.complain cause

/-- Rules that keep runs abreast do so inside a node. -/
lemma Abreast.node (h : Abreast ts₁ ts₂ n s₁ s₂) {kind : NodeKind} {rule₁ rule₂ : State → State}
    (hrule : ∀ s₁ s₂, Abreast ts₁ ts₂ n s₁ s₂ → Abreast ts₁ ts₂ m (rule₁ s₁) (rule₂ s₂)) :
    Abreast ts₁ ts₂ m (node kind rule₁ s₁) (node kind rule₂ s₂) := by
  have hopen : Abreast ts₁ ts₂ n { s₁ with events := .open kind :: s₁.events }
      { s₂ with events := .open kind :: s₂.events } :=
    ⟨h.alike, h.read, congrArg (_ :: ·) h.events, h.depth, h.overrun⟩
  have hinner := hrule _ _ hopen
  exact ⟨hinner.alike, hinner.read, congrArg (_ :: ·) hinner.events, hinner.depth, hinner.overrun⟩

lemma Abreast.rejectToken (h : Abreast ts₁ ts₂ n s₁ s₂) (cause : Complaint) :
    Abreast ts₁ ts₂ n (rejectToken ts₁ cause s₁) (rejectToken ts₂ cause s₂) :=
  h.node fun _ _ h => (h.complain cause).take .literal

lemma Abreast.rejectMalformed (h : Abreast ts₁ ts₂ n s₁ s₂) :
    Abreast ts₁ ts₂ n (rejectMalformed ts₁ s₁) (rejectMalformed ts₂ s₂) := by
  unfold Grammar.rejectMalformed
  rw [h.currentText_eq]
  exact h.rejectToken _

/-- A repetition goes on in both runs or in none, as each round reads a word. -/
lemma Abreast.repeatWhile {condition₁ condition₂ : State → Bool} {rule₁ rule₂ : State → State}
    (h : Abreast ts₁ ts₂ n s₁ s₂)
    (hcondition : ∀ s₁ s₂, Abreast ts₁ ts₂ n s₁ s₂ → condition₁ s₁ = condition₂ s₂)
    (hrule : ∀ m ≤ n, ∀ s₁ s₂, Abreast ts₁ ts₂ m s₁ s₂ → condition₁ s₁ = true →
      Abreast ts₁ ts₂ m (rule₁ s₁) (rule₂ s₂)) :
    Abreast ts₁ ts₂ n (repeatWhile ts₁ condition₁ rule₁ s₁) (repeatWhile ts₂ condition₂ rule₂ s₂) := by
  -- The induction is on the number of words left, which each further round makes smaller.
  induction n using Nat.strong_induction_on generalizing s₁ s₂ with
  | _ n ih =>
    rw [Grammar.repeatWhile, Grammar.repeatWhile]
    refine .cond (hcondition _ _ h) (fun hs => ?_) fun _ => h
    have ht := hrule _ (Nat.le_refl _) _ _ h hs
    obtain ⟨hiff, hless⟩ := h.remaining_lt_iff ht
    refine .ite hiff (fun hlt => ?_) fun _ => ht
    obtain ⟨l, rfl, hleft⟩ := hless hlt
    exact (ih l (Nat.lt_succ_self l) hleft (fun s₁ s₂ h => hcondition s₁ s₂ h.succ)
      fun m hm s₁ s₂ h => hrule m (Nat.le_succ_of_le hm) s₁ s₂ h).succ

/-! ### Groups that are nested too deeply -/

/-- Openers of groups that agree in what their ends are found by. -/
def SameOpener (opener₁ opener₂ : Token) : Prop :=
  opener₁.kind = opener₂.kind ∧ opener₁.parenLevel = opener₂.parenLevel

lemma Abreast.takeGroup (h : Abreast ts₁ ts₂ n s₁ s₂) {opener₁ opener₂ : Token}
    (hopener : SameOpener opener₁ opener₂) (outside : Nat) :
    Abreast ts₁ ts₂ n (takeGroup ts₁ opener₁ outside s₁) (takeGroup ts₂ opener₂ outside s₂) := by
  have hends {s₁ s₂ : State} (h : Abreast ts₁ ts₂ n s₁ s₂) :
      (atEnd ts₁ s₁ || endsKeptBody opener₁ (ts₁.get (nthIndex ts₁ s₁ 0)))
        = (atEnd ts₂ s₂ || endsKeptBody opener₂ (ts₂.get (nthIndex ts₂ s₂ 0))) := by
    have hkind : (ts₁.get _).kind = (ts₂.get _).kind := h.nth_eq 0
    rw [h.atEnd_eq, endsKeptBody, endsKeptBody, hopener.1, hkind]
  have hcloses {s₁ s₂ : State} (h : Abreast ts₁ ts₂ n s₁ s₂) :
      closesGroup opener₁ outside (ts₁.get (nthIndex ts₁ s₁ 0))
        = closesGroup opener₂ outside (ts₂.get (nthIndex ts₂ s₂ 0)) := by
    have hkind : (ts₁.get _).kind = (ts₂.get _).kind := h.nth_eq 0
    have hblock : (ts₁.get _).blockLevel = (ts₂.get _).blockLevel := h.blockLevel_eq
    have hparen := h.alike.parenLevel_eq (h.same 0)
    simp only [closesGroup, hopener.1, hopener.2, hkind, hblock, hparen]
  induction n using Nat.strong_induction_on generalizing s₁ s₂ with
  | _ n ih =>
    rw [Grammar.takeGroup, Grammar.takeGroup]
    refine .cond (hends h) (fun _ => h) fun _ => .cond (hcloses h) (fun _ => h.take _) fun _ => ?_
    obtain ⟨hiff, hless⟩ := h.remaining_lt_iff (h.take .literal)
    refine .ite hiff (fun hlt => ?_) fun _ => h.take _
    obtain ⟨l, rfl, hleft⟩ := hless hlt
    exact (ih l (Nat.lt_succ_self l) hleft (fun h => hends h.succ) fun h => hcloses h.succ).succ

lemma Abreast.rejectGroup (h : Abreast ts₁ ts₂ (n + 1) s₁ s₂) :
    Abreast ts₁ ts₂ n (rejectGroup ts₁ s₁) (rejectGroup ts₂ s₂) := by
  unfold Grammar.rejectGroup
  dsimp only
  have hopener : SameOpener (ts₁.get (nthIndex ts₁ s₁ 0)) (ts₂.get (nthIndex ts₂ s₂ 0)) :=
    ⟨h.nth_eq 0, h.alike.parenLevel_eq (h.same 0)⟩
  rw [h.levelOutside_eq]
  exact h.node fun _ _ h => ((h.complain .nestingTooDeep).takeWord _).takeGroup hopener _

/-- A group reads its opening word, whether it is counted or rejected. -/
lemma Abreast.nested (h : Abreast ts₁ ts₂ (n + 1) s₁ s₂) {rule₁ rule₂ : State → State}
    (hrule : ∀ s₁ s₂, Abreast ts₁ ts₂ (n + 1) s₁ s₂ → Abreast ts₁ ts₂ m (rule₁ s₁) (rule₂ s₂))
    (hm : n ≤ m) : Abreast ts₁ ts₂ m (nested ts₁ rule₁ s₁) (nested ts₂ rule₂ s₂) := by
  refine .ite (by rw [h.depth]) (fun _ => ?_) fun _ => h.rejectGroup.mono hm
  have hdeeper : Abreast ts₁ ts₂ (n + 1) { s₁ with depth := s₁.depth + 1 }
      { s₂ with depth := s₂.depth + 1 } :=
    ⟨h.alike, h.read, h.events, congrArg (· + 1) h.depth, h.overrun⟩
  have hinner := hrule _ _ hdeeper
  exact ⟨hinner.alike, hinner.read, hinner.events, congrArg (· - 1) hinner.depth, hinner.overrun⟩

end SqlLayout.Grammar
