import Mathlib.Order.Monotone.Basic
import SqlLayout.Proofs.Token.Significant

/-!
# Words of a stream

The significant tokens of a stream are its words. They are numbered, and `wordIndex` finds a word by its
number: after the last word comes the end of input, and after that the indices past the stream. Streams
are alike if their words agree in kind, text and nesting, and if their opening brackets agree on whether
whitespace stands before them. Streams of sources without comments are alike as soon as their words agree
in kind and text and in the whitespace before brackets: trivia have no part in the nesting levels.
-/

namespace SqlLayout.TokenStream

variable {ts ts₁ ts₂ : TokenStream} {i j n : Nat}

/-- Where reading goes on after the first words. -/
def afterWords (ts : TokenStream) : Nat → Nat
  | 0 => 0
  | n + 1 => ts.nextSignificant (afterWords ts n) + 1

/-- Index of the word with the number `n`. -/
def wordIndex (ts : TokenStream) (n : Nat) : Nat :=
  ts.nextSignificant (ts.afterWords n)

/-- Number of words. -/
def wordCount (ts : TokenStream) : Nat :=
  (ts.significantFrom 0).length

/-- The words, each with its kind and text, and for opening brackets whether whitespace precedes. -/
def words (ts : TokenStream) : List (TokenKind × Text × Bool) :=
  (ts.significantFrom 0).map fun i =>
    (ts.kind i, ts.text i, ts.kind i == .lParen && ts.hasSpaceBefore i)

/-! ### Finding words -/

lemma nextSignificant_wordIndex_succ (ts : TokenStream) (n : Nat) :
    ts.nextSignificant (ts.wordIndex n + 1) = ts.wordIndex (n + 1) := rfl

lemma afterWords_le_wordIndex (ts : TokenStream) (n : Nat) : ts.afterWords n ≤ ts.wordIndex n :=
  ts.le_nextSignificant _

lemma strictMono_afterWords (ts : TokenStream) : StrictMono ts.afterWords :=
  strictMono_nat_of_lt_succ fun n => Nat.lt_succ_of_le (ts.afterWords_le_wordIndex n)

lemma wordIndex_lt_succ (ts : TokenStream) (n : Nat) : ts.wordIndex n < ts.wordIndex (n + 1) :=
  Nat.lt_of_lt_of_le (Nat.lt_succ_self _) (ts.afterWords_le_wordIndex (n + 1))

lemma strictMono_wordIndex (ts : TokenStream) : StrictMono ts.wordIndex :=
  strictMono_nat_of_lt_succ ts.wordIndex_lt_succ

lemma Closed.isTrivia_wordIndex (hc : ts.Closed) (n : Nat) :
    (ts.kind (ts.wordIndex n)).isTrivia = false :=
  hc.isTrivia_nextSignificant _

/-- After some words have been read, the others are left. -/
lemma Closed.significantFrom_afterWords (hc : ts.Closed) (n : Nat) :
    ts.significantFrom (ts.afterWords n) = (ts.significantFrom 0).drop n := by
  induction n with
  | zero => rfl
  | succ n ih =>
    rw [← List.drop_drop, ← ih]
    rcases Nat.lt_or_ge (ts.wordIndex n) ts.lastIndex with hlt | hge
    · rw [hc.significantFrom_eq_cons hlt]
      rfl
    · rw [significantFrom_eq_nil_of_nextSignificant hge]
      exact significantFrom_eq_nil (Nat.le_succ_of_le hge)

lemma Closed.wordIndex_lt_iff (hc : ts.Closed) : ts.wordIndex n < ts.lastIndex ↔ n < ts.wordCount := by
  have hdrop := congrArg List.length (hc.significantFrom_afterWords n)
  rw [List.length_drop, ← wordCount] at hdrop
  constructor
  · intro hlt
    rw [hc.significantFrom_eq_cons hlt, List.length_cons] at hdrop
    omega
  · intro hn
    by_contra hge
    rw [significantFrom_eq_nil_of_nextSignificant (Nat.le_of_not_lt hge), List.length_nil] at hdrop
    omega

/-- The words are found one after the other. -/
lemma Closed.significantFrom_eq_map (hc : ts.Closed) :
    ts.significantFrom 0 = (List.range ts.wordCount).map ts.wordIndex := by
  refine List.ext_getElem? fun n => ?_
  rw [← Nat.add_zero n, ← List.getElem?_drop, ← hc.significantFrom_afterWords, Nat.add_zero]
  rcases Nat.lt_or_ge n ts.wordCount with hlt | hge
  · rw [hc.significantFrom_eq_cons (hc.wordIndex_lt_iff.2 hlt)]
    simp [wordIndex, hlt]
  · have hn : ts.lastIndex ≤ ts.nextSignificant (ts.afterWords n) :=
      Nat.le_of_not_lt fun hlt => Nat.not_lt.2 hge (hc.wordIndex_lt_iff.1 hlt)
    rw [significantFrom_eq_nil_of_nextSignificant hn]
    simp [hge]

lemma nextSignificant_le (h : i ≤ ts.lastIndex) : ts.nextSignificant i ≤ ts.lastIndex := by
  fun_induction nextSignificant ts i with
  | case1 i hi ih => exact ih (by omega)
  | case2 i hi => exact h

lemma Closed.afterWords_le (hc : ts.Closed) (h : n ≤ ts.wordCount) : ts.afterWords n ≤ ts.lastIndex := by
  cases n with
  | zero => exact Nat.zero_le _
  | succ n => exact hc.wordIndex_lt_iff.2 h

/-- After the last word comes the end of input. -/
lemma Closed.wordIndex_wordCount (hc : ts.Closed) : ts.wordIndex ts.wordCount = ts.lastIndex := by
  refine Nat.le_antisymm (nextSignificant_le (hc.afterWords_le (Nat.le_refl _))) ?_
  exact Nat.le_of_not_lt fun hlt => Nat.lt_irrefl _ (hc.wordIndex_lt_iff.1 hlt)

lemma Closed.lastIndex_le_wordIndex (hc : ts.Closed) (h : ts.wordCount ≤ n) :
    ts.lastIndex ≤ ts.wordIndex n :=
  Nat.le_of_not_lt fun hlt => Nat.not_lt.2 h (hc.wordIndex_lt_iff.1 hlt)

/-- Past the end of input there is one index after the other. -/
lemma Closed.wordIndex_add (hc : ts.Closed) (n : Nat) :
    ts.wordIndex (ts.wordCount + n) = ts.lastIndex + n := by
  induction n with
  | zero => exact hc.wordIndex_wordCount
  | succ n ih =>
    rw [← Nat.add_assoc, ← nextSignificant_wordIndex_succ, ih, nextSignificant, if_neg (by omega)]
    rfl

/-! ### The word before a word -/

/-- Going back from the next significant token passes trivia only. -/
lemma findBackward_nextSignificant (ts : TokenStream) (i : Nat) :
    ts.findBackward (fun k => !k.isTrivia) (ts.nextSignificant i)
      = ts.findBackward (fun k => !k.isTrivia) i := by
  fun_induction nextSignificant ts i with
  | case1 i h ih => rw [ih, findBackward, h.2]; rfl
  | case2 i h => rfl

lemma Closed.findBackward_wordIndex (hc : ts.Closed) (n : Nat) :
    ts.findBackward (fun k => !k.isTrivia) (ts.wordIndex (n + 1)) = some (ts.wordIndex n) := by
  rw [← nextSignificant_wordIndex_succ, findBackward_nextSignificant, findBackward,
    hc.isTrivia_wordIndex]
  rfl

lemma prevSignificant_wordIndex_zero (ts : TokenStream) : ts.prevSignificant (ts.wordIndex 0) = none := by
  have hle : ts.wordIndex 0 ≤ ts.size :=
    Nat.le_trans (nextSignificant_le (Nat.zero_le _)) (Nat.le_of_lt ts.lastIndex_lt_size)
  rw [prevSignificant, Nat.min_eq_left hle]
  exact ts.findBackward_nextSignificant 0

lemma Closed.prevSignificant_wordIndex_succ (hc : ts.Closed) (h : n ≤ ts.wordCount) :
    ts.prevSignificant (ts.wordIndex (n + 1)) = some (ts.wordIndex n) := by
  have hsize : ts.wordIndex (n + 1) ≤ ts.size := by
    have hmono : ts.wordIndex (n + 1) ≤ ts.wordIndex (ts.wordCount + 1) :=
      ts.strictMono_wordIndex.monotone (Nat.succ_le_succ h)
    rw [hc.wordIndex_add] at hmono
    exact Nat.le_trans hmono ts.lastIndex_lt_size
  rw [prevSignificant, Nat.min_eq_left hsize, hc.findBackward_wordIndex]

/-- Before all indices past the stream stands the end of input. -/
lemma Closed.prevSignificant_of_le (hc : ts.Closed) (h : ts.wordCount ≤ n) :
    ts.prevSignificant (ts.wordIndex (n + 1)) = some ts.lastIndex := by
  have hsize : ts.lastIndex + 1 = ts.size := Nat.succ_pred_eq_of_pos ts.nonempty
  have hle : ts.size ≤ ts.wordIndex (n + 1) := by
    rw [← hsize]
    exact Nat.lt_of_le_of_lt (hc.lastIndex_le_wordIndex h) (ts.wordIndex_lt_succ n)
  rw [prevSignificant, Nat.min_eq_right hle, ← hsize, findBackward,
    (hc.kind_eq_eof_iff _).2 (Nat.le_refl _)]
  rfl

/-! ### Streams that agree in their words -/

/-- Streams without comments whose words agree in all that layout reads of them. -/
structure Alike (ts₁ ts₂ : TokenStream) : Prop where
  closed₁ : ts₁.Closed
  closed₂ : ts₂.Closed
  bare₁ (i : Nat) : (ts₁.kind i).isComment = false
  bare₂ (i : Nat) : (ts₂.kind i).isComment = false
  count : ts₁.wordCount = ts₂.wordCount
  kind (n : Nat) : ts₁.kind (ts₁.wordIndex n) = ts₂.kind (ts₂.wordIndex n)
  text (n : Nat) : ts₁.text (ts₁.wordIndex n) = ts₂.text (ts₂.wordIndex n)
  parenLevel (n : Nat) :
    (ts₁.get (ts₁.wordIndex n)).parenLevel = (ts₂.get (ts₂.wordIndex n)).parenLevel
  blockLevel (n : Nat) :
    (ts₁.get (ts₁.wordIndex n)).blockLevel = (ts₂.get (ts₂.wordIndex n)).blockLevel
  spaced (n : Nat) : ts₁.kind (ts₁.wordIndex n) = .lParen →
    ts₁.hasSpaceBefore (ts₁.wordIndex n) = ts₂.hasSpaceBefore (ts₂.wordIndex n)

/-- Indices at which two streams have the same word. -/
def Same (ts₁ ts₂ : TokenStream) (i j : Nat) : Prop :=
  ∃ n, i = ts₁.wordIndex n ∧ j = ts₂.wordIndex n

lemma Same.next (h : Same ts₁ ts₂ i j) :
    Same ts₁ ts₂ (ts₁.nextSignificant (i + 1)) (ts₂.nextSignificant (j + 1)) := by
  obtain ⟨n, rfl, rfl⟩ := h
  exact ⟨n + 1, rfl, rfl⟩

namespace Alike

variable (h : Alike ts₁ ts₂) (hij : Same ts₁ ts₂ i j)

include h hij

lemma kind_eq : ts₁.kind i = ts₂.kind j := by
  obtain ⟨n, rfl, rfl⟩ := hij
  exact h.kind n

lemma text_eq : ts₁.text i = ts₂.text j := by
  obtain ⟨n, rfl, rfl⟩ := hij
  exact h.text n

lemma parenLevel_eq : (ts₁.get i).parenLevel = (ts₂.get j).parenLevel := by
  obtain ⟨n, rfl, rfl⟩ := hij
  exact h.parenLevel n

lemma blockLevel_eq : (ts₁.get i).blockLevel = (ts₂.get j).blockLevel := by
  obtain ⟨n, rfl, rfl⟩ := hij
  exact h.blockLevel n

/-- Same words come after the same words. -/
lemma prev_rel : Option.Rel (Same ts₁ ts₂) (ts₁.prevSignificant i) (ts₂.prevSignificant j) := by
  obtain ⟨n, rfl, rfl⟩ := hij
  cases n with
  | zero =>
    rw [prevSignificant_wordIndex_zero, prevSignificant_wordIndex_zero]
    exact .none
  | succ n =>
    rcases Nat.le_total n ts₁.wordCount with hle | hge
    · rw [h.closed₁.prevSignificant_wordIndex_succ hle,
        h.closed₂.prevSignificant_wordIndex_succ (h.count ▸ hle)]
      exact .some ⟨n, rfl, rfl⟩
    · rw [h.closed₁.prevSignificant_of_le hge, h.closed₂.prevSignificant_of_le (h.count ▸ hge)]
      exact .some ⟨ts₁.wordCount, h.closed₁.wordIndex_wordCount.symm,
        (h.count ▸ h.closed₂.wordIndex_wordCount).symm⟩

end Alike

/-! ### Streams of sources -/

/-- What of a token does not depend on the trivia around it. -/
def shapeOf (t : Token) : TokenKind × Text × Nat × Nat :=
  (t.kind, t.text, t.parenLevel, t.blockLevel)

/-- Whether a lexeme is no trivia. -/
def isWord (x : Lexeme) : Bool :=
  !x.kind.isTrivia

lemma firstSignificant_filter (lexemes : List Lexeme) :
    firstSignificant (lexemes.filter isWord) = firstSignificant lexemes := by
  rw [firstSignificant, firstSignificant, List.find?_filter]
  simp [isWord]

/-- Trivia have no part in the levels of words. -/
lemma map_shapeOf_place (start start' : Nat) (depth shown : Level) (previous : Option TokenKind)
    (lexemes : List Lexeme) :
    ((place start depth shown previous lexemes).filter fun t => !t.kind.isTrivia).map shapeOf
      = (place start' depth shown previous (lexemes.filter isWord)).map shapeOf := by
  induction lexemes generalizing start start' depth shown previous with
  | nil => rfl
  | cons x rest ih =>
    cases htrivia : x.kind.isTrivia with
    | true =>
      rw [List.filter_cons_of_neg (by simp [isWord, htrivia]), place]
      simp only [htrivia, if_true]
      rw [List.filter_cons_of_neg (by simp [htrivia])]
      exact ih ..
    | false =>
      rw [List.filter_cons_of_pos (by simp [isWord, htrivia]), place, place]
      simp only [htrivia, Bool.false_eq_true, if_false, firstSignificant_filter]
      rw [List.filter_cons_of_pos (by simp [htrivia]), List.map_cons, List.map_cons]
      exact congrArg _ (ih ..)

/-- The tokens that are no trivia are the words and the end of input. -/
lemma Closed.filter_tokens (hc : ts.Closed) :
    ts.tokens.toList.filter (fun t => !t.kind.isTrivia)
      = (List.range (ts.wordCount + 1)).map fun n => ts.get (ts.wordIndex n) := by
  have htokens : ts.tokens.toList = (List.range' 0 (ts.lastIndex + 1)).map ts.get := by
    refine List.ext_getElem? fun i => ?_
    rcases Nat.lt_or_ge i (ts.lastIndex + 1) with hlt | hge
    · rw [Array.getElem?_toList, getElem?_tokens (Nat.le_of_lt_succ hlt)]
      simp [List.getElem?_range' hlt]
    · have hsize : ts.lastIndex + 1 = ts.tokens.size := Nat.succ_pred_eq_of_pos ts.nonempty
      rw [List.getElem?_eq_none (by simpa [← hsize] using hge),
        List.getElem?_eq_none (by simpa using hge)]
  have hlast : (ts.kind ts.lastIndex).isTrivia = false := by
    rw [(hc.kind_eq_eof_iff _).2 (Nat.le_refl _)]
    rfl
  rw [htokens, List.filter_map, List.range'_concat, List.filter_append, List.map_append,
    List.range_succ, List.map_append]
  congr 1
  · have hwords := congrArg (List.map ts.get) hc.significantFrom_eq_map
    rw [List.map_map] at hwords
    exact hwords
  · rw [Nat.one_mul, Nat.zero_add, List.filter_cons_of_pos (by simpa [kind] using hlast)]
    simp [hc.wordIndex_wordCount]

/-- The lexemes of a source that are no trivia are its words. -/
lemma filter_scan (source : Text) :
    (Lexeme.scan {} source).filter isWord ++ [⟨.eof, []⟩]
      = (List.range ((ofText source).wordCount + 1)).map fun n =>
          Lexeme.mk ((ofText source).kind ((ofText source).wordIndex n))
            ((ofText source).text ((ofText source).wordIndex n)) := by
  have htokens := congrArg (List.map fun t => Lexeme.mk t.kind t.text) (closed_ofText source).filter_tokens
  rw [List.map_map] at htokens
  refine .trans ?_ htokens
  have hlexemes := congrArg (List.filter isWord) (map_lexeme_place 0 {} {} none (Lexeme.scan {} source))
  rw [List.filter_append, List.filter_map] at hlexemes
  exact hlexemes.symm

/-- The words of a source with their levels are its lexemes placed without trivia. -/
lemma map_shapeOf_words (source : Text) :
    (List.range ((ofText source).wordCount + 1)).map
        (fun n => shapeOf ((ofText source).get ((ofText source).wordIndex n)))
      = (place 0 {} {} none ((Lexeme.scan {} source).filter isWord)).map shapeOf := by
  have htokens := congrArg (List.map shapeOf) (closed_ofText source).filter_tokens
  rw [List.map_map] at htokens
  exact htokens.symm.trans (map_shapeOf_place ..)

lemma Closed.words_eq (hc : ts.Closed) : ts.words = (List.range ts.wordCount).map fun n =>
    (ts.kind (ts.wordIndex n), ts.text (ts.wordIndex n),
      ts.kind (ts.wordIndex n) == .lParen && ts.hasSpaceBefore (ts.wordIndex n)) := by
  rw [words, hc.significantFrom_eq_map, List.map_map]
  rfl

lemma get_wordIndex_of_le (hc : ts.Closed) (h : ts.wordCount ≤ n) :
    ts.get (ts.wordIndex n) = ts.get (ts.wordIndex ts.wordCount) := by
  rw [get_of_le (hc.lastIndex_le_wordIndex h), hc.wordIndex_wordCount]

/-- Sources without comments have alike streams if they have the same words. -/
theorem alike_of_words {source₁ source₂ : Text}
    (hbare₁ : ∀ i, ((ofText source₁).kind i).isComment = false)
    (hbare₂ : ∀ i, ((ofText source₂).kind i).isComment = false)
    (h : (ofText source₁).words = (ofText source₂).words) : Alike (ofText source₁) (ofText source₂) := by
  have hc₁ := closed_ofText source₁
  have hc₂ := closed_ofText source₂
  have hcount : (ofText source₁).wordCount = (ofText source₂).wordCount := by
    simpa [words, wordCount] using congrArg List.length h
  rw [hc₁.words_eq, hc₂.words_eq, ← hcount] at h
  have hword (n : Nat) (hn : n < (ofText source₁).wordCount) :=
    List.map_inj_left.1 h n (List.mem_range.2 hn)
  -- The words agree as lexemes, so they are placed alike.
  have hlexemes : (Lexeme.scan {} source₁).filter isWord = (Lexeme.scan {} source₂).filter isWord := by
    refine List.append_cancel_right (?_ : _ ++ [⟨.eof, []⟩] = _)
    rw [filter_scan, filter_scan, ← hcount]
    refine List.map_congr_left fun n hn => ?_
    rcases Nat.lt_or_eq_of_le (Nat.le_of_lt_succ (List.mem_range.1 hn)) with hlt | rfl
    · have := hword n hlt
      simp only [Prod.mk.injEq] at this
      rw [this.1, this.2.1]
    · have hlast₁ := hc₁.lastIndex_le_wordIndex (Nat.le_refl _)
      have hlast₂ := hc₂.lastIndex_le_wordIndex (Nat.le_of_eq hcount.symm)
      rw [(hc₁.kind_eq_eof_iff _).2 hlast₁, (hc₂.kind_eq_eof_iff _).2 hlast₂,
        hc₁.text_of_le _ hlast₁, hc₂.text_of_le _ hlast₂]
  have hshapes := map_shapeOf_words source₁
  rw [hlexemes, ← map_shapeOf_words source₂, ← hcount] at hshapes
  have hshape (n : Nat) : shapeOf ((ofText source₁).get ((ofText source₁).wordIndex n))
      = shapeOf ((ofText source₂).get ((ofText source₂).wordIndex n)) := by
    rcases Nat.lt_or_ge n ((ofText source₁).wordCount + 1) with hlt | hge
    · exact List.map_inj_left.1 hshapes n (List.mem_range.2 hlt)
    · rw [get_wordIndex_of_le hc₁ (by omega), get_wordIndex_of_le hc₂ (by omega), ← hcount]
      exact List.map_inj_left.1 hshapes _ (List.mem_range.2 (Nat.lt_succ_self _))
  simp only [shapeOf, Prod.mk.injEq] at hshape
  refine ⟨hc₁, hc₂, hbare₁, hbare₂, hcount, fun n => (hshape n).1, fun n => (hshape n).2.1,
    fun n => (hshape n).2.2.1, fun n => (hshape n).2.2.2, fun n hparen => ?_⟩
  have hn : n < (ofText source₁).wordCount := by
    by_contra hge
    rw [(hc₁.kind_eq_eof_iff _).2 (hc₁.lastIndex_le_wordIndex (Nat.le_of_not_lt hge))] at hparen
    exact absurd hparen nofun
  have hkind : (ofText source₁).kind _ = (ofText source₂).kind _ := (hshape n).1
  have hspace := congrArg (·.2.2) (hword n hn)
  simpa [← hkind, hparen] using hspace

end SqlLayout.TokenStream
