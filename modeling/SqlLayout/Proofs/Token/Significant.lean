import Mathlib.Tactic.Common
import SqlLayout.Token.Level

/-!
# Significant tokens

A stream of a source is closed: its last token is the end of input and no other one is. Then looking
for the next significant token always ends on one, and the significant tokens from an index on form a
list, `significantFrom`, that the grammar and the tree builder both walk along.
-/

namespace SqlLayout
namespace TokenStream

variable {ts : TokenStream}

/-- The last token and no other one is the end of input, and it has no text. -/
structure Closed (ts : TokenStream) : Prop where
  kind_eq_eof_iff (i : Nat) : ts.kind i = .eof ↔ ts.lastIndex ≤ i
  text_of_le (i : Nat) : ts.lastIndex ≤ i → ts.text i = []

/-! ### Streams of sources -/

lemma quotedToken_ne_eof {kind : TokenKind} (quote : Char) (skipped : Nat) (rest : Text)
    (h : kind ≠ .eof) : (Lexeme.quotedToken kind quote skipped rest).1 ≠ .eof := by
  unfold Lexeme.quotedToken
  split
  · exact h
  · nofun

lemma dollarToken_ne_eof (s : Lexeme.Surroundings) (rest : Text) :
    (Lexeme.dollarToken s rest).1 ≠ .eof := by
  unfold Lexeme.dollarToken
  split
  · nofun
  split
  · split <;> nofun
  split
  · nofun
  dsimp only
  split <;> nofun

lemma numberToken_ne_eof (first : Char) (rest : Text) :
    (Lexeme.numberToken first rest).1 ≠ .eof := by
  unfold Lexeme.numberToken
  simp only
  split_ifs <;> nofun

lemma symbolToken_ne_eof (first : Char) (rest : Text) :
    (Lexeme.symbolToken first rest).1 ≠ .eof := by
  unfold Lexeme.symbolToken Lexeme.punctuation
  split_ifs
  · nofun
  · nofun
  · nofun
  · split <;> nofun

lemma ofWord_ne_eof (word : Text) : TokenKind.ofWord word ≠ .eof := by
  unfold TokenKind.ofWord
  split <;> nofun

/-- What holds for tokens of every sort holds for the one at the front of a text. -/
lemma front_elim {P : TokenKind × Nat → Prop} (s : Lexeme.Surroundings) (first : Char) (rest : Text)
    (spacing : Lexeme.isSpacing first = true →
      P (.whitespace, Lexeme.spanLength Lexeme.isSpacing rest))
    (feed : first = '\n' → P (.linefeed, 0))
    (line : first = '-' → P (.lineComment, Lexeme.spanLength (· != '\n') rest))
    (block : ∀ n, first = '/' → rest.head? = some '*' →
      Lexeme.blockCommentLength? 0 (rest.drop 1) = some n → P (.blockComment, 1 + n))
    (unclosed : P (.error, rest.length))
    (string : first = '\'' → P (Lexeme.quotedToken .string '\'' 0 rest))
    (name : first = '"' → P (Lexeme.quotedToken .quotedIdent '"' 0 rest))
    (marked : Lexeme.isStringMarker first = true → P (Lexeme.quotedToken .string '\'' 1 rest))
    (dollar : first = '$' → P (Lexeme.dollarToken s rest))
    (number : first.isDigit = true ∨ first = '.' → P (Lexeme.numberToken first rest))
    (word : Lexeme.isIdentStart first = true →
      P (TokenKind.ofWord (first :: rest.takeWhile Lexeme.isIdentContinue),
        (rest.takeWhile Lexeme.isIdentContinue).length))
    (symbol : P (Lexeme.symbolToken first rest)) : P (Lexeme.front s first rest) := by
  -- The conditions are tried in order; what follows from those that failed is not needed.
  have cases {c : Prop} [Decidable c] {x y : TokenKind × Nat} (hx : c → P x) (hy : P y) :
      P (if c then x else y) := by
    split
    · next h => exact hx h
    · exact hy
  unfold Lexeme.front
  refine cases spacing (cases feed (cases (fun h => line h.1) (cases (fun h => ?_)
    (cases string (cases name (cases (fun h => marked h.1) (cases dollar
    (cases (fun h => number (h.imp_right And.left)) (cases word symbol)))))))))
  split
  · next hn => exact block _ h.1 h.2 hn
  · exact unclosed

/-- No scanned token is the end of input. -/
lemma front_ne_eof (s : Lexeme.Surroundings) (first : Char) (rest : Text) :
    (Lexeme.front s first rest).1 ≠ .eof := by
  refine front_elim (P := fun token => token.1 ≠ .eof) s first rest nofun nofun nofun nofun nofun
    (fun _ => ?_) (fun _ => ?_) (fun _ => ?_) (fun _ => ?_) (fun _ => ?_) (fun _ => ?_) ?_
  · exact quotedToken_ne_eof _ _ _ nofun
  · exact quotedToken_ne_eof _ _ _ nofun
  · exact quotedToken_ne_eof _ _ _ nofun
  · exact dollarToken_ne_eof s rest
  · exact numberToken_ne_eof first rest
  · exact ofWord_ne_eof _
  · exact symbolToken_ne_eof first rest

lemma kind_ne_eof_of_mem_scan {s : Lexeme.Surroundings} {t : Text} {x : Lexeme}
    (h : x ∈ Lexeme.scan s t) : x.kind ≠ .eof := by
  fun_induction Lexeme.scan s t with
  | case1 => simp at h
  | case2 s first rest kind n e lexeme ih =>
    rcases List.mem_cons.1 h with rfl | h
    · have := front_ne_eof s first rest
      rw [e] at this
      exact this
    · exact ih h

/-- Placing lexemes adds one token, the end of input, and keeps the kinds and texts of the others. -/
lemma map_lexeme_place (start : Nat) (depth shown : Level) (previous : Option TokenKind)
    (lexemes : List Lexeme) :
    (place start depth shown previous lexemes).map (fun t => Lexeme.mk t.kind t.text)
      = lexemes ++ [⟨.eof, []⟩] := by
  induction lexemes generalizing start depth shown previous with
  | nil => rfl
  | cons x rest ih =>
    simp only [place]
    split <;> simp [ih]

lemma getElem?_tokens_ofText (source : Text) (i : Nat) :
    ((ofText source).tokens[i]?).map (fun t => Lexeme.mk t.kind t.text)
      = (Lexeme.scan {} source ++ [⟨.eof, []⟩])[i]? := by
  rw [← map_lexeme_place 0 {} {} none]
  simp [ofText]

lemma lastIndex_ofText (source : Text) :
    (ofText source).lastIndex = (Lexeme.scan {} source).length := by
  have h := congrArg List.length (map_lexeme_place 0 {} {} none (Lexeme.scan {} source))
  simp only [List.length_map, List.length_append, List.length_singleton] at h
  simp [lastIndex, size, ofText, h]

lemma get_mem_tokens (ts : TokenStream) (i : Nat) : ts.get i ∈ ts.tokens :=
  Array.getElem_mem _

/-- Past the end the last token stands. -/
lemma get_of_le {i : Nat} (h : ts.lastIndex ≤ i) : ts.get i = ts.get ts.lastIndex := by
  unfold get
  simp only [Nat.min_eq_right h, Nat.min_self]

lemma getElem?_tokens {i : Nat} (h : i ≤ ts.lastIndex) : ts.tokens[i]? = some (ts.get i) := by
  have hsize := ts.lastIndex_lt_size
  unfold get
  simp only [Nat.min_eq_left h]
  exact Array.getElem?_eq_getElem (by omega)

lemma getElem?_scan {source : Text} {i : Nat} (h : i ≤ (ofText source).lastIndex) :
    (Lexeme.scan {} source ++ [⟨.eof, []⟩])[i]?
      = some ⟨(ofText source).kind i, (ofText source).text i⟩ := by
  rw [← getElem?_tokens_ofText, getElem?_tokens h]
  rfl

/-- Every token of a source but the last has been scanned. -/
lemma mem_scan_ofText {source : Text} {i : Nat} (h : i < (ofText source).lastIndex) :
    Lexeme.mk ((ofText source).kind i) ((ofText source).text i) ∈ Lexeme.scan {} source := by
  have hi := getElem?_scan (Nat.le_of_lt h)
  rw [List.getElem?_append_left (lastIndex_ofText source ▸ h)] at hi
  exact List.mem_of_getElem? hi

/-- The stream of a source is closed. -/
theorem closed_ofText (source : Text) : (ofText source).Closed := by
  have hlast := getElem?_scan (Nat.le_refl (ofText source).lastIndex)
  rw [lastIndex_ofText, List.getElem?_append_right (Nat.le_refl _)] at hlast
  simp only [Nat.sub_self, List.getElem?_cons_zero, Option.some.injEq, Lexeme.mk.injEq] at hlast
  rw [← lastIndex_ofText] at hlast
  constructor
  · intro i
    constructor
    · intro h
      by_contra hlt
      exact kind_ne_eof_of_mem_scan (mem_scan_ofText (Nat.lt_of_not_le hlt)) h
    · intro h
      rw [kind, get_of_le h]
      exact hlast.1.symm
  · intro i h
    rw [text, get_of_le h]
    exact hlast.2.symm

/-! ### The next significant token -/

lemma le_nextSignificant (ts : TokenStream) (i : Nat) : i ≤ ts.nextSignificant i := by
  fun_induction nextSignificant ts i with
  | case1 i h ih => omega
  | case2 i h => exact Nat.le_refl _

lemma nextSignificant_mono (ts : TokenStream) {i j : Nat} (h : i ≤ j) :
    ts.nextSignificant i ≤ ts.nextSignificant j := by
  fun_induction TokenStream.nextSignificant ts i with
  | case1 i hskip ih =>
    rcases Nat.lt_or_eq_of_le h with hlt | rfl
    · exact ih hlt
    · exact Nat.le_of_eq (by rw [nextSignificant.eq_def ts i, if_pos hskip])
  | case2 i _ => exact Nat.le_trans h (ts.le_nextSignificant j)

/-- The search ends on a token that is no trivia. -/
lemma Closed.isTrivia_nextSignificant (hc : ts.Closed) (i : Nat) :
    (ts.kind (ts.nextSignificant i)).isTrivia = false := by
  fun_induction nextSignificant ts i with
  | case1 i hi ih => exact ih
  | case2 i hi =>
    rcases Nat.lt_or_ge i ts.lastIndex with hlt | hge
    · simpa [hlt] using hi
    · rw [(hc.kind_eq_eof_iff i).2 hge]
      rfl

lemma nextSignificant_of_not_isTrivia {i : Nat} (h : (ts.kind i).isTrivia = false) :
    ts.nextSignificant i = i := by
  rw [nextSignificant]
  simp [h]

/-! ### All significant tokens from an index on -/

/-- Indices of the significant tokens from `i` on, the end of input apart. -/
def significantFrom (ts : TokenStream) (i : Nat) : List Nat :=
  (List.range' i (ts.lastIndex - i)).filter fun j => !(ts.kind j).isTrivia

lemma significantFrom_eq_nil {i : Nat} (h : ts.lastIndex ≤ i) : ts.significantFrom i = [] := by
  simp [significantFrom, Nat.sub_eq_zero_of_le h]

lemma significantFrom_of_lt {i : Nat} (h : i < ts.lastIndex) :
    ts.significantFrom i
      = if (ts.kind i).isTrivia then ts.significantFrom (i + 1)
        else i :: ts.significantFrom (i + 1) := by
  have hn : ts.lastIndex - i = (ts.lastIndex - (i + 1)) + 1 := by omega
  unfold significantFrom
  rw [hn, List.range'_succ, List.filter_cons]
  cases (ts.kind i).isTrivia <;> simp

/-- The significant tokens from an index on are those from the next significant one on. -/
lemma significantFrom_nextSignificant (ts : TokenStream) (i : Nat) :
    ts.significantFrom (ts.nextSignificant i) = ts.significantFrom i := by
  fun_induction nextSignificant ts i with
  | case1 i h ih => rw [ih, significantFrom_of_lt h.1, if_pos h.2]
  | case2 i h => rfl

/-- The first significant token, with those after it. -/
lemma Closed.significantFrom_eq_cons (hc : ts.Closed) {i : Nat}
    (h : ts.nextSignificant i < ts.lastIndex) :
    ts.significantFrom i = ts.nextSignificant i :: ts.significantFrom (ts.nextSignificant i + 1) := by
  rw [← significantFrom_nextSignificant, significantFrom_of_lt h, hc.isTrivia_nextSignificant]
  simp

lemma significantFrom_eq_nil_of_nextSignificant {i : Nat}
    (h : ts.lastIndex ≤ ts.nextSignificant i) : ts.significantFrom i = [] := by
  rw [← significantFrom_nextSignificant]
  exact significantFrom_eq_nil h

end TokenStream
end SqlLayout
