import SqlLayout.Proofs.Token.Solid

/-!
# Tokens tile their source

No scanner asks for more characters than are left, so every token is a piece of the source. The
tokens follow each other without a gap from the first byte on, and none of them is empty but the end
of input, which stands behind the last byte.
-/

namespace SqlLayout

namespace Text

/-- An offset between two characters of a text, or at one of its ends. -/
def IsBoundary (t : Text) (offset : Nat) : Prop :=
  ∃ before after, t = before ++ after ∧ byteLength before = offset

end Text

namespace Lexeme

/-! ### No token is longer than the text -/

lemma spanLength_le (p : Char → Bool) (t : Text) : spanLength p t ≤ t.length :=
  (List.takeWhile_prefix p).length_le

lemma blockCommentLength?_le {depth n : Nat} {t : Text} (h : blockCommentLength? depth t = some n) :
    0 < n ∧ n ≤ t.length := by
  fun_induction blockCommentLength? depth t generalizing n with
  | case1 depth rest ih | case3 depth rest ih | case4 depth c rest _ _ _ ih =>
    obtain ⟨m, hm, rfl⟩ := Option.map_eq_some_iff.1 h
    have := ih hm
    simp only [List.length_cons]
    omega
  | case2 rest =>
    obtain rfl := Option.some.inj h
    simp
  | case5 => exact absurd h (by simp)

lemma quotedLength?_le {quote : Char} {t : Text} {n : Nat} (h : quotedLength? quote t = some n) :
    0 < n ∧ n ≤ t.length := by
  obtain ⟨s, hs, hn⟩ := take_quotedLength? h
  have hlength := congrArg List.length hs
  simp only [List.length_take, List.length_append, List.length_singleton] at hlength
  omega

lemma quotedToken_le (kind : TokenKind) (quote : Char) (skipped : Nat) (rest : Text) :
    (quotedToken kind quote skipped rest).2 ≤ rest.length := by
  unfold quotedToken
  split
  · next n hn =>
    have := quotedLength?_le hn
    simp only [List.length_drop] at this ⊢
    omega
  · exact Nat.le_refl _

/-- The delimiter of a body or of a dollar-quoted string is part of the text. -/
lemma length_dollarTag?_le {rest tag : Text} (h : dollarTag? rest = some tag) :
    tag.length - 1 ≤ rest.length := by
  have hlength := congrArg List.length (dollarTag?_eq_some h).1
  simp only [List.length_cons, List.length_take] at hlength
  omega

lemma dollarToken_le (s : Surroundings) (rest : Text) : (dollarToken s rest).2 ≤ rest.length := by
  unfold dollarToken
  split
  · next tag htag =>
    obtain ⟨tag', -, hmap⟩ := Option.bind_eq_some_iff.1 htag
    obtain ⟨after, hprefix, rfl⟩ := Option.map_eq_some_iff.1 hmap
    have hlength := congrArg List.length (List.isPrefixOf?_eq_some_iff_append_eq.1 hprefix)
    simp only [List.length_append, List.length_cons] at hlength
    show tag'.length - 1 ≤ rest.length
    omega
  split
  · split
    · exact spanLength_le _ rest
    · exact Nat.zero_le _
  · next tag htag =>
    have htagle := length_dollarTag?_le htag
    split
    · exact Nat.le_refl _
    · next quoted after hcut =>
      have hlength := congrArg List.length (cutAround_eq_some hcut)
      simp only [List.length_drop, List.length_append] at hlength
      dsimp only
      split <;> dsimp only <;> omega

lemma fractionLength_le (t : Text) : fractionLength t ≤ t.length := by
  unfold fractionLength
  split
  · next rest =>
    have := spanLength_le Char.isDigit rest
    simp only [List.length_cons]
    split <;> omega
  · exact Nat.zero_le _

lemma exponentLength_le (t : Text) : exponentLength t ≤ t.length := by
  unfold exponentLength
  split
  · next e rest =>
    split
    · split
      · next c more =>
        have hspan := spanLength_le Char.isDigit (c :: more)
        have hmore := spanLength_le Char.isDigit more
        simp only [List.length_cons] at hspan ⊢
        split_ifs <;> omega
      · exact Nat.zero_le _
    · exact Nat.zero_le _
  · exact Nat.zero_le _

lemma numberToken_le (first : Char) (rest : Text) : (numberToken first rest).2 ≤ rest.length := by
  have hwhole := spanLength_le isNumberChar rest
  have hfraction := fractionLength_le (rest.drop (spanLength isNumberChar rest))
  have hexponent (n : Nat) := exponentLength_le (rest.drop n)
  simp only [List.length_drop] at hfraction hexponent
  show spanLength isNumberChar rest + _ + exponentLength (rest.drop (_ + _)) ≤ rest.length
  split
  · have := hexponent (spanLength isNumberChar rest + 0)
    omega
  · have := hexponent (spanLength isNumberChar rest
      + fractionLength (rest.drop (spanLength isNumberChar rest)))
    omega

lemma symbolToken_le (first : Char) (rest : Text) : (symbolToken first rest).2 ≤ rest.length := by
  have pair {c : Char} (h : rest.head? = some c) : 1 ≤ rest.length := by
    cases rest with
    | nil => simp at h
    | cons d rest => simp
  unfold symbolToken
  split_ifs with hcast hassign
  · exact pair hcast.2
  · exact pair hassign.2
  · exact (operatorLength_le first rest).trans (List.IsPrefix.length_le (operatorTail_isPrefix rest))
  · exact Nat.zero_le _

/-- No scanner asks for more characters than are left. -/
theorem front_le (s : Surroundings) (first : Char) (rest : Text) :
    (front s first rest).2 ≤ rest.length := by
  apply TokenStream.front_elim (P := fun token => token.2 ≤ rest.length)
  case spacing => exact fun _ => spanLength_le _ rest
  case feed => exact fun _ => Nat.zero_le _
  case line => exact fun _ => spanLength_le _ rest
  case block =>
    intro n _ _ hn
    have := blockCommentLength?_le hn
    simp only [List.length_drop] at this ⊢
    omega
  case unclosed => exact Nat.le_refl _
  case string => exact fun _ => quotedToken_le _ _ _ rest
  case name => exact fun _ => quotedToken_le _ _ _ rest
  case marked => exact fun _ => quotedToken_le _ _ _ rest
  case dollar => exact fun _ => dollarToken_le s rest
  case number => exact fun _ => numberToken_le first rest
  case word => exact fun _ => spanLength_le _ rest
  case symbol => exact symbolToken_le first rest

end Lexeme

namespace TokenStream

/-! ### Positions -/

/-- A lexeme is placed behind the bytes of the lexemes before it. -/
lemma start_place (start : Nat) (depth shown : Level) (previous : Option TokenKind)
    (lexemes : List Lexeme) (i : Nat) {token : Token}
    (h : (place start depth shown previous lexemes)[i]? = some token) :
    token.start = start + Text.byteLength ((lexemes.take i).flatMap Lexeme.text) := by
  induction lexemes generalizing start depth shown previous i with
  | nil =>
    cases i with
    | zero =>
      obtain rfl := Option.some.inj h
      simp
    | succ i => simp [place] at h
  | cons x rest ih =>
    cases i with
    | zero =>
      simp only [place] at h
      split at h <;> obtain rfl := Option.some.inj h <;> simp
    | succ i =>
      simp only [place] at h
      have hstart : token.start
          = start + Text.byteLength x.text + Text.byteLength ((rest.take i).flatMap Lexeme.text) := by
        split at h <;> exact ih _ _ _ _ i h
      simp [hstart, Nat.add_assoc]

variable {source : Text} {i : Nat}

lemma start_get (h : i ≤ (ofText source).lastIndex) :
    ((ofText source).get i).start
      = Text.byteLength (((Lexeme.scan {} source).take i).flatMap Lexeme.text) := by
  have htoken : (place 0 {} {} none (Lexeme.scan {} source))[i]? = some ((ofText source).get i) := by
    simpa [ofText] using getElem?_tokens h
  rw [start_place 0 {} {} none _ i htoken, Nat.zero_add]

/-- The lexemes up to a token are those before it and the token. -/
lemma take_succ_scan (h : i < (ofText source).lastIndex) :
    (Lexeme.scan {} source).take (i + 1)
      = (Lexeme.scan {} source).take i ++ [⟨(ofText source).kind i, (ofText source).text i⟩] := by
  have hi := getElem?_scan (Nat.le_of_lt h)
  rw [List.getElem?_append_left (lastIndex_ofText source ▸ h)] at hi
  rw [List.take_add_one, hi]
  rfl

/-- A token ends where the bytes of the tokens up to it end. -/
lemma stop_get (h : i < (ofText source).lastIndex) :
    ((ofText source).get i).stop
      = Text.byteLength (((Lexeme.scan {} source).take (i + 1)).flatMap Lexeme.text) := by
  rw [Token.stop, start_get (Nat.le_of_lt h), take_succ_scan h]
  simp [text]

/-- Tokens do not start before the ones before them. -/
lemma start_mono (source : Text) {i j : Nat} (h : i ≤ j) :
    ((ofText source).get i).start ≤ ((ofText source).get j).start := by
  induction h with
  | refl => exact Nat.le_refl _
  | @step j _ ih =>
    refine Nat.le_trans ih ?_
    rcases Nat.lt_or_ge j (ofText source).lastIndex with hlt | hge
    · rw [start_get (i := j + 1) hlt, ← stop_get hlt]
      exact Nat.le_add_right _ _
    · rw [get_of_le hge, get_of_le (Nat.le_succ_of_le hge)]

/-- The source cut behind the first tokens. -/
lemma source_eq_append (source : Text) (i : Nat) :
    source = ((Lexeme.scan {} source).take i).flatMap Lexeme.text
      ++ ((Lexeme.scan {} source).drop i).flatMap Lexeme.text := by
  rw [← List.flatMap_append, List.take_append_drop, Lexeme.flatMap_text_scan]

/-! ### The tiling -/

/-- The tokens of a stream are the consecutive pieces of a text, the end of input behind them. -/
structure Tiles (ts : TokenStream) (source : Text) : Prop where
  /-- The first token starts at the first byte. -/
  start_zero : (ts.get 0).start = 0
  /-- Each token starts where the one before it ends. -/
  start_succ (i : Nat) : i < ts.lastIndex → (ts.get (i + 1)).start = (ts.get i).stop
  /-- Each token is the piece of the text between its two offsets. -/
  piece (i : Nat) : i ≤ ts.lastIndex →
    ∃ before after, source = before ++ ts.text i ++ after ∧ (ts.get i).start = Text.byteLength before
  /-- Tokens end between characters. -/
  isBoundary_stop (i : Nat) : i ≤ ts.lastIndex → source.IsBoundary (ts.get i).stop
  /-- Only the last token is empty. -/
  text_eq_nil_iff (i : Nat) : i ≤ ts.lastIndex → (ts.text i = [] ↔ i = ts.lastIndex)
  /-- Only the last token is the end of input. -/
  kind_eq_eof_iff (i : Nat) : i ≤ ts.lastIndex → (ts.kind i = .eof ↔ i = ts.lastIndex)
  /-- The end of input stands behind the last byte. -/
  start_last : (ts.get ts.lastIndex).start = Text.byteLength source
  /-- The texts of all tokens put together are the text. -/
  source_eq : ts.source = source
  /-- There are no more tokens than characters, the end of input apart. -/
  lastIndex_le : ts.lastIndex ≤ source.length

lemma piece_ofText (h : i ≤ (ofText source).lastIndex) :
    ∃ before after, source = before ++ (ofText source).text i ++ after
      ∧ ((ofText source).get i).start = Text.byteLength before := by
  rcases Nat.lt_or_eq_of_le h with hlt | rfl
  · have hcut := source_eq_append source (i + 1)
    rw [take_succ_scan hlt, List.flatMap_append, List.flatMap_singleton] at hcut
    exact ⟨_, _, hcut, start_get h⟩
  · refine ⟨source, [], ?_, ?_⟩
    · rw [(closed_ofText source).text_of_le _ (Nat.le_refl _)]
      simp
    · rw [start_get h, lastIndex_ofText, List.take_length, Lexeme.flatMap_text_scan]

lemma text_eq_nil_iff_ofText (h : i ≤ (ofText source).lastIndex) :
    (ofText source).text i = [] ↔ i = (ofText source).lastIndex := by
  constructor
  · intro hnil
    by_contra hne
    exact Lexeme.text_ne_nil_of_mem_scan (mem_scan_ofText (Nat.lt_of_le_of_ne h hne)) hnil
  · rintro rfl
    exact (closed_ofText source).text_of_le _ (Nat.le_refl _)

/-- Lexemes have at least as many characters as there are of them. -/
lemma length_scan_le (s : Lexeme.Surroundings) (t : Text) :
    (Lexeme.scan s t).length ≤ t.length := by
  fun_induction Lexeme.scan s t with
  | case1 => simp
  | case2 s first rest kind n _ lexeme ih =>
    simp only [List.length_cons, List.length_drop] at ih ⊢
    omega

/-- The tokens of a source tile it, and no step of the scanner reads past its end. -/
theorem tiles_ofText (source : Text) :
    (ofText source).Tiles source
      ∧ ∀ s first rest, (Lexeme.front s first rest).2 ≤ rest.length := by
  refine ⟨?_, Lexeme.front_le⟩
  constructor
  case start_zero => rw [start_get (Nat.zero_le _)]; rfl
  case start_succ =>
    intro i h
    rw [start_get h, stop_get h]
  case piece => exact fun i h => piece_ofText h
  case isBoundary_stop =>
    intro i h
    obtain ⟨before, after, hsource, hstart⟩ := piece_ofText h
    refine ⟨before ++ (ofText source).text i, after, hsource, ?_⟩
    rw [Text.byteLength_append, ← hstart]
    rfl
  case text_eq_nil_iff => exact fun i h => text_eq_nil_iff_ofText h
  case kind_eq_eof_iff =>
    intro i h
    rw [(closed_ofText source).kind_eq_eof_iff]
    omega
  case start_last =>
    rw [start_get (Nat.le_refl _), lastIndex_ofText, List.take_length, Lexeme.flatMap_text_scan]
  case source_eq => exact source_ofText source
  case lastIndex_le =>
    rw [lastIndex_ofText]
    exact length_scan_le {} source

end TokenStream
end SqlLayout
