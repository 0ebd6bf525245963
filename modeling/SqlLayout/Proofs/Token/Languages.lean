import SqlLayout.Proofs.Token.Bodies

/-!
# Languages of routine bodies

A dollar-quoted text is scanned as code only if no other language is named for it. The language is
looked up before the body is scanned: in a `LANGUAGE` clause earlier in the statement, or else in one
that stands directly behind the delimiter. In that place the name has to be that of a language whose
code is scanned; a clause behind another attribute is not seen.
-/

namespace SqlLayout

namespace Text

/-- What holds of each of the first 128 characters holds of every ASCII character. -/
lemma of_lt_128 {p : Char → Prop} (h : ∀ n : Fin 128, p (Char.ofNat n)) {c : Char}
    (hc : c.toNat < 128) : p c := by
  have := h ⟨c.toNat, hc⟩
  rwa [Char.ofNat_toNat] at this

lemma lt_of_isAsciiWord {c : Char} (h : isAsciiWord c = true) : c.toNat < 128 := by
  have h : (decide ('A'.val ≤ c.val ∧ c.val ≤ 'Z'.val) || ('a'.val ≤ c.val && c.val ≤ 'z'.val)
      || ('0'.val ≤ c.val && c.val ≤ '9'.val) || c == '_') = true := h
  simp only [Bool.or_eq_true, Bool.and_eq_true, decide_eq_true_eq, beq_iff_eq, UInt32.le_iff_toNat_le] at h
  have hz : 'Z'.val.toNat = 90 ∧ 'z'.val.toNat = 122 ∧ '9'.val.toNat = 57 ∧ '_'.toNat = 95 := by decide
  have : c.toNat = c.val.toNat := rfl
  rcases h with h | rfl <;> omega

lemma toLower_toUpper (c : Char) : c.toUpper.toLower = c.toLower := by
  rcases Nat.lt_or_ge c.toNat 128 with hc | hc
  · refine of_lt_128 (p := fun c => c.toUpper.toLower = c.toLower) ?_ hc
    decide
  · have hsmall : ¬ c.val ≤ 'z'.val := by
      intro h
      have hle : c.toNat ≤ 122 := UInt32.le_iff_toNat_le.1 h
      omega
    rw [show c.toUpper = c from dif_neg fun h => hsmall h.2]

lemma asciiLower_asciiUpper (t : Text) : asciiLower (asciiUpper t) = asciiLower t := by
  simp only [asciiLower, asciiUpper, List.map_map, Function.comp_def, toLower_toUpper]

lemma trimStart_append {blanks : Text} (h : ∀ c ∈ blanks, isBlank c = true) (t : Text) :
    trimStart (blanks ++ t) = trimStart t :=
  List.dropWhile_append_of_pos h

lemma trimStart_cons {c : Char} (h : isBlank c = false) (t : Text) : trimStart (c :: t) = c :: t := by
  simp [trimStart, h]

end Text

namespace Lexeme

/-! ### Words and blanks -/

lemma isIdentContinue_of_isAsciiWord {c : Char} (h : Text.isAsciiWord c = true) :
    isIdentContinue c = true := by
  refine Text.of_lt_128 (p := fun c => Text.isAsciiWord c = true → isIdentContinue c = true) ?_
    (Text.lt_of_isAsciiWord h) h
  decide +kernel

lemma quotedToken_kind (kind : TokenKind) (quote : Char) (skipped : Nat) (rest : Text) :
    (quotedToken kind quote skipped rest).1 ∈ [kind, .error] := by
  unfold quotedToken
  split <;> simp

lemma dollarToken_kind (s : Surroundings) (rest : Text) : (dollarToken s rest).1
    ∈ [TokenKind.bodyOpen, .bodyClose, .param, .dollarString, .error] := by
  unfold dollarToken
  split
  · simp
  split
  · split <;> simp
  split
  · simp
  dsimp only
  split <;> simp

lemma numberToken_kind (first : Char) (rest : Text) :
    (numberToken first rest).1 ∈ [TokenKind.float, .integer] := by
  unfold numberToken
  dsimp only
  split_ifs <;> simp

lemma symbolToken_kind (first : Char) (rest : Text) : (symbolToken first rest).1
    ∈ [TokenKind.doubleColon, .colonEq, .operator, .semicolon, .comma, .dot, .colon, .lParen, .rParen,
      .lBracket, .rBracket, .error] := by
  unfold symbolToken punctuation
  split_ifs
  · simp
  · simp
  · simp
  · split <;> simp

/-- The letters with which the names of the languages start whose code is scanned start words. -/
lemma front_of_letter {s : Surroundings} {first : Char} {rest : Text}
    (hword : Text.isAsciiWord first = true) (hfirst : first.toLower = 'p' ∨ first.toLower = 's') :
    (front s first rest).2 = (rest.takeWhile isIdentContinue).length := by
  have hletter : first ∈ ['p', 'P', 's', 'S'] := by
    refine Text.of_lt_128 (p := fun c => c.toLower = 'p' ∨ c.toLower = 's' → c ∈ ['p', 'P', 's', 'S'])
      ?_ (Text.lt_of_isAsciiWord hword) hfirst
    decide
  simp only [List.mem_cons, List.not_mem_nil, or_false] at hletter
  rcases hletter with rfl | rfl | rfl | rfl
  all_goals
    simp +decide [front]

/-- Behind a word no character of a word stands. -/
lemma takeWhile_drop_takeWhile (rest : Text) :
    (rest.drop (rest.takeWhile isIdentContinue).length).takeWhile Text.isAsciiWord = [] := by
  have hdrop : rest.drop (rest.takeWhile isIdentContinue).length = rest.dropWhile isIdentContinue := by
    have hcut := congrArg (List.drop (rest.takeWhile isIdentContinue).length)
      (List.takeWhile_append_dropWhile (p := isIdentContinue) (l := rest))
    rwa [List.drop_left, eq_comm] at hcut
  rw [hdrop]
  cases hrest : rest.dropWhile isIdentContinue with
  | nil => rfl
  | cons c more =>
    have hc : isIdentContinue c = false := by
      have := List.head?_dropWhile_not isIdentContinue rest
      rwa [hrest] at this
    have hword : Text.isAsciiWord c = false := by
      by_contra h
      rw [isIdentContinue_of_isAsciiWord (by simpa using h)] at hc
      exact absurd hc nofun
    simp [hword]

/-- A keyword token is a word that spells the keyword. -/
lemma ofWord_of_front (s : Surroundings) (first : Char) (rest : Text) (k : Keyword) :
    (front s first rest).1 = .keyword k →
      TokenKind.ofWord (first :: rest.take (front s first rest).2) = .keyword k := by
  apply TokenStream.front_elim (P := fun token => token.1 = .keyword k →
    TokenKind.ofWord (first :: rest.take token.2) = .keyword k)
  case spacing => nofun
  case feed => nofun
  case line => nofun
  case block => nofun
  case unclosed => nofun
  case string => exact fun _ h => absurd (h ▸ quotedToken_kind _ _ _ _) (by simp)
  case name => exact fun _ h => absurd (h ▸ quotedToken_kind _ _ _ _) (by simp)
  case marked => exact fun _ h => absurd (h ▸ quotedToken_kind _ _ _ _) (by simp)
  case dollar => exact fun _ h => absurd (h ▸ dollarToken_kind _ _) (by simp)
  case number => exact fun _ h => absurd (h ▸ numberToken_kind _ _) (by simp)
  case word =>
    intro _ h
    rw [show rest.take (rest.takeWhile isIdentContinue).length = rest.takeWhile isIdentContinue from
      take_spanLength _ _]
    exact h
  case symbol => exact fun h => absurd (h ▸ symbolToken_kind _ _) (by simp)

/-- A token whose kind is one of several blank-free kinds is no whitespace. -/
lemma not_isWhitespace_of_mem {kind : TokenKind} {kinds : List TokenKind} (h : kind ∈ kinds)
    (hkinds : kinds.all (fun k => !k.isWhitespace) = true) : ¬ kind.isWhitespace = true := by
  simpa using List.all_eq_true.1 hkinds kind h

/-- Whitespace tokens are made of blanks. -/
lemma isBlank_of_front (s : Surroundings) (first : Char) (rest : Text) :
    (front s first rest).1.isWhitespace = true →
      ∀ c ∈ first :: rest.take (front s first rest).2, Text.isBlank c = true := by
  apply TokenStream.front_elim (P := fun token => token.1.isWhitespace = true →
    ∀ c ∈ first :: rest.take token.2, Text.isBlank c = true)
  case spacing =>
    intro hfirst _ c hc
    rw [take_spanLength] at hc
    have hspacing : isSpacing c = true := by
      rcases List.mem_cons.1 hc with rfl | hc
      · exact hfirst
      · exact List.mem_takeWhile_imp hc
    simp only [isSpacing, Bool.or_eq_true, beq_iff_eq] at hspacing
    rcases hspacing with (rfl | rfl) | rfl <;> decide
  case feed =>
    rintro rfl - c hc
    rw [List.take_zero, List.mem_singleton] at hc
    subst hc
    decide
  case line => exact fun _ h => Bool.noConfusion h
  case block => exact fun _ _ _ _ h => Bool.noConfusion h
  case unclosed => exact fun h => Bool.noConfusion h
  case string => exact fun _ h => absurd h (not_isWhitespace_of_mem (quotedToken_kind _ _ _ _) rfl)
  case name => exact fun _ h => absurd h (not_isWhitespace_of_mem (quotedToken_kind _ _ _ _) rfl)
  case marked => exact fun _ h => absurd h (not_isWhitespace_of_mem (quotedToken_kind _ _ _ _) rfl)
  case dollar => exact fun _ h => absurd h (not_isWhitespace_of_mem (dollarToken_kind _ _) rfl)
  case number => exact fun _ h => absurd h (not_isWhitespace_of_mem (numberToken_kind _ _) rfl)
  case word =>
    intro _ h
    rcases ofWord_eq (first :: rest.takeWhile isIdentContinue) with hword | ⟨k, hword⟩ <;>
    · rw [hword] at h
      contradiction
  case symbol => exact fun h => absurd h (not_isWhitespace_of_mem (symbolToken_kind _ _) rfl)

/-! ### The language named before a body -/

/-- Each `LANGUAGE` is followed by a semicolon. -/
def LanguagesEnd (lexemes : List Lexeme) : Prop :=
  ∀ before x after, lexemes = before ++ x :: after → x.kind = .keyword .LANGUAGE →
    ∃ y ∈ after, y.kind = .semicolon

/-- Where no language has been named in the statement, none is known. -/
lemma Scans.language_eq_none {s s' : Surroundings} {t t' : Text} {lexemes : List Lexeme}
    (h : Scans s t lexemes s' t') (hends : LanguagesEnd lexemes)
    (hs : s.language = none ∧ s.previous ≠ .keyword .LANGUAGE ∨ ∃ y ∈ lexemes, y.kind = .semicolon) :
    s'.language = none := by
  induction h with
  | done =>
    rcases hs with hs | ⟨y, hy, -⟩
    · exact hs.1
    · simp at hy
  | @step s s' first rest t' kind n lexemes hfront _ ih =>
    refine ih (fun before x after hcut => hends (_ :: before) x after (congrArg _ hcut)) ?_
    by_cases hnamed : kind = .keyword .LANGUAGE
    · exact .inr (hends [] _ lexemes rfl hnamed)
    by_cases hend : kind = .semicolon
    · subst hend
      exact .inl ⟨rfl, nofun⟩
    rcases hs with ⟨hnone, hprevious⟩ | ⟨y, hy, hsemicolon⟩
    · left
      unfold Surroundings.advance
      dsimp only
      split
      · exact ⟨hnone, hprevious⟩
      · simp [hnone, hnamed]
    · rcases List.mem_cons.1 hy with rfl | hy
      · exact absurd hsemicolon hend
      · exact .inr ⟨y, hy, hsemicolon⟩

end Lexeme

namespace TokenStream

open Lexeme (LanguagesEnd)

variable {source : Text} {i j k n : Nat}

/-- Only blanks stand between two tokens. -/
def OnlyBlanksBetween (ts : TokenStream) (i j : Nat) : Prop :=
  i < j ∧ ∀ m, i < m → m < j → (ts.kind m).isWhitespace = true

/-- No language is named before a token in its statement. -/
def NoLanguageBefore (ts : TokenStream) (i : Nat) : Prop :=
  ∀ m < i, ts.kind m = .keyword .LANGUAGE → ∃ n, m < n ∧ n < i ∧ ts.kind n = .semicolon

/-- A token that is a word, possibly in single quotes. -/
structure IsName (ts : TokenStream) (n : Nat) (word : Text) : Prop where
  ne_nil : word ≠ []
  isAsciiWord : ∀ c ∈ word, Text.isAsciiWord c = true
  text_eq : ts.text n = word ∨ ts.text n = '\'' :: word ++ ['\'']

/-- What the scanner knew when it came to a token. -/
lemma exists_scan (source : Text) (i : Nat) :
    ∃ s, Lexeme.Scans {} source ((Lexeme.scan {} source).take i) s ((ofText source).rest i)
      ∧ Lexeme.scan s ((ofText source).rest i) = (Lexeme.scan {} source).drop i := by
  have hzero : Lexeme.scan {} ((ofText source).rest 0) = (Lexeme.scan {} source).drop 0 := by
    rw [rest_zero, List.drop_zero]
  obtain ⟨s, hscans, hscan⟩ := exists_scans hzero (Nat.zero_le i)
  rw [rest_zero] at hscans
  exact ⟨s, hscans, hscan⟩

lemma exists_front (h : i < (ofText source).lastIndex) :
    ∃ s first more, (ofText source).rest i = first :: more
      ∧ (Lexeme.front s first more).1 = (ofText source).kind i
      ∧ (ofText source).text i = first :: more.take (Lexeme.front s first more).2
      ∧ (ofText source).rest (i + 1) = more.drop (Lexeme.front s first more).2 := by
  obtain ⟨s, -, hscan⟩ := exists_scan source i
  obtain ⟨first, more, n, hrest, hfront, htext, hnext, -⟩ := front_at hscan h
  exact ⟨s, first, more, hrest, by rw [hfront], by rw [hfront, htext], by rw [hfront, hnext]⟩

/-- Blanks between two places do not matter to what stands at the front without blanks. -/
lemma trimStart_rest (hij : i ≤ j)
    (hblank : ∀ m, i ≤ m → m < j → ((ofText source).kind m).isWhitespace = true) :
    Text.trimStart ((ofText source).rest i) = Text.trimStart ((ofText source).rest j) := by
  induction hij with
  | refl => rfl
  | @step j hij ih =>
    rw [ih fun m hm hmj => hblank m hm (Nat.lt_succ_of_lt hmj)]
    have hspace := hblank j hij (Nat.lt_succ_self j)
    have hj : j < (ofText source).lastIndex :=
      lt_lastIndex_of_kind rfl fun heof => absurd (heof ▸ hspace) nofun
    obtain ⟨s, first, more, -, hkind, htext, -⟩ := exists_front hj
    rw [rest_of_lt hj, htext]
    exact Text.trimStart_append (Lexeme.isBlank_of_front s first more (hkind ▸ hspace)) _

/-- The text of a keyword token spells the keyword, unless that has two spellings. -/
lemma asciiUpper_text {keyword : Keyword} (h : (ofText source).kind i = .keyword keyword)
    (hkeyword : keyword ≠ .ELSIF) :
    Text.asciiUpper ((ofText source).text i) = keyword.spelling.toList := by
  obtain ⟨s, first, more, -, hkind, htext, -⟩ := exists_front (lt_lastIndex_of_kind h nofun)
  have hword := Lexeme.ofWord_of_front s first more keyword (hkind.trans h)
  rw [← htext] at hword
  generalize (ofText source).text i = word at hword
  unfold TokenKind.ofWord Keyword.ofWord? at hword
  cases hfind : Keyword.all.find? fun k => k.spelling == String.ofList (Text.asciiUpper word) with
  | some found =>
    have hspelling := List.find?_some hfind
    simp only [hfind, Option.orElse_some, TokenKind.keyword.injEq] at hword
    subst hword
    rw [beq_iff_eq] at hspelling
    rw [hspelling, String.toList_ofList]
  | none =>
    simp only [hfind, Option.orElse_none, Keyword.aliases, List.lookup_cons, List.lookup_nil] at hword
    split at hword
    · next halias =>
      split at halias
      · obtain rfl := Option.some.inj halias
        exact absurd (TokenKind.keyword.inj hword).symm hkeyword
      · contradiction
    · contradiction

/-- No language is known at a token before which none has been named. -/
lemma languagesEnd_take (hi : i ≤ (ofText source).lastIndex)
    (h : (ofText source).NoLanguageBefore i) :
    LanguagesEnd ((Lexeme.scan {} source).take i) := by
  intro before x after hcut hkind
  rw [lastIndex_ofText] at hi
  have hlength := congrArg List.length hcut
  rw [List.length_append, List.length_cons, List.length_take] at hlength
  have hget (m : Nat) (hm : m < before.length + (after.length + 1)) :
      (before ++ x :: after)[m]? = some ⟨(ofText source).kind m, (ofText source).text m⟩ := by
    rw [← hcut, List.getElem?_take_of_lt (by omega)]
    have hscan := @getElem?_scan source m (by rw [lastIndex_ofText]; omega)
    rwa [List.getElem?_append_left (by omega)] at hscan
  have hx := hget before.length (by omega)
  rw [List.getElem?_append_right (Nat.le_refl _), Nat.sub_self] at hx
  obtain rfl := Option.some.inj hx
  obtain ⟨m, hm, hmi, hsemicolon⟩ := h before.length (by omega) hkind
  have hy := hget m (by omega)
  obtain ⟨d, rfl⟩ : ∃ d, m = before.length + (d + 1) := ⟨m - before.length - 1, by omega⟩
  rw [List.getElem?_append_right (Nat.le_add_right _ _), Nat.add_sub_cancel_left,
    List.getElem?_cons_succ] at hy
  exact ⟨_, List.mem_of_getElem? hy, hsemicolon⟩

/-- The name behind `LANGUAGE` is read as the word that the name starts with. -/
lemma trailingLanguage?_eq (hclause : (ofText source).OnlyBlanksBetween j k)
    (hlanguage : (ofText source).kind k = .keyword .LANGUAGE)
    (hblanks : (ofText source).OnlyBlanksBetween k n) :
    Lexeme.trailingLanguage? ((ofText source).rest (j + 1)) =
      let name := Text.trimStart ((ofText source).rest n)
      let word := (if name.head? = some '\'' then name.tail else name).takeWhile Text.isAsciiWord
      if word.isEmpty then none else some word := by
  have hupper := asciiUpper_text hlanguage nofun
  have hk := lt_lastIndex_of_kind hlanguage nofun
  have hlength : ((ofText source).text k).length = 8 := by
    have := congrArg List.length hupper
    rwa [Text.asciiUpper, List.length_map] at this
  have hfront : Text.trimStart ((ofText source).rest (j + 1))
      = (ofText source).text k ++ (ofText source).rest (k + 1) := by
    obtain ⟨s, first, more, hrest, hkind, -, -⟩ := exists_front hk
    have hblank := Lexeme.not_isBlank_front s first more
    rw [hkind, hlanguage] at hblank
    rw [trimStart_rest hclause.1 fun m hm => hclause.2 m hm, ← rest_of_lt hk, hrest]
    exact Text.trimStart_cons (hblank rfl nofun) more
  have hlower : Text.eqIgnoringCase ((ofText source).text k) "language".toList = true := by
    rw [Text.eqIgnoringCase, ← Text.asciiLower_asciiUpper, hupper]
    rfl
  unfold Lexeme.trailingLanguage?
  dsimp only
  rw [hfront, List.take_left' hlength, List.drop_left' hlength, if_pos hlower,
    trimStart_rest hblanks.1 fun m hm => hblanks.2 m hm]

lemma IsName.lt_lastIndex {word : Text} (hname : (ofText source).IsName n word) :
    n < (ofText source).lastIndex := by
  by_contra hle
  have hnil := (closed_ofText source).text_of_le n (Nat.le_of_not_lt hle)
  rcases hname.text_eq with htext | htext
  · exact hname.ne_nil (htext.symm.trans hnil)
  · exact absurd (htext.symm.trans hnil) nofun

/--
The word that is read from a name is the name. More could be read only behind a word without quotes,
but not behind one that starts like a language whose code is scanned.
-/
lemma exists_takeWhile_name {word : Text} (hname : (ofText source).IsName n word) :
    ∃ more, (if (Text.trimStart ((ofText source).rest n)).head? = some '\''
        then (Text.trimStart ((ofText source).rest n)).tail
        else Text.trimStart ((ofText source).rest n)).takeWhile Text.isAsciiWord = word ++ more
      ∧ (Text.eqIgnoringCase (word ++ more) "plpgsql".toList = true
          ∨ Text.eqIgnoringCase (word ++ more) "sql".toList = true → more = []) := by
  have hn := hname.lt_lastIndex
  obtain ⟨hne, hword, htext | htext⟩ := hname
  · obtain ⟨c, w, rfl⟩ := List.exists_cons_of_ne_nil hne
    have hc := hword c (List.mem_cons_self ..)
    obtain ⟨s, first, rest, hrest, -, hfirst, hnext⟩ := exists_front hn
    obtain rfl : first = c := (List.cons.inj (hfirst.symm.trans htext)).1
    have hquote : first ≠ '\'' := by
      rintro rfl
      exact absurd hc (by decide)
    refine ⟨((ofText source).rest (n + 1)).takeWhile Text.isAsciiWord, ?_, fun hcode => ?_⟩
    · rw [rest_of_lt hn, htext, List.cons_append,
        Text.trimStart_cons (Lexeme.not_isBlank_of_isAsciiWord hc), List.head?_cons,
        if_neg (by simpa using hquote), ← List.cons_append, List.takeWhile_append_of_pos hword]
    · rw [hnext, Lexeme.front_of_letter hc (hcode.imp ?_ ?_)]
      · exact Lexeme.takeWhile_drop_takeWhile rest
      · exact fun h => (List.cons.inj (beq_iff_eq.1 h)).1
      · exact fun h => (List.cons.inj (beq_iff_eq.1 h)).1
  · refine ⟨[], ?_, fun _ => rfl⟩
    rw [rest_of_lt hn, htext, List.cons_append, List.cons_append, Text.trimStart_cons (by decide),
      List.head?_cons, if_pos rfl, List.tail_cons, List.append_assoc, List.takeWhile_append_of_pos hword]
    rfl

/-- What follows the first occurrence of the delimiter is what follows the token that closes the body. -/
lemma rest_succ_of_bodyClose {m : Nat} {inner after : Text}
    (hopen : (ofText source).kind i = .bodyOpen) (hclose : (ofText source).kind j = .bodyClose)
    (hfirst : Text.FirstAt ((ofText source).text i) ((ofText source).rest (i + 1)) m)
    (hstart : ((ofText source).get j).start
      = ((ofText source).get i).stop + Text.byteLength (((ofText source).rest (i + 1)).take m))
    (hcut : Text.cutAround ((ofText source).text i) ((ofText source).rest (i + 1))
      = some (inner, after)) : after = (ofText source).rest (j + 1) := by
  have hi := lt_lastIndex_of_kind hopen nofun
  have hj := lt_lastIndex_of_kind hclose nofun
  obtain ⟨s, hscans, hbody, -⟩ := exists_opensBody hopen
  obtain rfl : m = inner.length :=
    hfirst.unique (Text.firstAt_of_cutAround hbody.isTag.ne_nil hcut)
  have hij : i < j := lt_of_stop_le_start hi (by omega)
  obtain ⟨-, hrest⟩ := rest_eq_of_start hij (Nat.le_of_lt hj) (List.take_append_drop _ _).symm hstart
  rw [Lexeme.cutAround_eq_some hcut, List.append_assoc, List.drop_left, rest_of_lt hj] at hrest
  -- Both delimiters stand at the same place, so they are the same.
  obtain ⟨s', hscans', hscan'⟩ := exists_scan source j
  obtain ⟨first, more, n, -, hfront, htext, -⟩ := front_at hscan' hj
  have htags := hscans'.isTag (by simp)
  have hhead := Lexeme.head?_of_bodyClose htags (hclose ▸ hfront)
  rw [← htext] at hhead
  have htag := htags _ (List.mem_of_head? hhead)
  have hsame : (ofText source).text j = (ofText source).text i :=
    htag.eq_of_isPrefix hbody.isTag (List.prefix_append _ _) ⟨after, hrest.symm⟩
  rw [hsame] at hrest
  exact (List.append_cancel_left hrest).symm

/--
The language that is named right behind a routine body is one whose code is scanned, if no language
has been named earlier in the statement.
-/
theorem language_behind_body {m : Nat} {word : Text} (hopen : (ofText source).kind i = .bodyOpen)
    (hbefore : (ofText source).NoLanguageBefore i) (hclose : (ofText source).kind j = .bodyClose)
    (hfirst : Text.FirstAt ((ofText source).text i) ((ofText source).rest (i + 1)) m)
    (hstart : ((ofText source).get j).start
      = ((ofText source).get i).stop + Text.byteLength (((ofText source).rest (i + 1)).take m))
    (hclause : (ofText source).OnlyBlanksBetween j k)
    (hlanguage : (ofText source).kind k = .keyword .LANGUAGE)
    (hblanks : (ofText source).OnlyBlanksBetween k n) (hname : (ofText source).IsName n word) :
    Text.eqIgnoringCase word "plpgsql".toList = true ∨ Text.eqIgnoringCase word "sql".toList = true := by
  obtain ⟨s, hscans, hbody, -⟩ := exists_opensBody hopen
  obtain ⟨inner, after, hcut, hcode⟩ := hbody.closing
  have hi := lt_lastIndex_of_kind hopen nofun
  have hnone : s.language = none :=
    hscans.language_eq_none (languagesEnd_take (Nat.le_of_lt hi) hbefore) (.inl ⟨rfl, nofun⟩)
  rw [rest_succ_of_bodyClose hopen hclose hfirst hstart hcut] at hcode
  unfold Lexeme.Surroundings.isCodeLanguage at hcode
  rw [hnone, Option.orElse_none, trailingLanguage?_eq hclause hlanguage hblanks] at hcode
  obtain ⟨more, hread, hmore⟩ := exists_takeWhile_name hname
  simp only [hread, List.isEmpty_iff, List.append_eq_nil_iff, hname.ne_nil, false_and, if_false,
    Bool.or_eq_true] at hcode
  obtain rfl := hmore hcode
  rwa [List.append_nil] at hcode

/-- The language of a body is named in quotes on the next line. -/
theorem language_behind_body_of_quoted_name :
    (ofText "create function f() as $$ x $$\nlanguage 'PLpgSQL'".toList).kind 10 = .bodyOpen
      ∧ (ofText "create function f() as $$ x $$\nlanguage 'PLpgSQL'".toList).kind 16
        = .keyword .LANGUAGE
      ∧ (Text.eqIgnoringCase "PLpgSQL".toList "plpgsql".toList = true
        ∨ Text.eqIgnoringCase "PLpgSQL".toList "sql".toList = true) := by
  generalize hts : ofText "create function f() as $$ x $$\nlanguage 'PLpgSQL'".toList = ts
  have hopen : ts.kind 10 = .bodyOpen := by
    rw [← hts]
    decide +kernel
  have hlanguage : ts.kind 16 = .keyword .LANGUAGE := by
    rw [← hts]
    decide +kernel
  have hbefore : ∀ m < 10, ts.kind m ≠ .keyword .LANGUAGE := by
    rw [← hts]
    decide +kernel
  have hblank : ∀ m ∈ [15, 17], (ts.kind m).isWhitespace = true := by
    rw [← hts]
    decide +kernel
  have hname : ts.text 18 = '\'' :: "PLpgSQL".toList ++ ['\''] := by
    rw [← hts]
    decide +kernel
  refine ⟨hopen, hlanguage, ?_⟩
  subst hts
  refine language_behind_body (j := 14) (k := 16) (n := 18) (m := 3) hopen
    (fun m hm h => absurd h (hbefore m hm)) (by decide +kernel)
    ⟨by decide +kernel, by decide +kernel⟩ (by decide +kernel)
    ⟨by decide, fun m hm hm' => hblank m (by simp; omega)⟩ hlanguage
    ⟨by decide, fun m hm hm' => hblank m (by simp; omega)⟩ ⟨by decide, Text.forall_of_all (by decide), .inr hname⟩

/-- A clause behind another attribute is not seen, so that the body of a foreign routine is scanned. -/
theorem foreign_body_scanned :
    let ts := ofText "create function f() as $$ x $$ immutable language c".toList
    ts.kind 10 = .bodyOpen ∧ ts.kind 14 = .bodyClose ∧ ts.text 14 = ts.text 10
      ∧ ts.kind 18 = .keyword .LANGUAGE
      ∧ (∀ m < 18, 14 < m → ts.kind m ≠ .semicolon ∧ ts.kind m ≠ .keyword .LANGUAGE)
      ∧ ts.nextSignificant 19 = 20 ∧ ts.text 20 = "c".toList
      ∧ Text.eqIgnoringCase "c".toList "plpgsql".toList = false
      ∧ Text.eqIgnoringCase "c".toList "sql".toList = false := by
  decide +kernel

end TokenStream
end SqlLayout
