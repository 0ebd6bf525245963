import SqlLayout.Proofs.Token.Tiling

/-!
# Where routine bodies end

A body is opened only if its delimiter occurs again. Whether it is closed there depends on the tokens
in between: the delimiters of open bodies form a stack, no body is closed before the first occurrence
of its delimiter, and it is closed at that place exactly if a token starts there and every body that
was opened since has been closed. A name may contain dollar signs, so not every body is closed.
-/

namespace SqlLayout

namespace Text

/-! ### First occurrences -/

/-- A mark occurs behind the first `n` characters of a text, and nowhere before. -/
structure FirstAt (mark t : Text) (n : Nat) : Prop where
  here : mark <+: t.drop n
  none_before (m : Nat) : m < n → ¬ mark <+: t.drop m

lemma FirstAt.unique {mark t : Text} {m n : Nat} (hm : FirstAt mark t m) (hn : FirstAt mark t n) :
    m = n := by
  rcases Nat.lt_trichotomy m n with h | h | h
  · exact absurd hm.here (hn.none_before m h)
  · exact h
  · exact absurd hn.here (hm.none_before n h)

lemma FirstAt.drop {mark t : Text} {m n : Nat} (h : FirstAt mark t n) (hm : m ≤ n) :
    FirstAt mark (t.drop m) (n - m) := by
  constructor
  · rw [List.drop_drop, Nat.add_sub_cancel' hm]
    exact h.here
  · intro k hk
    rw [List.drop_drop]
    exact h.none_before (m + k) (by omega)

/-- Cutting a text around a mark finds the first occurrence. -/
lemma firstAt_of_cutAround {mark t before after : Text} (hmark : mark ≠ [])
    (h : cutAround mark t = some (before, after)) : FirstAt mark t before.length := by
  induction t generalizing before with
  | nil =>
    rw [cutAround] at h
    split at h
    · next hempty => exact absurd (List.isEmpty_iff.1 hempty) hmark
    · exact absurd h (by simp)
  | cons c rest ih =>
    rw [cutAround] at h
    split at h
    · next hprefix =>
      obtain ⟨rfl, rfl⟩ : [] = before ∧ _ = after := by simpa using h
      exact ⟨⟨_, List.isPrefixOf?_eq_some_iff_append_eq.1 hprefix⟩, fun m hm => absurd hm (by simp)⟩
    · next hprefix =>
      obtain ⟨⟨b, a⟩, hcut, heq⟩ := Option.map_eq_some_iff.1 h
      obtain ⟨rfl, rfl⟩ : c :: b = before ∧ a = after := by simpa using heq
      obtain ⟨hhere, hbefore⟩ := ih hcut
      refine ⟨hhere, fun m hm => ?_⟩
      cases m with
      | zero =>
        rintro ⟨more, hmore⟩
        have hsome := List.isPrefixOf?_eq_some_iff_append_eq.2 hmore
        rw [List.drop_zero, hprefix] at hsome
        exact absurd hsome (by simp)
      | succ m => exact hbefore m (Nat.lt_of_succ_lt_succ hm)

/-- Two front parts of a text with the same number of bytes are equal. -/
lemma eq_of_byteLength_eq {a b c d : Text} (h : a ++ b = c ++ d)
    (hlength : byteLength a = byteLength c) : a = c ∧ b = d := by
  induction a generalizing c with
  | nil =>
    cases c with
    | nil => exact ⟨rfl, h⟩
    | cons x c =>
      have := x.utf8Size_pos
      simp only [byteLength_nil, byteLength_cons] at hlength
      omega
  | cons x a ih =>
    cases c with
    | nil =>
      have := x.utf8Size_pos
      simp only [byteLength_nil, byteLength_cons] at hlength
      omega
    | cons y c =>
      obtain ⟨rfl, hrest⟩ := List.cons.inj h
      obtain ⟨rfl, hd⟩ := ih hrest (by simpa using hlength)
      exact ⟨rfl, hd⟩

end Text

namespace Lexeme

open Text (FirstAt)

/-! ### Runs of the scanner -/

/-- The scanner comes over the given lexemes from one place to another. -/
inductive Scans : Surroundings → Text → List Lexeme → Surroundings → Text → Prop where
  | done {s : Surroundings} {t : Text} : Scans s t [] s t
  | step {s s' : Surroundings} {first : Char} {rest t' : Text} {kind : TokenKind} {n : Nat}
      {lexemes : List Lexeme} : front s first rest = (kind, n) →
      Scans (s.advance ⟨kind, first :: rest.take n⟩) (rest.drop n) lexemes s' t' →
      Scans s (first :: rest) (⟨kind, first :: rest.take n⟩ :: lexemes) s' t'

lemma scan_cons {s : Surroundings} {first : Char} {rest : Text} {kind : TokenKind} {n : Nat}
    (h : front s first rest = (kind, n)) : scan s (first :: rest)
      = ⟨kind, first :: rest.take n⟩ :: scan (s.advance ⟨kind, first :: rest.take n⟩) (rest.drop n) := by
  rw [scan, h]

/-- The scanner can be stopped behind any of its lexemes. -/
lemma scans_of_scan {s : Surroundings} {t : Text} {lexemes others : List Lexeme}
    (h : scan s t = lexemes ++ others) :
    ∃ s', Scans s t lexemes s' (others.flatMap text) ∧ scan s' (others.flatMap text) = others := by
  induction lexemes generalizing s t with
  | nil =>
    have ht := flatMap_text_scan s t
    rw [h, List.nil_append] at ht
    subst ht
    exact ⟨s, .done, h⟩
  | cons x lexemes ih =>
    cases t with
    | nil => simp [scan] at h
    | cons first rest =>
      obtain ⟨kind, n, hfront⟩ : ∃ kind n, front s first rest = (kind, n) := ⟨_, _, rfl⟩
      rw [scan_cons hfront] at h
      obtain ⟨rfl, hrest⟩ := List.cons.inj h
      obtain ⟨s', hscans, hscan⟩ := ih hrest
      exact ⟨s', .step hfront hscans, hscan⟩

/-! ### Delimiters -/

/-- A delimiter is a word without dollar signs between two dollar signs. -/
def IsTag (tag : Text) : Prop :=
  ∃ word, tag = '$' :: word ++ ['$'] ∧ '$' ∉ word

lemma IsTag.ne_nil {tag : Text} (h : IsTag tag) : tag ≠ [] := by
  obtain ⟨word, rfl, -⟩ := h
  simp

/-- Of two delimiters at the front of a text neither is longer. -/
lemma IsTag.eq_of_isPrefix {a b t : Text} (ha : IsTag a) (hb : IsTag b) (hat : a <+: t) (hbt : b <+: t) :
    a = b := by
  obtain ⟨v, rfl, hv⟩ := ha
  obtain ⟨w, rfl, hw⟩ := hb
  obtain ⟨x, rfl⟩ := hat
  obtain ⟨y, hy⟩ := hbt
  have hwords : w ++ '$' :: y = v ++ '$' :: x := by simpa using hy
  clear hy
  induction v generalizing w with
  | nil =>
    cases w with
    | nil => rfl
    | cons c w => simp_all
  | cons c v ih =>
    cases w with
    | nil => simp_all
    | cons d w =>
      obtain ⟨rfl, hrest⟩ := List.cons.inj hwords
      have := ih (fun h => hv (List.mem_cons_of_mem _ h)) w (fun h => hw (List.mem_cons_of_mem _ h)) hrest
      simpa using this

lemma isTag_of_dollarTag? {rest tag : Text} (h : dollarTag? rest = some tag) : IsTag tag := by
  unfold dollarTag? at h
  dsimp only at h
  split_ifs at h
  obtain rfl := Option.some.inj h
  refine ⟨_, rfl, fun hmem => ?_⟩
  exact absurd (List.mem_takeWhile_imp hmem) (by decide)

lemma ofWord_eq (word : Text) :
    TokenKind.ofWord word = .ident ∨ ∃ k, TokenKind.ofWord word = .keyword k := by
  unfold TokenKind.ofWord
  split
  · exact .inr ⟨_, rfl⟩
  · exact .inl rfl

/-- Only a token that starts with a dollar sign delimits a body. -/
lemma front_eq_dollarToken (s : Surroundings) (first : Char) (rest : Text) :
    (front s first rest).1 = .bodyOpen ∨ (front s first rest).1 = .bodyClose →
      first = '$' ∧ front s first rest = dollarToken s rest := by
  have quoted {kind : TokenKind} (hkind : kind ≠ .bodyOpen ∧ kind ≠ .bodyClose) (quote : Char)
      (skipped : Nat) : ¬ ((quotedToken kind quote skipped rest).1 = .bodyOpen
        ∨ (quotedToken kind quote skipped rest).1 = .bodyClose) := by
    unfold quotedToken
    split
    · exact not_or.2 hkind
    · simp
  apply TokenStream.front_elim (P := fun token => token.1 = .bodyOpen ∨ token.1 = .bodyClose →
    first = '$' ∧ token = dollarToken s rest)
  case spacing => simp
  case feed => simp
  case line => simp
  case block => simp
  case unclosed => simp
  case string => exact fun _ h => absurd h (quoted (by simp) _ _)
  case name => exact fun _ h => absurd h (quoted (by simp) _ _)
  case marked => exact fun _ h => absurd h (quoted (by simp) _ _)
  case dollar => exact fun hfirst _ => ⟨hfirst, rfl⟩
  case number =>
    intro _ h
    unfold numberToken at h
    dsimp only at h
    split_ifs at h <;> simp at h
  case word =>
    intro _ h
    rcases ofWord_eq (first :: rest.takeWhile isIdentContinue) with hword | ⟨k, hword⟩ <;>
      simp [hword] at h
  case symbol =>
    intro h
    unfold symbolToken punctuation at h
    split_ifs at h
    · simp at h
    · simp at h
    · simp at h
    · dsimp only at h
      split at h <;> simp at h

/-- What makes a token the opening delimiter of a body. -/
structure OpensBody (s : Surroundings) (tag rest : Text) : Prop where
  isTag : IsTag tag
  previous : s.previous = .keyword .AS ∨ s.previous = .keyword .DO
  /-- The delimiter occurs again, and no other language is named around the body. -/
  closing : ∃ inner after, Text.cutAround tag rest = some (inner, after) ∧ s.isCodeLanguage after = true

lemma opensBody_of_front {s : Surroundings} {first : Char} {rest : Text} {n : Nat}
    (h : front s first rest = (.bodyOpen, n)) : OpensBody s (first :: rest.take n) (rest.drop n) := by
  obtain ⟨rfl, hdollar⟩ := front_eq_dollarToken s first rest (.inl (by rw [h]))
  rw [h, eq_comm] at hdollar
  unfold dollarToken at hdollar
  split at hdollar
  · exact absurd (Prod.mk.inj hdollar).1 nofun
  split at hdollar
  · split at hdollar <;> exact absurd (Prod.mk.inj hdollar).1 nofun
  · next tag htag =>
    split at hdollar
    · exact absurd (Prod.mk.inj hdollar).1 nofun
    · next inner after hcut =>
      dsimp only at hdollar
      split at hdollar
      · next hopens =>
        obtain ⟨-, rfl⟩ := Prod.mk.inj hdollar
        rw [(dollarTag?_eq_some htag).1]
        simp only [Bool.and_eq_true, Bool.or_eq_true, beq_iff_eq] at hopens
        exact ⟨isTag_of_dollarTag? htag, hopens.1, inner, after, hcut, hopens.2⟩
      · exact absurd (Prod.mk.inj hdollar).1 nofun

/-- A closing delimiter is that of the innermost body. -/
lemma head?_of_bodyClose {s : Surroundings} (hs : ∀ tag ∈ s.openTags, IsTag tag) {first : Char}
    {rest : Text} {n : Nat} (h : front s first rest = (.bodyClose, n)) :
    s.openTags.head? = some (first :: rest.take n) := by
  obtain ⟨rfl, hdollar⟩ := front_eq_dollarToken s first rest (.inr (by rw [h]))
  rw [h, eq_comm] at hdollar
  unfold dollarToken at hdollar
  split at hdollar
  · next tag htag =>
    obtain ⟨-, rfl⟩ := Prod.mk.inj hdollar
    obtain ⟨tag', hhead, hmap⟩ := Option.bind_eq_some_iff.1 htag
    obtain ⟨after, hprefix, rfl⟩ := Option.map_eq_some_iff.1 hmap
    obtain ⟨word, rfl, -⟩ := hs tag' (List.mem_of_head? hhead)
    have hrest : rest = word ++ ['$'] ++ after :=
      (List.cons.inj (List.isPrefixOf?_eq_some_iff_append_eq.1 hprefix)).2.symm
    have htake : rest.take (word ++ ['$']).length = word ++ ['$'] := by rw [hrest, List.take_left]
    rw [hhead]
    exact congrArg (fun t => some ('$' :: t)) htake.symm
  · exfalso
    split at hdollar
    · split at hdollar <;> exact absurd (Prod.mk.inj hdollar).1 nofun
    split at hdollar
    · exact absurd (Prod.mk.inj hdollar).1 nofun
    dsimp only at hdollar
    split at hdollar <;> exact absurd (Prod.mk.inj hdollar).1 nofun

/-- Where the delimiter of the innermost body stands, that body is closed. -/
lemma scan_of_head? {s : Surroundings} {tag t : Text} (htag : IsTag tag)
    (hhead : s.openTags.head? = some tag) (ht : tag <+: t) :
    ∃ others, scan s t = ⟨.bodyClose, tag⟩ :: others := by
  obtain ⟨word, rfl, -⟩ := htag
  obtain ⟨after, rfl⟩ := ht
  have hprefix : List.isPrefixOf? ('$' :: word ++ ['$']) ('$' :: (word ++ ['$'] ++ after)) = some after :=
    List.isPrefixOf?_eq_some_iff_append_eq.2 rfl
  have hdollar : dollarToken s (word ++ ['$'] ++ after) = (.bodyClose, (word ++ ['$']).length) := by
    unfold dollarToken
    rw [hhead, Option.bind_some, hprefix]
    simp
  have hfront : front s '$' (word ++ ['$'] ++ after) = (.bodyClose, (word ++ ['$']).length) := by
    rw [← hdollar]
    simp [front, isSpacing, isStringMarker]
  have hscan := scan_cons hfront
  rw [List.take_left] at hscan
  exact ⟨_, hscan⟩

/-! ### The stack of open bodies -/

/-- Number of lexemes of a kind. -/
def countKind (kind : TokenKind) (lexemes : List Lexeme) : Nat :=
  lexemes.countP fun x => x.kind = kind

/-- Every delimiter on the stack is one, whatever is scanned. -/
lemma Scans.isTag {s s' : Surroundings} {t t' : Text} {lexemes : List Lexeme}
    (h : Scans s t lexemes s' t') (hs : ∀ tag ∈ s.openTags, IsTag tag) :
    ∀ tag ∈ s'.openTags, IsTag tag := by
  induction h with
  | done => exact hs
  | step hfront _ ih =>
    refine ih fun tag htag => ?_
    rw [openTags_advance] at htag
    split at htag
    · next hkind =>
      dsimp only at hkind
      subst hkind
      rcases List.mem_cons.1 htag with rfl | htag
      · exact (opensBody_of_front hfront).isTag
      · exact hs tag htag
    · exact hs tag (List.mem_of_mem_tail htag)
    · exact hs tag htag

/--
What one lexeme does to the stack above an open body: it opens a body with another delimiter, closes
such a body, or leaves the stack alone.
-/
lemma openTags_step {s : Surroundings} {first : Char} {rest tag : Text} {kind : TokenKind} {m : Nat}
    {opened outer : List Text} (hs : ∀ tag ∈ s.openTags, IsTag tag)
    (hfront : front s first rest = (kind, m)) (hopen : s.openTags = opened ++ tag :: outer)
    (hnew : tag ∉ opened) (hother : first :: rest.take m ≠ tag) :
    ∃ opened', (s.advance ⟨kind, first :: rest.take m⟩).openTags = opened' ++ tag :: outer
      ∧ tag ∉ opened' ∧ opened'.length + countKind .bodyClose [⟨kind, first :: rest.take m⟩]
        = opened.length + countKind .bodyOpen [⟨kind, first :: rest.take m⟩] := by
  rw [openTags_advance, hopen]
  split
  · next hkind =>
    dsimp only at hkind
    subst hkind
    refine ⟨(first :: rest.take m) :: opened, rfl, ?_, by simp [countKind]⟩
    simp [hnew, Ne.symm hother]
  · next hkind =>
    dsimp only at hkind
    subst hkind
    have hhead := head?_of_bodyClose hs hfront
    rw [hopen] at hhead
    cases opened with
    | nil => exact absurd (Option.some.inj hhead).symm hother
    | cons inner opened =>
      refine ⟨opened, rfl, fun h => hnew (List.mem_cons_of_mem _ h), by simp [countKind]⟩
  · next hopens hcloses =>
    have hopens : kind ≠ .bodyOpen := hopens
    have hcloses : kind ≠ .bodyClose := hcloses
    exact ⟨opened, rfl, hnew, by simp [countKind, hopens, hcloses]⟩

/--
Before the next occurrence of its delimiter an open body stays open, and the bodies inside it that are
open have other delimiters.
-/
lemma Scans.openTags_eq {s s' : Surroundings} {t t' tag : Text} {lexemes : List Lexeme}
    {opened outer : List Text} {n : Nat} (h : Scans s t lexemes s' t')
    (hs : ∀ tag ∈ s.openTags, IsTag tag) (hopen : s.openTags = opened ++ tag :: outer)
    (hnew : tag ∉ opened) (hfirst : FirstAt tag t n) (hn : (lexemes.flatMap text).length ≤ n) :
    ∃ opened', s'.openTags = opened' ++ tag :: outer ∧ tag ∉ opened'
      ∧ opened'.length + countKind .bodyClose lexemes
        = opened.length + countKind .bodyOpen lexemes := by
  induction h generalizing opened n with
  | done => exact ⟨opened, hopen, hnew, rfl⟩
  | @step s s' first rest t' kind m lexemes hfront hscans ih =>
    have hm : m ≤ rest.length := by
      have := front_le s first rest
      rwa [hfront] at this
    have hlength : m + 1 + (lexemes.flatMap text).length ≤ n := by
      rw [List.flatMap_cons, List.length_append, List.length_cons, List.length_take,
        Nat.min_eq_left hm] at hn
      exact hn
    -- The first lexeme stands at the front of the text, and the delimiter does not.
    have hother : first :: rest.take m ≠ tag := by
      rintro rfl
      exact hfirst.none_before 0 (by omega) ⟨rest.drop m, by simp⟩
    obtain ⟨opened', hopen', hnew', hcount⟩ := openTags_step hs hfront hopen hnew hother
    have hrest : FirstAt tag (rest.drop m) (n - (m + 1)) := hfirst.drop (m := m + 1) (by omega)
    obtain ⟨opened'', hopen'', hnew'', hcount'⟩ :=
      ih (Scans.isTag (.step hfront .done) hs) hopen' hnew' hrest (by omega)
    refine ⟨opened'', hopen'', hnew'', ?_⟩
    simp only [countKind, List.countP_cons, List.countP_nil] at hcount hcount' ⊢
    omega

end Lexeme

namespace TokenStream

/-! ### Bodies of a stream -/

variable {source : Text} {i j : Nat}

/-- The source from a token on. -/
def rest (ts : TokenStream) (i : Nat) : Text :=
  (ts.tokens.toList.drop i).flatMap Token.text

lemma rest_ofText (source : Text) (i : Nat) :
    (ofText source).rest i = ((Lexeme.scan {} source).drop i).flatMap Lexeme.text := by
  have h := congrArg (List.drop i) (map_lexeme_place 0 {} {} none (Lexeme.scan {} source))
  rw [← List.map_drop] at h
  have htexts := congrArg (List.flatMap Lexeme.text) h
  rw [List.flatMap_map, List.drop_append, List.flatMap_append] at htexts
  refine (show (ofText source).rest i = _ from htexts).trans ?_
  cases i - (Lexeme.scan {} source).length <;> simp

/-- The source is what stands before a token and the source from it on. -/
lemma append_rest (source : Text) (i : Nat) :
    ((Lexeme.scan {} source).take i).flatMap Lexeme.text ++ (ofText source).rest i = source := by
  rw [rest_ofText, ← source_eq_append]

lemma rest_zero (source : Text) : (ofText source).rest 0 = source :=
  append_rest source 0

lemma drop_scan (h : i < (ofText source).lastIndex) : (Lexeme.scan {} source).drop i
    = ⟨(ofText source).kind i, (ofText source).text i⟩ :: (Lexeme.scan {} source).drop (i + 1) := by
  have hi := getElem?_scan (Nat.le_of_lt h)
  rw [lastIndex_ofText] at h
  rw [List.getElem?_append_left h] at hi
  rw [List.drop_eq_getElem_cons h, (List.getElem?_eq_some_iff.1 hi).2]

lemma rest_of_lt (h : i < (ofText source).lastIndex) :
    (ofText source).rest i = (ofText source).text i ++ (ofText source).rest (i + 1) := by
  rw [rest_ofText, rest_ofText, drop_scan h, List.flatMap_cons]

variable {s : Lexeme.Surroundings}

/-- The scanner can be followed from one token to a later one. -/
lemma exists_scans (hscan : Lexeme.scan s ((ofText source).rest i) = (Lexeme.scan {} source).drop i)
    (h : i ≤ j) : ∃ s', Lexeme.Scans s ((ofText source).rest i)
        (((Lexeme.scan {} source).drop i).take (j - i)) s' ((ofText source).rest j)
      ∧ Lexeme.scan s' ((ofText source).rest j) = (Lexeme.scan {} source).drop j := by
  have hcut := List.take_append_drop (j - i) ((Lexeme.scan {} source).drop i)
  rw [List.drop_drop, Nat.add_sub_cancel' h, ← hscan, eq_comm] at hcut
  obtain ⟨s', hscans, hscan'⟩ := Lexeme.scans_of_scan hcut
  rw [hscan, ← rest_ofText] at hscans
  rw [← rest_ofText] at hscan'
  exact ⟨s', hscans, hscan'⟩

/-- The token that the scanner finds at a place. -/
lemma front_at (hscan : Lexeme.scan s ((ofText source).rest i) = (Lexeme.scan {} source).drop i)
    (h : i < (ofText source).lastIndex) :
    ∃ first more n, (ofText source).rest i = first :: more
      ∧ Lexeme.front s first more = ((ofText source).kind i, n)
      ∧ (ofText source).text i = first :: more.take n
      ∧ (ofText source).rest (i + 1) = more.drop n
      ∧ Lexeme.scan (s.advance ⟨(ofText source).kind i, (ofText source).text i⟩)
          ((ofText source).rest (i + 1)) = (Lexeme.scan {} source).drop (i + 1) := by
  rw [drop_scan h] at hscan
  cases hrest : (ofText source).rest i with
  | nil => simp [hrest, Lexeme.scan] at hscan
  | cons first more =>
    obtain ⟨kind, n, hfront⟩ : ∃ kind n, Lexeme.front s first more = (kind, n) := ⟨_, _, rfl⟩
    rw [hrest, Lexeme.scan_cons hfront] at hscan
    obtain ⟨hx, hmore⟩ := List.cons.inj hscan
    obtain ⟨rfl, htext⟩ := Lexeme.mk.inj hx
    have hdrop : (ofText source).rest (i + 1) = more.drop n := by
      rw [rest_ofText, ← hmore, Lexeme.flatMap_text_scan]
    refine ⟨first, more, n, rfl, hfront, htext.symm, hdrop, ?_⟩
    rw [← htext, hdrop, hmore]

/-- Number of tokens of a kind that stand between two tokens. -/
def countBetween (ts : TokenStream) (kind : TokenKind) (i j : Nat) : Nat :=
  (List.range' (i + 1) (j - (i + 1))).countP fun k => ts.kind k = kind

lemma countBetween_ofText (kind : TokenKind) (h : j ≤ (ofText source).lastIndex) :
    (ofText source).countBetween kind i j
      = Lexeme.countKind kind (((Lexeme.scan {} source).drop (i + 1)).take (j - (i + 1))) := by
  unfold countBetween
  generalize i + 1 = k
  induction hn : j - k generalizing k with
  | zero => simp [Lexeme.countKind]
  | succ n ih =>
    have hk : k < (ofText source).lastIndex := by omega
    rw [List.range'_succ, List.countP_cons, ih (k + 1) (by omega), drop_scan hk,
      List.take_succ_cons, Lexeme.countKind, Lexeme.countKind, List.countP_cons]

/-- Tokens stand in the order of their bytes. -/
lemma start_le_start (hij : i ≤ j) (hj : j ≤ (ofText source).lastIndex) :
    ((ofText source).get i).start ≤ ((ofText source).get j).start := by
  rw [start_get (hij.trans hj), start_get hj]
  obtain ⟨others, hothers⟩ := List.take_prefix_take_left (l := Lexeme.scan {} source) hij
  rw [← hothers, List.flatMap_append, Text.byteLength_append]
  exact Nat.le_add_right _ _

/-- A token that starts no earlier than another one ends comes after it. -/
lemma lt_of_stop_le_start (hi : i < (ofText source).lastIndex)
    (h : ((ofText source).get i).stop ≤ ((ofText source).get j).start) : i < j := by
  by_contra hle
  have hstart := start_le_start (Nat.le_of_not_lt hle) (Nat.le_of_lt hi)
  have hne := (text_eq_nil_iff_ofText (Nat.le_of_lt hi)).not.2 (Nat.ne_of_lt hi)
  have hstop : ((ofText source).get i).stop
      = ((ofText source).get i).start + Text.byteLength ((ofText source).text i) := rfl
  cases htext : (ofText source).text i with
  | nil => exact hne htext
  | cons c t =>
    have := c.utf8Size_pos
    rw [htext, Text.byteLength_cons] at hstop
    omega

/-- A token that starts at an offset cuts the source from an earlier token on there. -/
lemma rest_eq_of_start (hij : i < j) (hj : j ≤ (ofText source).lastIndex) {before after : Text}
    (hrest : (ofText source).rest (i + 1) = before ++ after)
    (hstart : ((ofText source).get j).start = ((ofText source).get i).stop + Text.byteLength before) :
    (((Lexeme.scan {} source).drop (i + 1)).take (j - (i + 1))).flatMap Lexeme.text = before
      ∧ (ofText source).rest j = after := by
  have htake : (Lexeme.scan {} source).take j = (Lexeme.scan {} source).take (i + 1)
      ++ ((Lexeme.scan {} source).drop (i + 1)).take (j - (i + 1)) := by
    rw [← List.take_add, Nat.add_sub_cancel' hij]
  rw [start_get hj, stop_get (hij.trans_le hj), htake, List.flatMap_append, Text.byteLength_append]
    at hstart
  refine Text.eq_of_byteLength_eq ?_ (Nat.add_left_cancel hstart)
  have hcut := List.take_append_drop (j - (i + 1)) ((Lexeme.scan {} source).drop (i + 1))
  rw [List.drop_drop, Nat.add_sub_cancel' hij] at hcut
  rw [← hrest, rest_ofText, rest_ofText, ← List.flatMap_append, hcut]

lemma lt_lastIndex_of_kind {kind : TokenKind} (h : (ofText source).kind i = kind) (hkind : kind ≠ .eof) :
    i < (ofText source).lastIndex := by
  by_contra hle
  exact hkind (h ▸ ((closed_ofText source).kind_eq_eof_iff i).2 (Nat.le_of_not_lt hle))

/-- What the scanner saw when it opened a body. -/
lemma exists_opensBody (hopen : (ofText source).kind i = .bodyOpen) :
    ∃ s, Lexeme.Scans {} source ((Lexeme.scan {} source).take i) s ((ofText source).rest i)
      ∧ Lexeme.OpensBody s ((ofText source).text i) ((ofText source).rest (i + 1))
      ∧ Lexeme.scan (s.advance ⟨.bodyOpen, (ofText source).text i⟩) ((ofText source).rest (i + 1))
        = (Lexeme.scan {} source).drop (i + 1) := by
  have hi := lt_lastIndex_of_kind hopen nofun
  have hzero : Lexeme.scan {} ((ofText source).rest 0) = (Lexeme.scan {} source).drop 0 := by
    rw [rest_zero, List.drop_zero]
  obtain ⟨s, hscans, hscan⟩ := exists_scans hzero (Nat.zero_le i)
  obtain ⟨first, more, n, -, hfront, htext, hnext, hscan'⟩ := front_at hscan hi
  rw [rest_zero] at hscans
  rw [hopen] at hfront hscan'
  refine ⟨s, hscans, ?_, hscan'⟩
  rw [htext, hnext]
  exact Lexeme.opensBody_of_front hfront

/-- The bodies that are open at a token no later than the next delimiter of a body. -/
lemma exists_openTags (hopen : (ofText source).kind i = .bodyOpen) (hij : i < j)
    (hj : j ≤ (ofText source).lastIndex) {n : Nat}
    (hfirst : Text.FirstAt ((ofText source).text i) ((ofText source).rest (i + 1)) n)
    (hn : ((((Lexeme.scan {} source).drop (i + 1)).take (j - (i + 1))).flatMap Lexeme.text).length ≤ n) :
    ∃ s opened outer, Lexeme.scan s ((ofText source).rest j) = (Lexeme.scan {} source).drop j
      ∧ (∀ tag ∈ s.openTags, Lexeme.IsTag tag)
      ∧ s.openTags = opened ++ (ofText source).text i :: outer
      ∧ (ofText source).text i ∉ opened
      ∧ opened.length + (ofText source).countBetween .bodyClose i j
        = (ofText source).countBetween .bodyOpen i j := by
  obtain ⟨s, hscans, hbody, hscan⟩ := exists_opensBody hopen
  obtain ⟨s', hscans', hscan'⟩ := exists_scans hscan hij
  have htags : ∀ tag ∈ (s.advance ⟨.bodyOpen, (ofText source).text i⟩).openTags, Lexeme.IsTag tag := by
    intro tag htag
    rw [Lexeme.openTags_advance] at htag
    rcases List.mem_cons.1 htag with rfl | htag
    · exact hbody.isTag
    · exact hscans.isTag (by simp) tag htag
  have hopens : (s.advance ⟨.bodyOpen, (ofText source).text i⟩).openTags
      = [] ++ (ofText source).text i :: s.openTags := Lexeme.openTags_advance s _
  obtain ⟨opened, hopened, hnew, hcount⟩ := hscans'.openTags_eq htags hopens (by simp) hfirst hn
  refine ⟨s', opened, s.openTags, hscan', hscans'.isTag htags, hopened, hnew, ?_⟩
  rw [countBetween_ofText _ hj, countBetween_ofText _ hj, hcount, List.length_nil, Nat.zero_add]

/--
A token at the next delimiter of an open body closes it exactly if every body that has been opened
since has been closed.
-/
lemma closes_iff_countBetween_eq {n : Nat} (hopen : (ofText source).kind i = .bodyOpen)
    (hfirst : Text.FirstAt ((ofText source).text i) ((ofText source).rest (i + 1)) n)
    (hj : j < (ofText source).lastIndex) (hstart : ((ofText source).get j).start
      = ((ofText source).get i).stop + Text.byteLength (((ofText source).rest (i + 1)).take n)) :
    (ofText source).kind j = .bodyClose ∧ (ofText source).text j = (ofText source).text i
      ↔ (ofText source).countBetween .bodyOpen i j = (ofText source).countBetween .bodyClose i j := by
  have hij : i < j := lt_of_stop_le_start (lt_lastIndex_of_kind hopen nofun) (by omega)
  obtain ⟨hmid, hrest⟩ := rest_eq_of_start hij (Nat.le_of_lt hj) (List.take_append_drop n _).symm hstart
  obtain ⟨s, opened, outer, hscan, htags, hopened, hnew, hcount⟩ :=
    exists_openTags hopen hij (Nat.le_of_lt hj) hfirst (by rw [hmid]; exact List.length_take_le _ _)
  cases opened with
  | nil =>
    -- Nothing is open inside the body, so its delimiter closes it.
    have hcloses : (ofText source).kind j = .bodyClose
        ∧ (ofText source).text j = (ofText source).text i := by
      have htag := htags ((ofText source).text i) (by simp [hopened])
      obtain ⟨others, hothers⟩ := Lexeme.scan_of_head? htag (by rw [hopened]; rfl) (hrest ▸ hfirst.here)
      rw [hscan, drop_scan hj] at hothers
      exact Lexeme.mk.inj (List.cons.inj hothers).1
    rw [List.length_nil, Nat.zero_add] at hcount
    exact iff_of_true hcloses hcount.symm
  | cons tag opened =>
    refine iff_of_false ?_ ?_
    · rintro ⟨hkind, htext⟩
      obtain ⟨first, more, m, -, hfront, htext', -⟩ := front_at hscan hj
      have hhead := Lexeme.head?_of_bodyClose htags (hkind ▸ hfront)
      rw [hopened, ← htext', htext] at hhead
      obtain rfl : tag = (ofText source).text i := Option.some.inj hhead
      exact hnew (List.mem_cons_self ..)
    · rw [List.length_cons] at hcount
      omega

/--
The delimiter of a body occurs again. The body is closed at the first occurrence exactly if a token
starts there and every body that has been opened since has been closed.
-/
theorem bodyClose_at_delimiter_iff {before after : Text} (hopen : (ofText source).kind i = .bodyOpen)
    (hsource : source = before ++ after)
    (hbefore : Text.byteLength before = ((ofText source).get i).stop) :
    ∃ n, Text.FirstAt ((ofText source).text i) after n
      ∧ ((∃ j < (ofText source).lastIndex, (ofText source).kind j = .bodyClose
          ∧ (ofText source).text j = (ofText source).text i
          ∧ ((ofText source).get j).start
            = ((ofText source).get i).stop + Text.byteLength (after.take n))
        ↔ ∃ j < (ofText source).lastIndex, ((ofText source).get j).start
            = ((ofText source).get i).stop + Text.byteLength (after.take n)
          ∧ (ofText source).countBetween .bodyOpen i j
            = (ofText source).countBetween .bodyClose i j) := by
  have hi := lt_lastIndex_of_kind hopen nofun
  obtain ⟨s, -, hbody, -⟩ := exists_opensBody hopen
  obtain ⟨inner, outer, hcut, -⟩ := hbody.closing
  have hfirst := Text.firstAt_of_cutAround hbody.isTag.ne_nil hcut
  -- The source is cut behind the opening delimiter in one way only.
  obtain rfl : (ofText source).rest (i + 1) = after := by
    have happend := (append_rest source (i + 1)).trans hsource
    rw [stop_get hi] at hbefore
    exact (Text.eq_of_byteLength_eq happend hbefore.symm).2
  refine ⟨inner.length, hfirst, ?_, ?_⟩
  · rintro ⟨j, hj, hkind, htext, hstart⟩
    exact ⟨j, hj, hstart, (closes_iff_countBetween_eq hopen hfirst hj hstart).1 ⟨hkind, htext⟩⟩
  · rintro ⟨j, hj, hstart, hcount⟩
    obtain ⟨hkind, htext⟩ := (closes_iff_countBetween_eq hopen hfirst hj hstart).2 hcount
    exact ⟨j, hj, hkind, htext, hstart⟩

/-- A body is closed at its delimiter behind another body that is opened and closed inside it. -/
theorem bodyClose_of_nested_body :
    (ofText "do $$ do $a$ x $a$; $$".toList).kind 2 = .bodyOpen
      ∧ ∃ j < (ofText "do $$ do $a$ x $a$; $$".toList).lastIndex,
        (ofText "do $$ do $a$ x $a$; $$".toList).kind j = .bodyClose
          ∧ (ofText "do $$ do $a$ x $a$; $$".toList).text j = "$$".toList
          ∧ ((ofText "do $$ do $a$ x $a$; $$".toList).get j).start = 20 := by
  have hopen : (ofText "do $$ do $a$ x $a$; $$".toList).kind 2 = .bodyOpen := by decide +kernel
  have hsource : "do $$ do $a$ x $a$; $$".toList = "do $$".toList ++ " do $a$ x $a$; $$".toList := rfl
  obtain ⟨n, hfirst, hiff⟩ := bodyClose_at_delimiter_iff hopen hsource (by decide +kernel)
  have htext : (ofText "do $$ do $a$ x $a$; $$".toList).text 2 = "$$".toList := by decide +kernel
  obtain rfl : n = 15 := by
    rw [htext] at hfirst
    exact hfirst.unique ⟨by decide, by decide⟩
  obtain ⟨j, hj, hkind, htext', hstart⟩ := hiff.2 ⟨13, by decide +kernel⟩
  exact ⟨hopen, j, hj, hkind, htext'.trans htext, hstart.trans (by decide +kernel)⟩

/-- Names may contain dollar signs, so a delimiter right behind a word is part of it. -/
theorem no_bodyClose_behind_word :
    (ofText "do $$begin end$$".toList).kind 2 = .bodyOpen
      ∧ (ofText "do $$begin end$$".toList).text 2 = "$$".toList
      ∧ ((ofText "do $$begin end$$".toList).get 2).stop = Text.byteLength "do $$".toList
      ∧ Text.FirstAt "$$".toList "begin end$$".toList 9
      ∧ ¬ ∃ j, (ofText "do $$begin end$$".toList).kind j = .bodyClose := by
  refine ⟨by decide +kernel, by decide +kernel, by decide +kernel, ⟨by decide, by decide⟩, ?_⟩
  rintro ⟨j, hkind⟩
  have hj := lt_lastIndex_of_kind hkind nofun
  have hlast : (ofText "do $$begin end$$".toList).lastIndex = 6 := by decide +kernel
  have hnone : ∀ j < 6, (ofText "do $$begin end$$".toList).kind j ≠ .bodyClose := by decide +kernel
  exact hnone j (hlast ▸ hj) hkind

end TokenStream
end SqlLayout
