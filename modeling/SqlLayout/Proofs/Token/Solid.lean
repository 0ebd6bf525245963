import SqlLayout.Proofs.Text.Solid
import SqlLayout.Proofs.Token.Significant

/-!
# Tokens are solid

A token of a source that is neither trivia nor an error ends in a character that is no blank: quoted
tokens end in their quote, delimiters of bodies in a dollar sign, and the others have no blanks at all.
-/

namespace SqlLayout
namespace Lexeme

open Text (Solid isBlank blankCodes not_isBlank_of solid_of_forall)

/-! ### Quoted tokens -/

lemma quotedLength?_cons (quote c : Char) (rest : Text) :
    quotedLength? quote (c :: rest)
      = if c = quote then
          match rest with
          | d :: more => if d = quote then (quotedLength? quote more).map (· + 2) else some 1
          | [] => some 1
        else if c = '\\' ∧ quote = '\'' then
          match rest with
          | _ :: more => (quotedLength? quote more).map (· + 2)
          | [] => none
        else (quotedLength? quote rest).map (· + 1) := by
  cases rest <;> rfl

/-- A quoted text is read up to and including its closing quote. -/
lemma take_quotedLength? {quote : Char} {t : Text} {n : Nat} (h : quotedLength? quote t = some n) :
    ∃ s, t.take n = s ++ [quote] ∧ n = s.length + 1 := by
  have extend (skipped : Text) {more : Text} {m : Nat}
      (hm : (quotedLength? quote more).map (· + skipped.length) = some m)
      (ih : ∀ n, quotedLength? quote more = some n →
        ∃ s, more.take n = s ++ [quote] ∧ n = s.length + 1) :
      ∃ s, (skipped ++ more).take m = s ++ [quote] ∧ m = s.length + 1 := by
    obtain ⟨n, hn, rfl⟩ := Option.map_eq_some_iff.1 hm
    obtain ⟨s, hs, hlength⟩ := ih n hn
    refine ⟨skipped ++ s, ?_, ?_⟩
    · rw [Nat.add_comm, List.take_length_add_append, hs, List.append_assoc]
    · simp only [List.length_append]
      omega
  -- After a doubled quote and after a backslash two characters are skipped.
  induction hlen : t.length using Nat.strong_induction_on generalizing t n with
  | _ length ih =>
    cases t with
    | nil => exact absurd (show none = some n from h) (by simp)
    | cons c rest =>
      rw [List.length_cons] at hlen
      rw [quotedLength?_cons] at h
      split at h
      · next hc =>
        cases rest with
        | nil =>
          obtain rfl := Option.some.inj h
          exact ⟨[], by simp [hc], rfl⟩
        | cons d more =>
          rw [List.length_cons] at hlen
          dsimp only at h
          split at h
          · exact extend [c, d] h fun n hn => ih more.length (by omega) hn rfl
          · obtain rfl := Option.some.inj h
            exact ⟨[], by simp [hc], rfl⟩
      · split at h
        · cases rest with
          | nil => exact absurd h (by simp)
          | cons d more =>
            rw [List.length_cons] at hlen
            exact extend [c, d] h fun n hn => ih more.length (by omega) hn rfl
        · exact extend [c] h fun n hn => ih rest.length (by omega) hn rfl

lemma solid_quotedToken {kind kind' : TokenKind} {quote : Char} (hquote : isBlank quote = false)
    {skipped n : Nat} {rest : Text} (h : quotedToken kind' quote skipped rest = (kind, n))
    (hkind : kind ≠ .error) (first : Char) : Solid (first :: rest.take n) := by
  unfold quotedToken at h
  split at h
  · next m hm =>
    obtain ⟨rfl, rfl⟩ := Prod.mk.inj h
    obtain ⟨s, hs, -⟩ := take_quotedLength? hm
    refine ⟨first :: (rest.take skipped ++ s), quote, ?_, hquote⟩
    rw [List.take_add, hs]
    simp
  · exact absurd (Prod.mk.inj h).1.symm hkind

/-! ### Delimiters of bodies -/

lemma take_spanLength (p : Char → Bool) (t : Text) : t.take (spanLength p t) = t.takeWhile p := by
  have h := List.takeWhile_prefix p (l := t)
  exact (List.prefix_iff_eq_take.1 h).symm

lemma dollarTag?_eq_some {rest tag : Text} (h : dollarTag? rest = some tag) :
    '$' :: rest.take (tag.length - 1) = tag ∧ Solid tag := by
  unfold dollarTag? at h
  dsimp only at h
  split at h
  · exact absurd h (by simp)
  split at h
  · next hdollar =>
    obtain rfl := Option.some.inj h
    refine ⟨?_, '$' :: rest.takeWhile Text.isAsciiWord, '$', rfl, by decide⟩
    obtain ⟨more, hmore⟩ : ∃ more, rest.drop (rest.takeWhile Text.isAsciiWord).length = '$' :: more := by
      cases hrest : rest.drop (rest.takeWhile Text.isAsciiWord).length with
      | nil => simp [hrest] at hdollar
      | cons c more => exact ⟨more, by simp_all⟩
    have hrest := List.take_append_drop (rest.takeWhile Text.isAsciiWord).length rest
    rw [hmore, show rest.take (rest.takeWhile Text.isAsciiWord).length = _ from take_spanLength _ _]
      at hrest
    generalize rest.takeWhile Text.isAsciiWord = word at hrest
    subst hrest
    simp [List.take_append, List.take_of_length_le]
  · exact absurd h (by simp)

/-- What stands around the first occurrence of a mark. -/
lemma cutAround_eq_some {mark t before after : Text} (h : Text.cutAround mark t = some (before, after)) :
    t = before ++ mark ++ after := by
  induction t generalizing before with
  | nil =>
    rw [Text.cutAround] at h
    split at h
    · next hmark => simp_all
    · exact absurd h (by simp)
  | cons c rest ih =>
    rw [Text.cutAround] at h
    split at h
    · next hmark =>
      obtain ⟨rfl, rfl⟩ : [] = before ∧ _ = after := by simpa using h
      exact (List.isPrefixOf?_eq_some_iff_append_eq.1 hmark).symm
    · obtain ⟨⟨b, a⟩, hcut, heq⟩ := Option.map_eq_some_iff.1 h
      obtain ⟨rfl, rfl⟩ : c :: b = before ∧ a = after := by simpa using heq
      simp [ih hcut]

lemma not_isBlank_of_isAsciiWord {c : Char} (h : Text.isAsciiWord c = true) : isBlank c = false :=
  not_isBlank_of (by decide) h

lemma solid_takeWhile {p : Char → Bool} (hp : ∀ c, p c = true → isBlank c = false) {first : Char}
    (hfirst : isBlank first = false) (rest : Text) : Solid (first :: rest.takeWhile p) := by
  refine solid_of_forall (by simp) fun c hc => ?_
  rcases List.mem_cons.1 hc with rfl | hc
  · exact hfirst
  · exact hp c (List.mem_takeWhile_imp hc)

/-- A token that starts with a dollar sign is solid if the delimiters of the open bodies are. -/
lemma solid_dollarToken {s : Surroundings} (hs : ∀ tag ∈ s.openTags, Solid tag) {rest : Text}
    {kind : TokenKind} {n : Nat} (h : dollarToken s rest = (kind, n)) (hkind : kind ≠ .error) :
    Solid ('$' :: rest.take n) := by
  unfold dollarToken at h
  split at h
  · next tag htag =>
    obtain ⟨rfl, rfl⟩ := Prod.mk.inj h
    obtain ⟨tag', hhead, hmap⟩ := Option.bind_eq_some_iff.1 htag
    obtain ⟨after, hprefix, rfl⟩ := Option.map_eq_some_iff.1 hmap
    have hsolid := hs tag' (List.mem_of_head? hhead)
    have hrest := List.isPrefixOf?_eq_some_iff_append_eq.1 hprefix
    cases tag' with
    | nil => exact absurd rfl hsolid.ne_nil
    | cons c tag =>
      obtain ⟨rfl, rfl⟩ := List.cons.inj hrest
      simpa using hsolid
  split at h
  · split at h
    · obtain ⟨rfl, rfl⟩ := Prod.mk.inj h
      rw [take_spanLength]
      exact solid_takeWhile (fun _ => not_isBlank_of_isAsciiWord) (by decide) rest
    · exact absurd (Prod.mk.inj h).1.symm hkind
  · next tag htag =>
    obtain ⟨hopening, hsolid⟩ := dollarTag?_eq_some htag
    split at h
    · exact absurd (Prod.mk.inj h).1.symm hkind
    · next quoted after hcut =>
      dsimp only at h
      split at h
      · obtain ⟨rfl, rfl⟩ := Prod.mk.inj h
        rwa [hopening]
      · obtain ⟨rfl, rfl⟩ := Prod.mk.inj h
        have hafter := cutAround_eq_some hcut
        have hlast : (quoted ++ tag ++ after).take (quoted.length + tag.length) = quoted ++ tag := by
          rw [← List.length_append, List.take_left]
        rw [Nat.add_assoc, List.take_add, hafter, hlast, ← List.cons_append, ← List.append_assoc]
        exact hsolid.append _

/-! ### Tokens without blanks -/

lemma not_isBlank_of_isDigit {c : Char} (h : c.isDigit = true) : isBlank c = false :=
  not_isBlank_of (by decide) h

lemma not_isBlank_of_mem_digits {c : Char} {t : Text} (h : c ∈ t.take (spanLength Char.isDigit t)) :
    isBlank c = false := by
  rw [take_spanLength] at h
  exact not_isBlank_of_isDigit (List.mem_takeWhile_imp h)

lemma not_isBlank_of_mem_fraction {c : Char} {t : Text} (h : c ∈ t.take (fractionLength t)) :
    isBlank c = false := by
  unfold fractionLength at h
  split at h
  · next rest =>
    split at h
    · simp at h
    · rw [Nat.add_comm, List.take_succ_cons] at h
      rcases List.mem_cons.1 h with rfl | h
      · decide
      · exact not_isBlank_of_mem_digits h
  · simp at h

lemma not_isBlank_of_mem_exponent {c : Char} {t : Text} (h : c ∈ t.take (exponentLength t)) :
    isBlank c = false := by
  unfold exponentLength at h
  split at h
  · next e rest =>
    split at h
    · next he =>
      have he : isBlank e = false := by rcases he with rfl | rfl <;> decide
      split at h
      · next d more =>
        split at h
        · rw [Nat.add_comm, List.take_succ_cons] at h
          rcases List.mem_cons.1 h with rfl | h
          · exact he
          · exact not_isBlank_of_mem_digits h
        split at h
        · next hsign =>
          have hsign : isBlank d = false := by rcases hsign.1 with rfl | rfl <;> decide
          rw [Nat.add_comm, List.take_succ_cons, List.take_succ_cons] at h
          rcases List.mem_cons.1 h with rfl | h
          · exact he
          rcases List.mem_cons.1 h with rfl | h
          · exact hsign
          · exact not_isBlank_of_mem_digits h
        · simp at h
      · simp at h
    · simp at h
  · simp at h

lemma solid_numberToken {first : Char} (hfirst : isBlank first = false) {rest : Text}
    {kind : TokenKind} {n : Nat} (h : numberToken first rest = (kind, n)) :
    Solid (first :: rest.take n) := by
  unfold numberToken at h
  obtain ⟨-, rfl⟩ := Prod.mk.inj h
  refine solid_of_forall (by simp) fun c hc => ?_
  rcases List.mem_cons.1 hc with rfl | hc
  · exact hfirst
  rw [List.take_add, List.take_add, List.mem_append, List.mem_append] at hc
  obtain (hc | hc) | hc := hc
  · rw [take_spanLength] at hc
    exact not_isBlank_of (by decide) (List.mem_takeWhile_imp hc)
  · split at hc
    · simp at hc
    · exact not_isBlank_of_mem_fraction hc
  · exact not_isBlank_of_mem_exponent hc

lemma not_isBlank_of_isIdentContinue {c : Char} (h : isIdentContinue c = true) : isBlank c = false := by
  simp only [isIdentContinue, Bool.or_eq_true, beq_iff_eq] at h
  obtain (h | rfl) | rfl := h
  · exact Text.not_isBlank_of_isAlphanumeric h
  · decide
  · decide

lemma not_isBlank_of_isIdentStart {c : Char} (h : isIdentStart c = true) : isBlank c = false := by
  refine not_isBlank_of_isIdentContinue ?_
  simp only [isIdentStart, Bool.or_eq_true] at h
  simp only [isIdentContinue, Text.isAlphanumeric, Bool.or_eq_true]
  exact h.elim (fun h => .inl (.inl (.inl h))) fun h => .inl (.inr h)

lemma not_isBlank_of_isOperatorChar {c : Char} (h : isOperatorChar c = true) : isBlank c = false :=
  not_isBlank_of (by decide) h

lemma operatorTail_isPrefix (t : Text) : operatorTail t <+: t := by
  induction t with
  | nil => exact List.nil_prefix
  | cons c rest ih =>
    rw [operatorTail]
    split_ifs
    · exact List.nil_prefix
    · exact List.nil_prefix
    · exact List.nil_prefix
    · exact (List.prefix_cons_inj c).2 ih

lemma isOperatorChar_of_mem_operatorTail {c : Char} {t : Text} (h : c ∈ operatorTail t) :
    isOperatorChar c = true := by
  induction t with
  | nil => simp [operatorTail] at h
  | cons d rest ih =>
    rw [operatorTail] at h
    split_ifs at h with hd
    · simp at h
    · simp at h
    · simp at h
    · rcases List.mem_cons.1 h with rfl | h
      · simpa using hd
      · exact ih h

lemma operatorLength_le (first : Char) (rest : Text) :
    operatorLength first rest ≤ (operatorTail rest).length := by
  unfold operatorLength
  dsimp only
  split
  · exact Nat.le_refl _
  · exact (List.rdropWhile_prefix _ _).length_le

lemma isOperatorChar_of_mem_operator {first c : Char} {rest : Text}
    (h : c ∈ rest.take (operatorLength first rest)) : isOperatorChar c = true := by
  have hle := operatorLength_le first rest
  have htail : rest.take (operatorLength first rest)
      = (operatorTail rest).take (operatorLength first rest) := by
    obtain ⟨more, hmore⟩ := operatorTail_isPrefix rest
    generalize operatorLength first rest = n at hle ⊢
    conv_lhs => rw [← hmore]
    exact List.take_append_of_le_length hle
  rw [htail] at h
  exact isOperatorChar_of_mem_operatorTail (List.mem_of_mem_take h)

lemma not_isBlank_punctuation {c : Char} (h : punctuation c ≠ .error) : isBlank c = false := by
  unfold punctuation at h
  split at h
  all_goals first | decide | exact absurd rfl h

lemma solid_symbolToken {first : Char} {rest : Text} {kind : TokenKind} {n : Nat}
    (h : symbolToken first rest = (kind, n)) (hkind : kind ≠ .error) :
    Solid (first :: rest.take n) := by
  unfold symbolToken at h
  have pair {second : Char} (hfirst : first = ':') (hsecond : rest.head? = some second)
      (hblank : isBlank second = false) : Solid (first :: rest.take 1) := by
    cases rest with
    | nil => simp at hsecond
    | cons c rest =>
      obtain rfl : c = second := by simpa using hsecond
      exact ⟨[first], c, rfl, hblank⟩
  split_ifs at h with hcast hassign hoperator
  · obtain ⟨-, rfl⟩ := Prod.mk.inj h
    exact pair hcast.1 hcast.2 (by decide)
  · obtain ⟨-, rfl⟩ := Prod.mk.inj h
    exact pair hassign.1 hassign.2 (by decide)
  · obtain ⟨-, rfl⟩ := Prod.mk.inj h
    refine solid_of_forall (by simp) fun c hc => not_isBlank_of_isOperatorChar ?_
    rcases List.mem_cons.1 hc with rfl | hc
    · exact hoperator
    · exact isOperatorChar_of_mem_operator hc
  · obtain ⟨rfl, rfl⟩ := Prod.mk.inj h
    exact Text.solid_singleton (not_isBlank_punctuation hkind)

/-! ### All tokens -/

/-- The token at the front of a text is solid, unless it is trivia or an error. -/
lemma solid_front {s : Surroundings} (hs : ∀ tag ∈ s.openTags, Solid tag) (first : Char) (rest : Text) :
    (front s first rest).1.isTrivia = false → (front s first rest).1 ≠ .error →
      Solid (first :: rest.take (front s first rest).2) := by
  refine TokenStream.front_elim (P := fun token => token.1.isTrivia = false → token.1 ≠ .error →
    Solid (first :: rest.take token.2)) s first rest nofun nofun nofun nofun (fun _ h => absurd rfl h)
    (fun _ _ hkind => ?_) (fun _ _ hkind => ?_) (fun _ _ hkind => ?_) (fun hfirst _ hkind => ?_)
    (fun hfirst _ _ => ?_) (fun hfirst _ _ => ?_) fun _ hkind => ?_
  · exact solid_quotedToken (by decide) rfl hkind first
  · exact solid_quotedToken (by decide) rfl hkind first
  · exact solid_quotedToken (by decide) rfl hkind first
  · subst hfirst
    exact solid_dollarToken hs rfl hkind
  · refine solid_numberToken ?_ rfl
    rcases hfirst with hdigit | rfl
    · exact not_isBlank_of_isDigit hdigit
    · decide
  · rw [show rest.take (rest.takeWhile isIdentContinue).length = _ from take_spanLength _ _]
    exact solid_takeWhile (fun _ => not_isBlank_of_isIdentContinue)
      (not_isBlank_of_isIdentStart hfirst) rest
  · exact solid_symbolToken rfl hkind

lemma openTags_advance (s : Surroundings) (x : Lexeme) : (s.advance x).openTags
    = match x.kind with
      | .bodyOpen => x.text :: s.openTags
      | .bodyClose => s.openTags.tail
      | _ => s.openTags := by
  unfold Surroundings.advance
  split_ifs <;> rfl

/-- The delimiters of the open bodies stay solid. -/
lemma solid_openTags_advance {s : Surroundings} (hs : ∀ tag ∈ s.openTags, Solid tag) {x : Lexeme}
    (hx : x.kind = .bodyOpen → Solid x.text) : ∀ tag ∈ (s.advance x).openTags, Solid tag := by
  intro tag htag
  rw [openTags_advance] at htag
  split at htag
  · next hkind =>
    rcases List.mem_cons.1 htag with rfl | htag
    · exact hx hkind
    · exact hs tag htag
  · exact hs tag (List.mem_of_mem_tail htag)
  · exact hs tag htag

/-- Every token of a text is solid, unless it is trivia or an error. -/
theorem solid_of_mem_scan {s : Surroundings} (hs : ∀ tag ∈ s.openTags, Solid tag) {t : Text}
    {x : Lexeme} (h : x ∈ scan s t) (htrivia : x.kind.isTrivia = false) (hkind : x.kind ≠ .error) :
    Solid x.text := by
  fun_induction scan s t with
  | case1 => simp at h
  | case2 s first rest kind n hfront lexeme ih =>
    have hsolid := solid_front hs first rest
    rw [hfront] at hsolid
    rcases List.mem_cons.1 h with rfl | h
    · exact hsolid htrivia hkind
    · refine ih (solid_openTags_advance hs fun hopen => ?_) h
      have hopen : kind = .bodyOpen := hopen
      exact hsolid (by rw [hopen]; rfl) (by rw [hopen]; simp)

lemma not_isBlank_symbolToken {first : Char} {rest : Text} {kind : TokenKind} {n : Nat}
    (h : symbolToken first rest = (kind, n)) (hkind : kind ≠ .error) : isBlank first = false := by
  unfold symbolToken at h
  split_ifs at h with hcast hassign hoperator
  · rw [hcast.1]
    decide
  · rw [hassign.1]
    decide
  · exact not_isBlank_of_isOperatorChar hoperator
  · obtain ⟨rfl, -⟩ := Prod.mk.inj h
    exact not_isBlank_punctuation hkind

/-- A token that is neither whitespace nor an error does not start with a blank. -/
lemma not_isBlank_front (s : Surroundings) (first : Char) (rest : Text) :
    (front s first rest).1.isWhitespace = false → (front s first rest).1 ≠ .error →
      isBlank first = false := by
  refine TokenStream.front_elim (P := fun token => token.1.isWhitespace = false → token.1 ≠ .error →
    isBlank first = false) s first rest nofun nofun (fun hfirst _ _ => ?_) (fun _ hfirst _ _ _ _ => ?_)
    (fun _ h => absurd rfl h) (fun hfirst _ _ => ?_) (fun hfirst _ _ => ?_) (fun hfirst _ _ => ?_)
    (fun hfirst _ _ => ?_) (fun hfirst _ _ => ?_) (fun hfirst _ _ => ?_) fun _ hkind => ?_
  · rw [hfirst]
    decide
  · rw [hfirst]
    decide
  · rw [hfirst]
    decide
  · rw [hfirst]
    decide
  · exact not_isBlank_of (by decide) hfirst
  · rw [hfirst]
    decide
  · rcases hfirst with hdigit | rfl
    · exact not_isBlank_of_isDigit hdigit
    · decide
  · exact not_isBlank_of_isIdentStart hfirst
  · exact not_isBlank_symbolToken rfl hkind

/-- A token that is neither whitespace nor an error is not made of blanks. -/
theorem solid_trimEnd_of_mem_scan {s : Surroundings} {t : Text} {x : Lexeme} (h : x ∈ scan s t)
    (hspace : x.kind.isWhitespace = false) (hkind : x.kind ≠ .error) : Solid (Text.trimEnd x.text) := by
  fun_induction scan s t with
  | case1 => simp at h
  | case2 s first rest kind n hfront lexeme ih =>
    rcases List.mem_cons.1 h with rfl | h
    · have hfirst := not_isBlank_front s first rest
      rw [hfront] at hfirst
      refine (Text.trimEnd_eq_nil_or_solid _).resolve_left fun hnil => ?_
      have hblank := List.rdropWhile_eq_nil_iff.1 hnil first (by simp [lexeme])
      rw [hfirst hspace hkind] at hblank
      exact absurd hblank (by simp)
    · exact ih h

end Lexeme

namespace TokenStream

variable {source : Text} {i : Nat}

/-- A significant token of a source is solid, unless it is an error. -/
lemma solid_text (h : i < (ofText source).lastIndex)
    (htrivia : ((ofText source).kind i).isTrivia = false) (hkind : (ofText source).kind i ≠ .error) :
    Text.Solid ((ofText source).text i) :=
  Lexeme.solid_of_mem_scan (by simp) (mem_scan_ofText h) htrivia hkind

/-- What is left of a comment without the blanks at its end is solid. -/
lemma solid_trimEnd_text (h : i < (ofText source).lastIndex)
    (hcomment : ((ofText source).kind i).isComment = true) :
    Text.Solid (Text.trimEnd ((ofText source).text i)) := by
  refine Lexeme.solid_trimEnd_of_mem_scan (mem_scan_ofText h) ?_ ?_
  · show ((ofText source).kind i).isWhitespace = false
    generalize (ofText source).kind i = kind at hcomment
    cases kind <;> first | rfl | exact absurd hcomment (by simp [TokenKind.isComment])
  · show (ofText source).kind i ≠ .error
    intro herror
    rw [herror] at hcomment
    exact absurd hcomment (by decide)

end TokenStream
end SqlLayout
