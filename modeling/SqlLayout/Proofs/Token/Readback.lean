import SqlLayout.Proofs.Token.Languages

/-!
# Tokens read back

The text of a significant token is read as the same token again when nothing or a space follows it,
whatever stood behind it in its source: quoted tokens end at their closing quote, and what ends other
tokens ends before a space as well.
-/

namespace SqlLayout
namespace Lexeme

/-- Whether a text does not start with a character that satisfies `p`. -/
def Stops (p : Char → Bool) (t : Text) : Prop :=
  ∀ c, t.head? = some c → p c = false

/-- Nothing, or a text that starts with a space. -/
def Spaced (t : Text) : Prop :=
  Stops (· != ' ') t

section

variable {p : Char → Bool} {t after : Text}

lemma Spaced.stops (h : Spaced after) (hp : p ' ' = false) : Stops p after := by
  intro c hc
  have hspace : c = ' ' := by simpa using h c hc
  rw [hspace, hp]

lemma stops_nil : Stops p [] := nofun

lemma stops_cons {c : Char} (h : p c = false) : Stops p (c :: t) := by
  intro d hd
  rw [← Option.some.inj hd, h]

lemma stops_drop_spanLength (p : Char → Bool) (t : Text) : Stops p (t.drop (spanLength p t)) := by
  induction t with
  | nil => exact stops_nil
  | cons c t ih =>
    cases hc : p c with
    | false => simpa [spanLength, hc] using stops_cons hc
    | true => simpa [spanLength, hc] using ih

/-- What starts a part of a text, or what follows the part if it is empty. -/
lemma Stops.take_append {n : Nat} (h : 0 < n → Stops p t) (hafter : Stops p after) :
    Stops p (t.take n ++ after) := by
  cases n with
  | zero => exact hafter
  | succ n =>
    cases t with
    | nil => simpa using hafter
    | cons c t => exact stops_cons (h (Nat.succ_pos n) c rfl)

/-! ### Runs of characters -/

lemma spanLength_eq_zero (h : Stops p t) : spanLength p t = 0 := by
  cases t with
  | nil => rfl
  | cons c t => simp [spanLength, h c rfl]

lemma spanLength_take_append (h : Stops p after) (t : Text) :
    spanLength p (t.take (spanLength p t) ++ after) = spanLength p t := by
  induction t with
  | nil => exact spanLength_eq_zero h
  | cons c t ih =>
    cases hc : p c with
    | false => simpa [spanLength, hc] using spanLength_eq_zero h
    | true => simpa [spanLength, hc] using ih

lemma takeWhile_take_append (h : Stops p after) (t : Text) :
    (t.take (t.takeWhile p).length ++ after).takeWhile p = t.takeWhile p := by
  induction t with
  | nil =>
    cases after with
    | nil => rfl
    | cons c after => simp [h c rfl]
  | cons c t ih =>
    cases hc : p c with
    | false =>
      cases after with
      | nil => simp [hc]
      | cons d after => simp [hc, h d rfl]
    | true => simpa [hc] using ih

/-! ### Numbers -/

lemma fractionLength_eq_zero (h : Stops (· == '.') t) : fractionLength t = 0 := by
  unfold fractionLength
  split
  · exact absurd (h '.' rfl) (by decide)
  · rfl

lemma fractionLength_take_append (h : Stops (fun c => c.isDigit || c == '.') after) (t : Text) :
    fractionLength (t.take (fractionLength t) ++ after) = fractionLength t := by
  have hdigit : Stops Char.isDigit after := fun c hc => (Bool.or_eq_false_iff.1 (h c hc)).1
  have hpoint : Stops (· == '.') after := fun c hc => (Bool.or_eq_false_iff.1 (h c hc)).2
  cases hn : fractionLength t with
  | zero => exact fractionLength_eq_zero hpoint
  | succ n =>
    unfold fractionLength at hn
    split at hn
    · next rest =>
      split at hn
      · exact absurd hn nofun
      · next hdots =>
        have hlength : spanLength Char.isDigit rest = n := by omega
        have hnext : Stops (· == '.') (rest.take n ++ after) := by
          apply Stops.take_append _ hpoint
          intro _ c hc
          by_contra hc'
          rw [Bool.not_eq_false, beq_iff_eq] at hc'
          exact hdots (hc' ▸ hc)
        rw [List.take_succ_cons, List.cons_append, fractionLength, if_neg, ← hlength,
          spanLength_take_append hdigit, Nat.add_comm]
        intro hhead
        exact absurd (hnext '.' hhead) (by decide)
    · exact absurd hn nofun

lemma exponentLength_eq_zero (h : Stops (fun c => c == 'e' || c == 'E') t) : exponentLength t = 0 := by
  unfold exponentLength
  split
  · next c rest =>
    rw [if_neg]
    intro hc
    have := h c rfl
    rcases hc with rfl | rfl <;> exact absurd this (by decide)
  · rfl

/-- An exponent starts with its letter. -/
lemma stops_of_exponentLength (h : 0 < exponentLength t)
    (hp : p 'e' = false ∧ p 'E' = false) : Stops p t := by
  unfold exponentLength at h
  split at h
  · next c rest =>
    split at h
    · next hc =>
      rcases hc with rfl | rfl
      · exact stops_cons hp.1
      · exact stops_cons hp.2
    · exact absurd h (Nat.lt_irrefl 0)
  · exact stops_nil

lemma exponentLength_take_append (h : Spaced after) (t : Text) :
    exponentLength (t.take (exponentLength t) ++ after) = exponentLength t := by
  have hdigit : Stops Char.isDigit after := h.stops (by decide)
  cases hn : exponentLength t with
  | zero => exact exponentLength_eq_zero (h.stops (by decide))
  | succ n =>
    unfold exponentLength at hn
    split at hn
    · next e rest =>
      split_ifs at hn with he
      split at hn
      · next c more =>
        split_ifs at hn with hc hsign
        · -- The digits follow the letter.
          have hlength : spanLength Char.isDigit (c :: more) = n := by omega
          have hspan := spanLength_take_append hdigit (c :: more)
          rw [hlength] at hspan
          cases n with
          | zero => simp [spanLength, hc] at hlength
          | succ n =>
            rw [List.take_succ_cons, List.cons_append] at hspan
            rw [List.take_succ_cons, List.take_succ_cons, List.cons_append, List.cons_append,
              exponentLength, if_pos he, if_pos hc, hspan, Nat.add_comm]
        · -- A sign stands between the letter and the digits.
          have hlength : spanLength Char.isDigit more + 1 = n := by omega
          have hspan := spanLength_take_append hdigit more
          cases n with
          | zero => exact absurd hlength (Nat.succ_ne_zero _)
          | succ n =>
            obtain rfl : spanLength Char.isDigit more = n := Nat.succ.inj hlength
            have hhead : (more.take (spanLength Char.isDigit more) ++ after).head?.any Char.isDigit := by
              cases more with
              | nil => exact absurd hsign.2 nofun
              | cons d more =>
                have hd : d.isDigit = true := hsign.2
                simp [spanLength, hd]
            rw [List.take_succ_cons, List.take_succ_cons, List.cons_append, List.cons_append,
              exponentLength, if_pos he, if_neg hc, if_pos ⟨hsign.1, hhead⟩, hspan, Nat.add_comm]
      · exact absurd hn nofun
    · exact absurd hn nofun

/-- A number ends before a space. -/
lemma numberToken_take_append (h : Spaced after) (first : Char) (rest : Text) :
    numberToken first (rest.take (numberToken first rest).2 ++ after) = numberToken first rest := by
  -- The three parts of the number, each of which ends where the next one starts.
  let whole := spanLength isNumberChar rest
  let fraction := if first = '.' then 0 else fractionLength (rest.drop whole)
  let exponent := exponentLength (rest.drop (whole + fraction))
  let tail := (rest.drop (whole + fraction)).take exponent ++ after
  have htail {p : Char → Bool} (hp : p 'e' = false ∧ p 'E' = false) (hspace : p ' ' = false) :
      Stops p tail :=
    Stops.take_append (fun hpos => stops_of_exponentLength hpos hp) (h.stops hspace)
  have htext : rest.take (whole + fraction + exponent) ++ after
      = rest.take whole ++ ((rest.drop whole).take fraction ++ tail) := by
    rw [List.take_add, List.take_add, List.append_assoc, List.append_assoc]
  have hwhole : spanLength isNumberChar (rest.take whole ++ ((rest.drop whole).take fraction ++ tail))
      = whole := by
    apply spanLength_take_append
    exact Stops.take_append (fun _ => stops_drop_spanLength _ _) (htail (by decide) (by decide))
  have hdrop : (rest.take whole ++ ((rest.drop whole).take fraction ++ tail)).drop whole
      = (rest.drop whole).take fraction ++ tail :=
    List.drop_left' (List.length_take_of_le (spanLength_le _ _))
  have hfraction : (if first = '.' then 0 else
      fractionLength ((rest.drop whole).take fraction ++ tail)) = fraction := by
    by_cases hpoint : first = '.'
    · simp only [fraction, if_pos hpoint]
    · simp only [fraction, if_neg hpoint]
      exact fractionLength_take_append (htail (by decide) (by decide)) _
  have hdrop' : ((rest.drop whole).take fraction ++ tail).drop fraction = tail := by
    apply List.drop_left' (List.length_take_of_le _)
    by_cases hpoint : first = '.'
    · simp only [fraction, if_pos hpoint, Nat.zero_le]
    · simp only [fraction, if_neg hpoint]
      exact fractionLength_le _
  have hexponent : exponentLength tail = exponent := exponentLength_take_append h _
  show numberToken first (rest.take (whole + fraction + exponent) ++ after) = _
  rw [htext]
  unfold numberToken
  simp only [hwhole, hdrop, hfraction, ← List.drop_drop, hdrop', hexponent]
  rw [List.drop_drop]

lemma numberToken_pos {first d : Char} {rest : Text} (hd : rest.head? = some d)
    (hdigit : d.isDigit = true) : 0 < (numberToken first rest).2 := by
  obtain ⟨more, rfl⟩ := List.head?_eq_some_iff.1 hd
  have hspan : 0 < spanLength isNumberChar (d :: more) := by
    simp [spanLength, isNumberChar, hdigit]
  exact Nat.add_pos_left (Nat.add_pos_left hspan _) _

/-! ### Operators -/

lemma operatorTail_of_prefix {u : Text} (hu : u <+: operatorTail t) (h : Spaced after) :
    operatorTail (u ++ after) = u := by
  induction u generalizing t with
  | nil =>
    cases after with
    | nil => rfl
    | cons c after =>
      have hc : isOperatorChar c = false := h.stops (by decide) c rfl
      rw [List.nil_append, operatorTail, hc]
      rfl
  | cons c u ih =>
    cases t with
    | nil => exact absurd hu.length_le (Nat.not_succ_le_zero _)
    | cons d t =>
      rw [operatorTail] at hu
      split_ifs at hu with hop hline hblock
      · exact absurd hu.length_le (Nat.not_succ_le_zero _)
      · exact absurd hu.length_le (Nat.not_succ_le_zero _)
      · exact absurd hu.length_le (Nat.not_succ_le_zero _)
      · obtain ⟨rfl, htail⟩ := List.cons_prefix_cons.1 hu
        -- What follows the character in the operator follows it in the text.
        have hnext {e : Char} (he : e ≠ ' ') (hhead : (u ++ after).head? = some e) :
            t.head? = some e := by
          cases u with
          | nil => exact absurd (by simpa using h e hhead) he
          | cons f u =>
            obtain rfl : f = e := Option.some.inj hhead
            obtain ⟨more, hmore⟩ := htail.trans (operatorTail_isPrefix t)
            rw [← hmore]
            rfl
        rw [List.cons_append, operatorTail, if_neg hop, if_neg, if_neg, ih htail]
        · exact fun hc => hblock ⟨hc.1, hnext (by decide) hc.2⟩
        · exact fun hc => hline ⟨hc.1, hnext (by decide) hc.2⟩

lemma operatorLength_take_append (h : Spaced after) (first : Char) (rest : Text) :
    operatorLength first (rest.take (operatorLength first rest) ++ after)
      = operatorLength first rest := by
  let isSign : Char → Bool := fun c => c == '+' || c == '-'
  have htail : rest.take (operatorTail rest).length = operatorTail rest :=
    (List.prefix_iff_eq_take.1 (operatorTail_isPrefix rest)).symm
  by_cases hfree : (first :: operatorTail rest).any freesTrailingSign = true
  · have hlength : operatorLength first rest = (operatorTail rest).length := by
      rw [operatorLength, if_pos hfree]
    rw [hlength, htail, operatorLength, operatorTail_of_prefix (List.prefix_refl _) h, if_pos hfree]
  · have hstarts : Text.dropEndWhile isSign (operatorTail rest) <+: operatorTail rest :=
      List.rdropWhile_prefix _ _
    have hlength : operatorLength first rest
        = (Text.dropEndWhile isSign (operatorTail rest)).length := by
      rw [operatorLength, if_neg hfree]
    have hcut : rest.take (Text.dropEndWhile isSign (operatorTail rest)).length
        = Text.dropEndWhile isSign (operatorTail rest) :=
      (List.prefix_iff_eq_take.1 (hstarts.trans (operatorTail_isPrefix rest))).symm
    have hfree' : ¬ (first :: Text.dropEndWhile isSign (operatorTail rest)).any freesTrailingSign := by
      intro hany
      obtain ⟨c, hc, hfrees⟩ := List.any_eq_true.1 hany
      apply hfree
      apply List.any_eq_true.2 ⟨c, _, hfrees⟩
      exact ((List.prefix_cons_inj first).2 hstarts).subset hc
    rw [hlength, hcut, operatorLength, operatorTail_of_prefix hstarts h, if_neg hfree']
    exact congrArg List.length (List.rdropWhile_idempotent isSign _)

/-- A character other than a space that follows the first one of a token follows it in the source. -/
lemma head?_of_take_append (h : Spaced after) {n : Nat} {rest : Text} {c : Char} (hc : c ≠ ' ')
    (hhead : (rest.take n ++ after).head? = some c) : rest.head? = some c := by
  by_contra hne
  have hstops : Stops (· == c) (rest.take n ++ after) := by
    apply Stops.take_append _ (h.stops (by simpa using hc.symm))
    intro _ d hd
    by_contra hd'
    rw [Bool.not_eq_false, beq_iff_eq] at hd'
    exact hne (hd' ▸ hd)
  simpa using hstops c hhead

lemma head?_take_append {n : Nat} (hn : 0 < n) {rest : Text} {c : Char} (hc : rest.head? = some c) :
    (rest.take n ++ after).head? = some c := by
  obtain ⟨m, rfl⟩ := Nat.exists_eq_succ_of_ne_zero (Nat.ne_of_gt hn)
  cases rest with
  | nil => exact absurd hc nofun
  | cons d rest => exact hc

lemma symbolToken_take_append (h : Spaced after) (first : Char) (rest : Text) :
    symbolToken first (rest.take (symbolToken first rest).2 ++ after) = symbolToken first rest := by
  by_cases hcast : first = ':' ∧ rest.head? = some ':'
  · rw [show symbolToken first rest = (.doubleColon, 1) from if_pos hcast, symbolToken,
      if_pos ⟨hcast.1, head?_take_append Nat.one_pos hcast.2⟩]
  by_cases hassign : first = ':' ∧ rest.head? = some '='
  · have hne : ¬ (first = ':' ∧ (rest.take 1 ++ after).head? = some ':') := fun hcast' =>
      hcast ⟨hcast'.1, head?_of_take_append h (by decide) hcast'.2⟩
    rw [show symbolToken first rest = (.colonEq, 1) from (if_neg hcast).trans (if_pos hassign),
      symbolToken, if_neg hne, if_pos ⟨hassign.1, head?_take_append Nat.one_pos hassign.2⟩]
  have hsymbol (t : Text) (hcast : ¬ (first = ':' ∧ t.head? = some ':'))
      (hassign : ¬ (first = ':' ∧ t.head? = some '=')) : symbolToken first t
        = if isOperatorChar first then (.operator, operatorLength first t)
          else (punctuation first, 0) := by
    rw [symbolToken, if_neg hcast, if_neg hassign]
  rw [hsymbol rest hcast hassign, hsymbol]
  · split_ifs with hoperator
    · exact congrArg (Prod.mk _) (operatorLength_take_append h first rest)
    · rfl
  · exact fun hcast' => hcast ⟨hcast'.1, head?_of_take_append h (by decide) hcast'.2⟩
  · exact fun hassign' => hassign ⟨hassign'.1, head?_of_take_append h (by decide) hassign'.2⟩

/-! ### Quoted tokens -/

lemma quotedLength?_take_append {quote : Char} (h : Stops (· == quote) after) {t : Text} {n : Nat}
    (hn : quotedLength? quote t = some n) : quotedLength? quote (t.take n ++ after) = some n := by
  -- After a doubled quote and after a backslash two characters are skipped.
  induction hlen : t.length using Nat.strong_induction_on generalizing t n with
  | _ length ih =>
    cases t with
    | nil => exact absurd (show none = some n from hn) nofun
    | cons c rest =>
      rw [List.length_cons] at hlen
      rw [quotedLength?_cons] at hn
      split_ifs at hn with hc hbackslash
      · cases rest with
        | nil =>
          obtain rfl := Option.some.inj hn
          rw [List.take_succ_cons, List.take_nil, List.cons_append, List.nil_append, quotedLength?_cons,
            if_pos hc]
          cases after with
          | nil => rfl
          | cons d after => exact if_neg (by simpa using h d rfl)
        | cons d more =>
          rw [List.length_cons] at hlen
          dsimp only at hn
          split_ifs at hn with hd
          · obtain ⟨m, hm, rfl⟩ := Option.map_eq_some_iff.1 hn
            have hmore := ih more.length (by omega) hm rfl
            rw [List.take_succ_cons, List.take_succ_cons, List.cons_append, List.cons_append,
              quotedLength?_cons, if_pos hc]
            dsimp only
            rw [if_pos hd, hmore]
            rfl
          · obtain rfl := Option.some.inj hn
            rw [List.take_succ_cons, List.take_zero, List.cons_append, List.nil_append,
              quotedLength?_cons, if_pos hc]
            cases after with
            | nil => rfl
            | cons d after => exact if_neg (by simpa using h d rfl)
      · cases rest with
        | nil => exact absurd hn nofun
        | cons d more =>
          rw [List.length_cons] at hlen
          obtain ⟨m, hm, rfl⟩ := Option.map_eq_some_iff.1 hn
          have hmore := ih more.length (by omega) hm rfl
          rw [List.take_succ_cons, List.take_succ_cons, List.cons_append, List.cons_append,
            quotedLength?_cons, if_neg hc, if_pos hbackslash]
          dsimp only
          rw [hmore]
          rfl
      · obtain ⟨m, hm, rfl⟩ := Option.map_eq_some_iff.1 hn
        have hrest := ih rest.length (by omega) hm rfl
        rw [List.take_succ_cons, List.cons_append, quotedLength?_cons, if_neg hc, if_neg hbackslash,
          hrest]
        rfl

/-- A quoted token ends at its closing quote. -/
lemma quotedToken_take_append {kind : TokenKind} {quote : Char} {skipped : Nat} {rest : Text}
    (h : Stops (· == quote) after) (hkind : (quotedToken kind quote skipped rest).1 ≠ .error) :
    quotedToken kind quote skipped (rest.take (quotedToken kind quote skipped rest).2 ++ after)
      = quotedToken kind quote skipped rest := by
  cases hn : quotedLength? quote (rest.drop skipped) with
  | none => exact absurd (by rw [quotedToken, hn]) hkind
  | some n =>
    have htoken : quotedToken kind quote skipped rest = (kind, skipped + n) := by rw [quotedToken, hn]
    have hskipped : skipped ≤ rest.length := by
      by_contra hlt
      rw [List.drop_eq_nil_of_le (Nat.le_of_not_le hlt)] at hn
      exact absurd hn nofun
    have hdrop : (rest.take (skipped + n) ++ after).drop skipped
        = (rest.drop skipped).take n ++ after := by
      rw [List.take_add, List.append_assoc, List.drop_left' (List.length_take_of_le hskipped)]
    rw [htoken]
    unfold quotedToken
    rw [hdrop, quotedLength?_take_append h hn]

lemma quotedToken_pos {kind : TokenKind} {quote c : Char} {rest : Text} (hc : rest.head? = some c) :
    0 < (quotedToken kind quote 1 rest).2 := by
  obtain ⟨more, rfl⟩ := List.head?_eq_some_iff.1 hc
  unfold quotedToken
  split
  · exact Nat.add_pos_left Nat.one_pos _
  · exact Nat.succ_pos _

/-! ### Dollar signs -/

/-- A tag and its dollar signs are recognized whatever follows. -/
lemma dollarTag?_of_word {word : Text} (hword : ∀ c ∈ word, Text.isAsciiWord c = true)
    (hfirst : word.head?.any Char.isDigit = false) (more : Text) :
    dollarTag? (word ++ '$' :: more) = some ('$' :: word ++ ['$']) := by
  have htag : (word ++ '$' :: more).takeWhile Text.isAsciiWord = word := by
    rw [List.takeWhile_append_of_pos hword, List.takeWhile_cons_of_neg (by decide), List.append_nil]
  rw [dollarTag?, htag, hfirst, List.drop_left]
  rfl

/-- What a delimiter consists of. -/
lemma exists_word_of_dollarTag? {rest tag : Text} (h : dollarTag? rest = some tag) :
    ∃ word more, (∀ c ∈ word, Text.isAsciiWord c = true) ∧ word.head?.any Char.isDigit = false
      ∧ tag = '$' :: word ++ ['$'] ∧ rest = word ++ '$' :: more := by
  unfold dollarTag? at h
  dsimp only at h
  split_ifs at h with hdigit hdollar
  obtain ⟨more, hmore⟩ := List.head?_eq_some_iff.1 hdollar
  refine ⟨rest.takeWhile Text.isAsciiWord, more, fun c hc => List.mem_takeWhile_imp hc,
    Bool.eq_false_iff.2 hdigit, (Option.some.inj h).symm, ?_⟩
  have hrest := List.take_append_drop (rest.takeWhile Text.isAsciiWord).length rest
  rw [hmore, show rest.take (rest.takeWhile Text.isAsciiWord).length = _ from take_spanLength _ _]
    at hrest
  exact hrest.symm

/-- What stands behind a mark does not matter to where it occurs first. -/
lemma cutAround_append {mark t before behind : Text}
    (h : Text.cutAround mark t = some (before, behind)) (after : Text) :
    Text.cutAround mark (before ++ mark ++ after) = some (before, after) := by
  induction t generalizing before with
  | nil =>
    rw [Text.cutAround] at h
    split_ifs at h with hmark
    obtain ⟨rfl, -⟩ := Prod.mk.inj (Option.some.inj h)
    obtain rfl := List.isEmpty_iff.1 hmark
    cases after <;> rfl
  | cons c rest ih =>
    have hself : mark.isPrefixOf? (mark ++ after) = some after :=
      List.isPrefixOf?_eq_some_iff_append_eq.2 rfl
    have hhere : Text.cutAround mark (mark ++ after) = some ([], after) := by
      cases hmark : mark ++ after with
      | nil =>
        obtain ⟨rfl, rfl⟩ := List.append_eq_nil_iff.1 hmark
        rfl
      | cons d more =>
        rw [Text.cutAround, ← hmark, hself]
    have hcut := cutAround_eq_some h
    rw [Text.cutAround] at h
    split at h
    · obtain ⟨rfl, -⟩ := Prod.mk.inj (Option.some.inj h)
      exact hhere
    · next hnone =>
      obtain ⟨⟨b, a⟩, hrest, heq⟩ := Option.map_eq_some_iff.1 h
      obtain ⟨rfl, rfl⟩ := Prod.mk.inj heq
      -- A mark at the front lies before what stands behind the first occurrence.
      have hnot : mark.isPrefixOf? (c :: b ++ mark ++ after) = none := by
        cases hmark : mark.isPrefixOf? (c :: b ++ mark ++ after) with
        | none => rfl
        | some more =>
          have hfront : mark <+: c :: b ++ mark ++ after :=
            ⟨more, List.isPrefixOf?_eq_some_iff_append_eq.1 hmark⟩
          have hlength : mark.length ≤ (c :: b ++ mark).length := by
            rw [List.length_append]
            exact Nat.le_add_left _ _
          have hbefore : mark <+: c :: b ++ mark :=
            List.prefix_of_prefix_length_le hfront (List.prefix_append _ after) hlength
          obtain ⟨others, hothers⟩ := hbefore.trans (List.prefix_append _ a)
          rw [hcut, List.isPrefixOf?_eq_some_iff_append_eq.2 hothers] at hnone
          contradiction
      rw [List.cons_append, List.cons_append, Text.cutAround]
      rw [List.cons_append, List.cons_append] at hnot
      rw [hnot, ih hrest]
      rfl

section

variable {s : Surroundings} {rest tag quoted behind : Text}

lemma dollarToken_eq (hs : s.openTags = []) :
    dollarToken s rest = match dollarTag? rest with
      | none =>
        if rest.head?.any Text.isAsciiWord then (.param, spanLength Text.isAsciiWord rest)
        else (.error, 0)
      | some tag =>
        match Text.cutAround tag (rest.drop (tag.length - 1)) with
        | none => (.error, rest.length)
        | some (quoted, behind) =>
          if (s.previous == .keyword .AS || s.previous == .keyword .DO) && s.isCodeLanguage behind then
            (.bodyOpen, tag.length - 1)
          else (.dollarString, tag.length - 1 + quoted.length + tag.length) := by
  rw [dollarToken, hs]
  rfl

lemma dollarToken_of_param (htag : dollarTag? rest = none)
    (hword : rest.head?.any Text.isAsciiWord = true) :
    dollarToken {} rest = (.param, spanLength Text.isAsciiWord rest) := by
  rw [dollarToken_eq rfl, htag]
  exact if_pos hword

lemma dollarToken_of_quoted (htag : dollarTag? rest = some tag)
    (hcut : Text.cutAround tag (rest.drop (tag.length - 1)) = some (quoted, behind)) :
    dollarToken {} rest = (.dollarString, tag.length - 1 + quoted.length + tag.length) := by
  rw [dollarToken_eq rfl, htag]
  dsimp only
  rw [hcut]
  rfl

/-- Outside bodies a dollar sign starts a parameter or a quoted text, if it does not open a body. -/
lemma dollarToken_cases (hs : s.openTags = []) (herror : (dollarToken s rest).1 ≠ .error)
    (hopen : (dollarToken s rest).1 ≠ .bodyOpen) :
    (dollarTag? rest = none ∧ rest.head?.any Text.isAsciiWord = true
      ∧ dollarToken s rest = (.param, spanLength Text.isAsciiWord rest))
    ∨ ∃ tag quoted behind, dollarTag? rest = some tag
      ∧ Text.cutAround tag (rest.drop (tag.length - 1)) = some (quoted, behind)
      ∧ dollarToken s rest = (.dollarString, tag.length - 1 + quoted.length + tag.length) := by
  rw [dollarToken_eq hs] at herror hopen ⊢
  cases htag : dollarTag? rest with
  | none =>
    rw [htag] at herror
    dsimp only at herror ⊢
    split_ifs at herror ⊢ with hword
    · exact .inl ⟨rfl, hword, rfl⟩
    · exact absurd rfl herror
  | some tag =>
    rw [htag] at herror hopen
    dsimp only at herror hopen ⊢
    cases hcut : Text.cutAround tag (rest.drop (tag.length - 1)) with
    | none =>
      rw [hcut] at herror
      exact absurd rfl herror
    | some cut =>
      obtain ⟨quoted, behind⟩ := cut
      rw [hcut] at hopen
      dsimp only at hopen ⊢
      split_ifs at hopen ⊢
      · exact absurd rfl hopen
      · exact .inr ⟨tag, quoted, behind, rfl, hcut, rfl⟩

/-- A parameter ends before a space, and a quoted text with its second delimiter. -/
lemma dollarToken_take_append (h : Spaced after) (hs : s.openTags = [])
    (herror : (dollarToken s rest).1 ≠ .error) (hopen : (dollarToken s rest).1 ≠ .bodyOpen) :
    dollarToken {} (rest.take (dollarToken s rest).2 ++ after) = dollarToken s rest := by
  obtain ⟨htag, hword, htoken⟩ | ⟨tag, quoted, behind, htag, hcut, htoken⟩ :=
    dollarToken_cases hs herror hopen
  · rw [htoken]
    have hspan := spanLength_take_append (h.stops (p := Text.isAsciiWord) (by decide)) rest
    rw [dollarToken_of_param, hspan]
    · cases htag' : dollarTag? (rest.take (spanLength Text.isAsciiWord rest) ++ after) with
      | none => rfl
      | some tag =>
        -- The tag would be the word, and the dollar sign after it what follows the token.
        obtain ⟨word, more, hall, -, -, hrest⟩ := exists_word_of_dollarTag? htag'
        have hlength : spanLength Text.isAsciiWord (word ++ '$' :: more) = word.length := by
          rw [spanLength, List.takeWhile_append_of_pos hall, List.takeWhile_cons_of_neg (by decide),
            List.append_nil]
        rw [hrest, hlength] at hspan
        have hword := List.length_take_of_le (spanLength_le Text.isAsciiWord rest)
        obtain ⟨-, hafter⟩ := List.append_inj hrest (hword.trans hspan.symm)
        rw [hafter] at h
        exact absurd (h '$' rfl) (by decide)
    · cases rest with
      | nil => exact absurd hword nofun
      | cons c rest =>
        have hc : Text.isAsciiWord c = true := hword
        simp [spanLength, hc]
  · obtain ⟨word, more, hall, hfirst, rfl, rfl⟩ := exists_word_of_dollarTag? htag
    have hcutText := cutAround_eq_some hcut
    have hlength : ('$' :: word ++ ['$']).length - 1 = (word ++ ['$']).length := by simp
    have hopening : word ++ '$' :: more = (word ++ ['$']) ++ more := by simp
    rw [hlength, hopening, List.drop_left] at hcutText hcut
    generalize htag : '$' :: word ++ ['$'] = tag at hcut hcutText hlength htoken
    have htake : (word ++ '$' :: more).take (tag.length - 1 + quoted.length + tag.length)
        = (word ++ ['$']) ++ (quoted ++ tag) := by
      rw [hopening, hcutText, ← List.append_assoc]
      apply List.take_left'
      rw [hlength, List.length_append, @List.length_append _ quoted, Nat.add_assoc]
    have htag' : dollarTag? ((word ++ ['$']) ++ (quoted ++ tag ++ after)) = some tag := by
      rw [← htag, List.append_assoc]
      exact dollarTag?_of_word hall hfirst _
    rw [htoken, htake, List.append_assoc]
    apply dollarToken_of_quoted htag'
    rw [hlength, List.drop_left]
    exact cutAround_append hcut after

end

/-! ### All tokens -/

/-- Letters and underscores start nothing but words and marked strings. -/
lemma isIdentStart_ascii {c : Char} (hascii : c.toNat < 128) (h : isIdentStart c = true) :
    isSpacing c = false ∧ c ∉ ['\n', '-', '/', '\'', '"', '$', '.'] ∧ c.isDigit = false := by
  refine Text.of_lt_128 (p := fun c => isIdentStart c = true → isSpacing c = false
    ∧ c ∉ ['\n', '-', '/', '\'', '"', '$', '.'] ∧ c.isDigit = false) ?_ hascii h
  decide +kernel

/-- What is read where a word starts and no quote follows its first character. -/
lemma front_of_word {s : Surroundings} {first : Char} {rest : Text} (hascii : first.toNat < 128)
    (hfirst : isIdentStart first = true) (hquote : rest.head? ≠ some '\'') :
    front s first rest = (TokenKind.ofWord (first :: rest.takeWhile isIdentContinue),
      (rest.takeWhile isIdentContinue).length) := by
  obtain ⟨hspacing, hmarks, hdigit⟩ := isIdentStart_ascii hascii hfirst
  simp only [List.mem_cons, List.not_mem_nil, or_false, not_or] at hmarks
  obtain ⟨hfeed, hsign, hslash, hsingle, hdouble, hdollar, hpoint⟩ := hmarks
  simp [front, hspacing, hfeed, hsign, hslash, hsingle, hdouble, hdollar, hpoint, hdigit, hquote, hfirst]

/--
A significant token is read again when a space or nothing follows it, unless it is an error or a
delimiter of a body.
-/
lemma front_take_append (h : Spaced after) {s : Surroundings} (hs : s.openTags = []) (first : Char)
    (rest : Text) (htrivia : (front s first rest).1.isTrivia = false)
    (herror : (front s first rest).1 ≠ .error) (hopen : (front s first rest).1 ≠ .bodyOpen) :
    front {} first (rest.take (front s first rest).2 ++ after) = front s first rest := by
  generalize hfront : front s first rest = token at htrivia herror hopen ⊢
  have hhead {c : Char} (hc : c ≠ ' ') (hnext : (rest.take token.2 ++ after).head? = some c) :
      rest.head? = some c := head?_of_take_append h hc hnext
  rw [front] at hfront
  split_ifs at hfront with hspacing hfeed hline hblock hsingle hdouble hmarked hdollar hnumber hword
  · subst hfront
    contradiction
  · subst hfront
    contradiction
  · subst hfront
    contradiction
  · split at hfront
    · subst hfront
      contradiction
    · subst hfront
      exact absurd rfl herror
  all_goals
    have hline' : ¬ (first = '-' ∧ (rest.take token.2 ++ after).head? = some '-') := fun hc =>
      hline ⟨hc.1, hhead (by decide) hc.2⟩
    have hblock' : ¬ (first = '/' ∧ (rest.take token.2 ++ after).head? = some '*') := fun hc =>
      hblock ⟨hc.1, hhead (by decide) hc.2⟩
    rw [front, if_neg hspacing, if_neg hfeed, if_neg hline', if_neg hblock']
  · subst hfront
    rw [if_pos hsingle]
    exact quotedToken_take_append (h.stops (by decide)) herror
  · subst hfront
    rw [if_neg hsingle, if_pos hdouble]
    exact quotedToken_take_append (h.stops (by decide)) herror
  · subst hfront
    have hquote : (rest.take (quotedToken .string '\'' 1 rest).2 ++ after).head? = some '\'' :=
      head?_take_append (quotedToken_pos hmarked.2) hmarked.2
    rw [if_neg hsingle, if_neg hdouble, if_pos ⟨hmarked.1, hquote⟩]
    exact quotedToken_take_append (h.stops (by decide)) herror
  all_goals
    have hmarked' : ¬ (isStringMarker first = true ∧ (rest.take token.2 ++ after).head? = some '\'') :=
      fun hc => hmarked ⟨hc.1, hhead (by decide) hc.2⟩
    rw [if_neg hsingle, if_neg hdouble, if_neg hmarked']
  · subst hfront
    rw [if_pos hdollar]
    exact dollarToken_take_append h hs herror hopen
  · subst hfront
    rw [if_neg hdollar, if_pos]
    · exact numberToken_take_append h first rest
    · refine hnumber.imp_right fun hpoint => ⟨hpoint.1, ?_⟩
      obtain ⟨d, hd, hdigit⟩ := (Option.any_eq_true _ _).1 hpoint.2
      rw [head?_take_append (numberToken_pos hd hdigit) hd]
      exact hdigit
  all_goals
    have hnumber' : ¬ (first.isDigit = true
        ∨ first = '.' ∧ (rest.take token.2 ++ after).head?.any Char.isDigit = true) := by
      rintro (hdigit | ⟨hpoint, hany⟩)
      · exact hnumber (.inl hdigit)
      · obtain ⟨d, hd, hdigit⟩ := (Option.any_eq_true _ _).1 hany
        have hspace : d ≠ ' ' := by
          rintro rfl
          exact absurd hdigit (by decide)
        exact hnumber (.inr ⟨hpoint, by rw [hhead hspace hd]; exact hdigit⟩)
    rw [if_neg hdollar, if_neg hnumber']
  · subst hfront
    have htail := takeWhile_take_append (p := isIdentContinue) (h.stops (by decide)) rest
    rw [if_pos hword, htail]
  · subst hfront
    rw [if_neg hword]
    exact symbolToken_take_append h first rest

end

/-! ### Texts that are read back -/

/-- A text is read as one token of a kind when a space or nothing follows it. -/
def Reads (t : Text) (kind : TokenKind) : Prop :=
  ∃ first tail, t = first :: tail
    ∧ ∀ after, Spaced after → front {} first (tail ++ after) = (kind, tail.length)

lemma Reads.ne_nil {t : Text} {kind : TokenKind} (h : Reads t kind) : t ≠ [] := by
  obtain ⟨first, tail, rfl, -⟩ := h
  exact List.cons_ne_nil first tail

lemma Reads.kind_eq {t : Text} {kind kind' : TokenKind} (h : Reads t kind) (h' : Reads t kind') :
    kind = kind' := by
  obtain ⟨first, tail, rfl, hfront⟩ := h
  obtain ⟨first', tail', heq, hfront'⟩ := h'
  obtain ⟨rfl, rfl⟩ := List.cons.inj heq
  exact congrArg Prod.fst ((hfront [] stops_nil).symm.trans (hfront' [] stops_nil))

/-- No token starts with another one and a space. -/
lemma Reads.not_startsWith {t t' : Text} {kind kind' : TokenKind} (h : Reads t kind) (h' : Reads t' kind') :
    ¬ t ++ [' '] <+: t' := by
  rintro ⟨more, rfl⟩
  obtain ⟨first, tail, rfl, hfront⟩ := h
  obtain ⟨first', tail', heq, hfront'⟩ := h'
  obtain ⟨rfl, rfl⟩ := List.cons.inj heq
  have hlong := hfront' [] stops_nil
  have hshort := hfront (' ' :: more) (stops_cons (by decide))
  simp at hlong hshort
  have := congrArg Prod.snd (hlong.symm.trans hshort)
  simp at this

/-- Words are read back. -/
lemma reads_word {first : Char} {tail : Text} (hascii : first.toNat < 128)
    (hfirst : isIdentStart first = true) (htail : ∀ c ∈ tail, isIdentContinue c = true) :
    Reads (first :: tail) (TokenKind.ofWord (first :: tail)) := by
  refine ⟨first, tail, rfl, fun after h => ?_⟩
  have hword : (tail ++ after).takeWhile isIdentContinue = tail := by
    rw [List.takeWhile_append_of_pos htail]
    cases after with
    | nil => exact List.append_nil tail
    | cons c after =>
      rw [List.takeWhile_cons_of_neg, List.append_nil]
      rw [h.stops (p := isIdentContinue) (by decide +kernel) c rfl]
      exact Bool.false_ne_true
  rw [front_of_word hascii hfirst, hword]
  intro hquote
  cases tail with
  | nil => exact absurd (h '\'' hquote) (by decide)
  | cons c tail =>
    have hc := htail c List.mem_cons_self
    rw [Option.some.inj hquote] at hc
    exact absurd hc (by decide +kernel)

/-! ### Significant tokens of a source -/

variable {s : Surroundings} {t : Text} {x : Lexeme}

/-- Where no token opens a body, none is open. -/
lemma openTags_advance_eq_nil (hs : s.openTags = []) (hx : x.kind ≠ .bodyOpen) :
    (s.advance x).openTags = [] := by
  rw [openTags_advance, hs]
  split
  · next hopen => exact absurd hopen hx
  · rfl
  · rfl

/-- The significant tokens of a text without errors and bodies are read back. -/
lemma reads_of_mem_scan (hs : s.openTags = [])
    (hclean : ∀ x ∈ scan s t, x.kind ≠ .error ∧ x.kind ≠ .bodyOpen) (hx : x ∈ scan s t)
    (htrivia : x.kind.isTrivia = false) : Reads x.text x.kind := by
  fun_induction scan s t with
  | case1 => exact absurd hx List.not_mem_nil
  | case2 s first rest kind n hfront lexeme ih =>
    have hhere := hclean lexeme List.mem_cons_self
    cases List.mem_cons.1 hx with
    | inl heq =>
      subst heq
      refine ⟨first, rest.take n, rfl, fun after h => ?_⟩
      have hread := front_take_append h hs first rest
      have hle := front_le s first rest
      rw [hfront] at hread hle
      rw [List.length_take_of_le hle]
      exact hread htrivia hhere.1 hhere.2
    | inr hx =>
      apply ih (openTags_advance_eq_nil hs hhere.2) _ hx
      exact fun y hy => hclean y (List.mem_cons_of_mem _ hy)

/-- A token whose kind is one of several kinds has the properties that they share. -/
lemma all_of_mem {kind : TokenKind} {kinds : List TokenKind} (h : kind ∈ kinds) {p : TokenKind → Bool}
    (hkinds : kinds.all p = true) : p kind = true :=
  List.all_eq_true.1 hkinds kind h

/-- The kinds of words. -/
def isWordKind (kind : TokenKind) : Bool :=
  kind.isKeyword || kind == .ident

/-- Only what starts like a word is of the kind of a word. -/
lemma front_of_isWordKind (s : Surroundings) (first : Char) (rest : Text) :
    isWordKind (front s first rest).1 = true →
      isIdentStart first = true ∧ front s first rest
        = (TokenKind.ofWord (first :: rest.takeWhile isIdentContinue),
          (rest.takeWhile isIdentContinue).length) := by
  have other {token : TokenKind × Nat} {kinds : List TokenKind} {goal : Prop} (hmem : token.1 ∈ kinds)
      (hkinds : kinds.all (!isWordKind ·) = true) (h : isWordKind token.1 = true) : goal := by
    have hnot := all_of_mem hmem hkinds
    rw [h] at hnot
    exact absurd hnot nofun
  apply TokenStream.front_elim (P := fun token => isWordKind token.1 = true →
    isIdentStart first = true ∧ token = (TokenKind.ofWord (first :: rest.takeWhile isIdentContinue),
      (rest.takeWhile isIdentContinue).length))
  case spacing => nofun
  case feed => nofun
  case line => nofun
  case block => nofun
  case unclosed => nofun
  case string => exact fun _ => other (quotedToken_kind _ _ _ _) rfl
  case name => exact fun _ => other (quotedToken_kind _ _ _ _) rfl
  case marked => exact fun _ => other (quotedToken_kind _ _ _ _) rfl
  case dollar => exact fun _ => other (dollarToken_kind _ _) rfl
  case number => exact fun _ => other (numberToken_kind _ _) rfl
  case word => exact fun hfirst _ => ⟨hfirst, rfl⟩
  case symbol => exact other (symbolToken_kind _ _) rfl

/-- Keywords and identifiers are words of their kind. -/
lemma isWord_of_mem_scan (hx : x ∈ scan s t) (hkind : isWordKind x.kind = true) :
    ∃ first tail, x.text = first :: tail ∧ isIdentStart first = true
      ∧ (∀ c ∈ tail, isIdentContinue c = true) ∧ TokenKind.ofWord x.text = x.kind := by
  fun_induction scan s t with
  | case1 => exact absurd hx List.not_mem_nil
  | case2 s first rest kind n hfront lexeme ih =>
    cases List.mem_cons.1 hx with
    | inl heq =>
      subst heq
      obtain ⟨hfirst, hword⟩ := front_of_isWordKind s first rest (by rw [hfront]; exact hkind)
      obtain ⟨rfl, rfl⟩ := Prod.mk.inj (hfront.symm.trans hword)
      have htail : rest.take (rest.takeWhile isIdentContinue).length = rest.takeWhile isIdentContinue :=
        take_spanLength _ _
      refine ⟨first, _, rfl, hfirst, fun c hc => ?_,
        congrArg (fun tail => TokenKind.ofWord (first :: tail)) htail⟩
      rw [htail] at hc
      exact List.mem_takeWhile_imp hc
    | inr hx => exact ih hx

/-- All characters of a token stand in the text. -/
lemma mem_of_mem_text (hx : x ∈ scan s t) {c : Char} (hc : c ∈ x.text) : c ∈ t := by
  rw [← flatMap_text_scan s t]
  exact List.mem_flatMap.2 ⟨x, hx, hc⟩

end Lexeme

namespace Text

variable {t : Text}

lemma toUpper_of_ascii (h : ∀ c ∈ t, c.toNat < 128) : toUpper t = asciiUpper t := by
  induction t with
  | nil => rfl
  | cons c t ih =>
    rw [toUpper, List.flatMap_cons, upperChar, if_pos (h c List.mem_cons_self), asciiUpper, List.map_cons]
    exact congrArg _ (ih fun d hd => h d (List.mem_cons_of_mem c hd))

/-- Capitals of letters are letters, and what can stand in a word still can. -/
lemma toUpper_ascii {c : Char} (h : c.toNat < 128) :
    c.toUpper.toNat < 128 ∧ c.toUpper.toUpper = c.toUpper
      ∧ (Lexeme.isIdentStart c = true → Lexeme.isIdentStart c.toUpper = true)
      ∧ (Lexeme.isIdentContinue c = true → Lexeme.isIdentContinue c.toUpper = true) := by
  refine of_lt_128 (p := fun c => c.toUpper.toNat < 128 ∧ c.toUpper.toUpper = c.toUpper
      ∧ (Lexeme.isIdentStart c = true → Lexeme.isIdentStart c.toUpper = true)
      ∧ (Lexeme.isIdentContinue c = true → Lexeme.isIdentContinue c.toUpper = true)) ?_ h
  decide +kernel

lemma asciiUpper_asciiUpper (h : ∀ c ∈ t, c.toNat < 128) :
    asciiUpper (asciiUpper t) = asciiUpper t := by
  rw [asciiUpper, asciiUpper, List.map_map]
  apply List.map_congr_left
  intro c hc
  exact (toUpper_ascii (h c hc)).2.1

/-- Letter case does not matter to the kind of a word. -/
lemma ofWord_asciiUpper (h : ∀ c ∈ t, c.toNat < 128) :
    TokenKind.ofWord (asciiUpper t) = TokenKind.ofWord t := by
  rw [TokenKind.ofWord, TokenKind.ofWord, Keyword.ofWord?, Keyword.ofWord?, asciiUpper_asciiUpper h]

end Text
end SqlLayout
