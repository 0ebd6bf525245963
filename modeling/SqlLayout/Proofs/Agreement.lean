import Mathlib.Data.List.Forall2
import SqlLayout.Proofs.Content
import SqlLayout.Proofs.Token.Readback

/-!
# Texts with the same content

The normal form of a source has a space between its tokens, and tokens may hold spaces themselves. Still
the tokens can be read back from it: no token starts with another one and a space. So two texts that pass
the check of content agree token by token.
-/

namespace SqlLayout

namespace Text

variable {sep : Char}

/-- What follows the first part of a joined text: nothing, or a separator and the other parts. -/
def joinTail (sep : Char) : List Text → Text
  | [] => []
  | parts => sep :: join [sep] parts

lemma join_eq_append (part : Text) (parts : List Text) :
    join [sep] (part :: parts) = part ++ joinTail sep parts := by
  cases parts with
  | nil => exact (List.append_nil part).symm
  | cons next parts =>
    rw [join_cons [sep] part (List.cons_ne_nil next parts), List.append_assoc]
    rfl

/-- Of two texts that go on to the same one, each with nothing or a separator, neither is shorter. -/
lemma eq_of_append_joinTail {s t : Text} {parts parts' : List Text}
    (h : s ++ joinTail sep parts = t ++ joinTail sep parts')
    (hs : ¬ s ++ [sep] <+: t) (ht : ¬ t ++ [sep] <+: s) :
    s = t ∧ joinTail sep parts = joinTail sep parts' := by
  -- A text that is longer starts with the shorter one and a separator.
  have cut {u : Text} {parts : List Text} {rest more : Text} (hnot : ¬ u ++ [sep] <+: u ++ rest)
      (htail : joinTail sep parts = rest ++ more) : rest = [] := by
    cases rest with
    | nil => rfl
    | cons c rest =>
      cases parts with
      | nil => exact absurd htail nofun
      | cons part parts =>
        obtain ⟨rfl, -⟩ := List.cons.inj htail
        exact absurd ⟨rest, by simp⟩ hnot
  cases List.append_eq_append_iff.1 h with
  | inl hlonger =>
    obtain ⟨rest, rfl, htail⟩ := hlonger
    obtain rfl := cut hs htail
    exact ⟨(List.append_nil s).symm, htail⟩
  | inr hlonger =>
    obtain ⟨rest, rfl, htail⟩ := hlonger
    obtain rfl := cut ht htail
    exact ⟨List.append_nil t, htail.symm⟩

/-- Parts can be read back from the joined text if none starts with another one and a separator. -/
lemma join_injective {parts parts' : List Text} (hparts : ∀ part ∈ parts, part ≠ [])
    (hparts' : ∀ part ∈ parts', part ≠ [])
    (hapart : ∀ part ∈ parts, ∀ part' ∈ parts', ¬ part ++ [sep] <+: part' ∧ ¬ part' ++ [sep] <+: part)
    (h : join [sep] parts = join [sep] parts') : parts = parts' := by
  have ne_nil {part : Text} (hpart : part ≠ []) (parts : List Text) :
      join [sep] [] ≠ join [sep] (part :: parts) := by
    rw [join_eq_append]
    intro hnil
    exact hpart (List.append_eq_nil_iff.1 hnil.symm).1
  induction parts generalizing parts' with
  | nil =>
    cases parts' with
    | nil => rfl
    | cons part' parts' => exact absurd h (ne_nil (hparts' part' List.mem_cons_self) parts')
  | cons part parts ih =>
    cases parts' with
    | nil => exact absurd h.symm (ne_nil (hparts part List.mem_cons_self) parts)
    | cons part' parts' =>
      obtain ⟨hs, ht⟩ := hapart part List.mem_cons_self part' List.mem_cons_self
      rw [join_eq_append, join_eq_append] at h
      obtain ⟨rfl, htail⟩ := eq_of_append_joinTail h hs ht
      congr 1
      cases parts with
      | nil =>
        cases parts' with
        | nil => rfl
        | cons => exact absurd htail nofun
      | cons next parts =>
        cases parts' with
        | nil => exact absurd htail nofun
        | cons next' parts' =>
          apply ih _ _ _ (List.cons.inj htail).2
          · exact fun p hp => hparts p (List.mem_cons_of_mem _ hp)
          · exact fun p hp => hparts' p (List.mem_cons_of_mem _ hp)
          · exact fun p hp q hq => hapart p (List.mem_cons_of_mem _ hp) q (List.mem_cons_of_mem _ hq)

end Text

/-- Whether two tokens are the same, up to the case of ASCII letters in keywords and identifiers. -/
def Token.Agrees (x y : Token) : Prop :=
  x.kind = y.kind
    ∧ if x.kind.isKeyword || x.kind == .ident then Text.eqIgnoringCase x.text y.text = true
      else x.text = y.text

namespace TokenStream

open Lexeme (Reads)

variable {source : Text} {x y : Token}

/-- A significant token has been scanned. -/
lemma mem_scan_of_significant (hx : x ∈ (ofText source).significant) :
    Lexeme.mk x.kind x.text ∈ Lexeme.scan {} source ∧ x.kind.isTrivia = false
      ∧ x ∈ (ofText source).tokens := by
  obtain ⟨hmem, hkind⟩ := List.mem_filter.1 hx
  obtain ⟨htrivia, heof⟩ : x.kind.isTrivia = false ∧ x.kind ≠ .eof := by simpa using hkind
  have hplaced := List.mem_map_of_mem (f := fun t : Token => Lexeme.mk t.kind t.text) hmem
  rw [ofText, List.toList_toArray, map_lexeme_place] at hplaced
  cases List.mem_append.1 hplaced with
  | inl hscan => exact ⟨hscan, htrivia, Array.mem_toList_iff.1 hmem⟩
  | inr hlast => exact absurd (congrArg Lexeme.kind (List.mem_singleton.1 hlast)) heof

/-- Whether the tokens of a stream are free of errors and opened bodies. -/
def IsClean (ts : TokenStream) : Prop :=
  ∀ x ∈ ts.tokens, x.kind ≠ .error ∧ x.kind ≠ .bodyOpen

lemma IsClean.scan (h : (ofText source).IsClean) :
    ∀ x ∈ Lexeme.scan {} source, x.kind ≠ .error ∧ x.kind ≠ .bodyOpen := by
  intro x hx
  have hmem : x ∈ (place 0 {} {} none (Lexeme.scan {} source)).map fun t => Lexeme.mk t.kind t.text := by
    rw [map_lexeme_place]
    exact List.mem_append_left _ hx
  obtain ⟨token, htoken, rfl⟩ := List.mem_map.1 hmem
  exact h token (List.mem_toArray.2 htoken)

lemma toNat_lt_of_significant (hascii : ∀ c ∈ source, c.toNat < 128)
    (hx : x ∈ (ofText source).significant) : ∀ c ∈ x.text, c.toNat < 128 := fun c hc =>
  hascii c (Lexeme.mem_of_mem_text (mem_scan_of_significant hx).1 hc)

/-- The normal form of a significant token is read back as a token of its kind. -/
lemma reads_normalized (hascii : ∀ c ∈ source, c.toNat < 128) (hclean : (ofText source).IsClean)
    (hx : x ∈ (ofText source).significant) : Reads x.normalized x.kind := by
  obtain ⟨hscan, htrivia, -⟩ := mem_scan_of_significant hx
  have htext := toNat_lt_of_significant hascii hx
  cases hword : Lexeme.isWordKind x.kind with
  | false =>
    rw [Token.normalized, if_neg (by rw [← Lexeme.isWordKind, hword]; exact Bool.false_ne_true)]
    exact Lexeme.reads_of_mem_scan rfl hclean.scan hscan htrivia
  | true =>
    obtain ⟨first, tail, heq, hfirst, htail, hkind⟩ := Lexeme.isWord_of_mem_scan hscan hword
    dsimp only at heq hkind
    rw [Token.normalized, if_pos (by exact hword), Text.toUpper_of_ascii htext, ← hkind,
      ← Text.ofWord_asciiUpper htext]
    rw [heq] at htext ⊢
    obtain ⟨hascii, -, hstart, -⟩ := Text.toUpper_ascii (htext first List.mem_cons_self)
    apply Lexeme.reads_word hascii (hstart hfirst)
    intro c hc
    obtain ⟨d, hd, rfl⟩ := List.mem_map.1 hc
    exact (Text.toUpper_ascii (htext d (List.mem_cons_of_mem first hd))).2.2.2 (htail d hd)

/-- Two tokens with the same normal form and kind agree. -/
lemma agrees_of_normalized (hx : ∀ c ∈ x.text, c.toNat < 128) (hy : ∀ c ∈ y.text, c.toNat < 128)
    (hkind : x.kind = y.kind) (h : x.normalized = y.normalized) : x.Agrees y := by
  refine ⟨hkind, ?_⟩
  rw [Token.normalized, Token.normalized, ← hkind] at h
  split_ifs at h ⊢ with hword
  · rw [Text.toUpper_of_ascii hx, Text.toUpper_of_ascii hy] at h
    have hlower := congrArg Text.asciiLower h
    rw [Text.asciiLower_asciiUpper, Text.asciiLower_asciiUpper] at hlower
    exact beq_iff_eq.2 hlower
  · exact h

end TokenStream

/--
Two ASCII texts without errors and routine bodies among their tokens that pass the check of content have
the same significant tokens, up to the letter case of keywords and identifiers.
-/
theorem significant_agree_of_checkContent {a b : Text} (ha : ∀ c ∈ a, c.toNat < 128)
    (hb : ∀ c ∈ b, c.toNat < 128)
    (hcleana : ∀ x ∈ (TokenStream.ofText a).tokens, x.kind ≠ .error ∧ x.kind ≠ .bodyOpen)
    (hcleanb : ∀ x ∈ (TokenStream.ofText b).tokens, x.kind ≠ .error ∧ x.kind ≠ .bodyOpen)
    (h : checkContent a b = .ok (.ok ())) :
    List.Forall₂ Token.Agrees (TokenStream.ofText a).significant (TokenStream.ofText b).significant := by
  have hreads {x : Token} (hx : x ∈ (TokenStream.ofText a).significant) :=
    TokenStream.reads_normalized ha hcleana hx
  have hreads' {x : Token} (hx : x ∈ (TokenStream.ofText b).significant) :=
    TokenStream.reads_normalized hb hcleanb hx
  have hnormal : (TokenStream.ofText a).significant.map Token.normalized
      = (TokenStream.ofText b).significant.map Token.normalized := by
    apply Text.join_injective _ _ _ (checkContent_eq_ok_iff.1 h).2.2
    · simp only [List.forall_mem_map]
      exact fun x hx => (hreads hx).ne_nil
    · simp only [List.forall_mem_map]
      exact fun x hx => (hreads' hx).ne_nil
    · simp only [List.forall_mem_map]
      exact fun x hx y hy => ⟨(hreads hx).not_startsWith (hreads' hy), (hreads' hy).not_startsWith (hreads hx)⟩
  have hlength := congrArg List.length hnormal
  rw [List.length_map, List.length_map] at hlength
  apply List.forall₂_iff_get.2 ⟨hlength, _⟩
  intro i hi hi'
  have hx := List.getElem_mem hi
  have hy := List.getElem_mem hi'
  have hsame : (TokenStream.ofText a).significant[i].normalized
      = (TokenStream.ofText b).significant[i].normalized := by
    have hget := List.getElem_of_eq hnormal (by rwa [List.length_map])
    rwa [List.getElem_map, List.getElem_map] at hget
  have hkind := (hreads hx).kind_eq (hsame ▸ hreads' hy)
  exact TokenStream.agrees_of_normalized (TokenStream.toNat_lt_of_significant ha hx)
    (TokenStream.toNat_lt_of_significant hb hy) hkind hsame

/-- A query in other letters and with other blanks. -/
theorem significant_agree_of_query :
    let a := "select 'a b' from T".toList
    let b := "SELECT\n  'a b'\nFROM t".toList
    (∀ c ∈ a, c.toNat < 128) ∧ (∀ c ∈ b, c.toNat < 128)
      ∧ (∀ x ∈ (TokenStream.ofText a).tokens, x.kind ≠ .error ∧ x.kind ≠ .bodyOpen)
      ∧ (∀ x ∈ (TokenStream.ofText b).tokens, x.kind ≠ .error ∧ x.kind ≠ .bodyOpen)
      ∧ checkContent a b = .ok (.ok ())
      ∧ List.Forall₂ Token.Agrees (TokenStream.ofText a).significant
        (TokenStream.ofText b).significant := by
  intro a b
  have ha : ∀ c ∈ a, c.toNat < 128 := Text.forall_of_all (by decide +kernel)
  have hb : ∀ c ∈ b, c.toNat < 128 := Text.forall_of_all (by decide +kernel)
  have hcleana : ∀ x ∈ (TokenStream.ofText a).tokens, x.kind ≠ .error ∧ x.kind ≠ .bodyOpen := by
    decide +kernel
  have hcleanb : ∀ x ∈ (TokenStream.ofText b).tokens, x.kind ≠ .error ∧ x.kind ≠ .bodyOpen := by
    decide +kernel
  have hcheck : checkContent a b = .ok (.ok ()) :=
    checkContent_eq_ok_iff.2 ⟨by decide +kernel, by decide +kernel, by decide +kernel⟩
  exact ⟨ha, hb, hcleana, hcleanb, hcheck,
    significant_agree_of_checkContent ha hb hcleana hcleanb hcheck⟩

end SqlLayout
