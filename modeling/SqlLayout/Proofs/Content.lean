import SqlLayout.Content
import SqlLayout.Proofs.Tree.Build

/-!
# What the checks of formatted texts accept

A formatted text passes the check of content exactly if it and its source have trees without errors and
equal normal forms, and a source passes the check of stability exactly if formatting gives a text that
formatting gives back. Neither holds for all sources: signs and tildes are written close to what follows
them, where they can run together with another operator.
-/

namespace SqlLayout

/-- Whether a text has a tree without errors. -/
def isValid (source : Text) : Bool :=
  (Tree.parse source).toOption.any fun tree => tree.errors.isEmpty

variable {source formatted : Text} {tree : Tree}

lemma isValid_of_ok (h : Tree.parse source = .ok tree) : isValid source = tree.errors.isEmpty := by
  rw [isValid, h]
  rfl

lemma isValid_of_error {fault : Tree.ParseFault} (h : Tree.parse source = .error fault) :
    isValid source = false := by
  rw [isValid, h]
  rfl

lemma tokens_of_parse (h : Tree.parse source = .ok tree) : tree.tokens = .ofText source := by
  obtain ⟨-, herror⟩ | ⟨-, t, ht, htokens, -⟩ := Tree.parse_cases source
  · rw [herror] at h
    exact absurd h nofun
  · rw [ht] at h
    exact Except.ok.inj h ▸ htokens

lemma ok_of_toOption {ε α : Type} {x : Except ε α} {a : α} (h : x.toOption = some a) : x = .ok a := by
  cases x with
  | error e => exact absurd h nofun
  | ok b => exact congrArg Except.ok (Option.some.inj h)

/-! ### Content -/

lemma compareContent_eq_ok_iff {expected actual : Text} :
    compareContent expected actual = .ok () ↔ expected = actual := by
  unfold compareContent
  split
  · next h => simp [h]
  · next h => simp [h]

/-- The check of content compares the normal forms of texts without errors. -/
theorem checkContent_eq_ok_iff :
    checkContent source formatted = .ok (.ok ())
      ↔ isValid source = true ∧ isValid formatted = true
        ∧ (TokenStream.ofText source).normalize = (TokenStream.ofText formatted).normalize := by
  unfold checkContent
  cases hsource : Tree.parse source with
  | error fault => simp [bind, Except.bind, isValid_of_error hsource]
  | ok before =>
    rw [isValid_of_ok hsource, ← tokens_of_parse hsource]
    cases hbefore : before.errors.isEmpty with
    | false => simp [hbefore, bind, Except.bind, pure, Except.pure]
    | true =>
      cases hformatted : Tree.parse formatted with
      | error fault => simp [hbefore, bind, Except.bind, isValid_of_error hformatted]
      | ok after =>
        rw [isValid_of_ok hformatted, ← tokens_of_parse hformatted]
        cases hafter : after.errors.isEmpty with
        | false => simp [hbefore, hafter, bind, Except.bind, pure, Except.pure]
        | true =>
          simp [hbefore, hafter, bind, Except.bind, pure, Except.pure, compareContent_eq_ok_iff]

/-- Two signs before a number run together to the start of a line comment. -/
theorem checkContent_of_two_signs :
    isValid "select - -1".toList = true
      ∧ formatBounded {} "select - -1".toList = .ok "SELECT --1\n".toList
      ∧ checkContent "select - -1".toList "SELECT --1\n".toList ≠ .ok (.ok ()) := by
  refine ⟨by decide +kernel, ok_of_toOption (by decide +kernel), fun h => ?_⟩
  have hnormal := (checkContent_eq_ok_iff.1 h).2.2
  exact absurd hnormal (by decide +kernel)

/-! ### Stability -/

lemma compareOutputs_eq_ok_iff {first second out : Text} :
    compareOutputs first second = .ok out ↔ first = second ∧ first = out := by
  unfold compareOutputs
  split
  · next h => simp [h]
  · next h => simp [h]

/-- A source passes the check of stability with the text that formatting gives and gives back. -/
theorem checkStable_eq_ok_iff {policy : Policy} {out : Text} :
    checkStable policy source = .ok (.ok out)
      ↔ formatBounded policy source = .ok out ∧ formatBounded policy out = .ok out := by
  have hcheck : checkStable policy source = (formatBounded policy source).bind fun first =>
      (formatBounded policy first).bind fun second => .ok (compareOutputs first second) := rfl
  rw [hcheck]
  cases formatBounded policy source with
  | error fault => simp [Except.bind]
  | ok first =>
    constructor
    · intro h
      cases hsecond : formatBounded policy first with
      | error fault => simp [Except.bind, hsecond] at h
      | ok second =>
        have hsame : compareOutputs first second = .ok out := by simpa [Except.bind, hsecond] using h
        obtain ⟨rfl, rfl⟩ := compareOutputs_eq_ok_iff.1 hsame
        exact ⟨rfl, hsecond⟩
    · rintro ⟨hout, hagain⟩
      obtain rfl := Except.ok.inj hout
      simp [Except.bind, hagain, compareOutputs_eq_ok_iff]

/-- Two tildes run together to one operator, after which a space is written. -/
theorem checkStable_of_two_tildes :
    isValid "select ~ ~ x".toList = true
      ∧ ∀ out, checkStable {} "select ~ ~ x".toList ≠ .ok (.ok out) := by
  refine ⟨by decide +kernel, fun out h => ?_⟩
  have hfirst : formatBounded {} "select ~ ~ x".toList = .ok "SELECT ~~x\n".toList :=
    ok_of_toOption (by decide +kernel)
  have hsecond : formatBounded {} "SELECT ~~x\n".toList = .ok "SELECT ~~ x\n".toList :=
    ok_of_toOption (by decide +kernel)
  obtain ⟨hout, hagain⟩ := checkStable_eq_ok_iff.1 h
  rw [hfirst] at hout
  obtain rfl := Except.ok.inj hout
  rw [hsecond] at hagain
  exact absurd (Except.ok.inj hagain) (by decide)

end SqlLayout
