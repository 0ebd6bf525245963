import Mathlib.Logic.Function.Basic
import Mathlib.Tactic.Common
import SqlLayout.Token.KindSet

/-!
# Elements of sets of kinds

No two kinds have the same code, so that a set which is built from a list has the kinds of the list for
its elements, and no others.
-/

namespace SqlLayout

lemma Keyword.getElem?_all (word : Keyword) : Keyword.all[word.ctorIdx]? = some word := by
  cases word <;> rfl

namespace TokenKind

/-- All kinds, in the order of their codes. -/
def all : List TokenKind :=
  ([.whitespace, .linefeed, .lineComment, .blockComment, .integer, .float, .string, .dollarString,
    .param, .ident, .quotedIdent, .operator, .colonEq, .doubleColon, .comma, .semicolon, .dot, .colon,
    .lParen, .rParen, .lBracket, .rBracket, .bodyOpen, .bodyClose] : List TokenKind)
    ++ (Keyword.all.map .keyword ++ [.error, .eof])

/-- The kinds behind those with a code of their own. -/
lemma getElem?_all_add (n : Nat) :
    all[firstKeywordCode + n]? = (Keyword.all.map TokenKind.keyword ++ [.error, .eof])[n]? := by
  rw [all, List.getElem?_append_right (by simp [firstKeywordCode])]
  simp [firstKeywordCode]

lemma getElem?_all (k : TokenKind) : all[k.code]? = some k := by
  cases k with
  | keyword word =>
    have hword := word.getElem?_all
    have hlt := (List.getElem?_eq_some_iff.1 hword).1
    rw [code, getElem?_all_add, List.getElem?_append_left (by simpa using hlt), List.getElem?_map, hword,
      Option.map_some]
  | error =>
    rw [code, getElem?_all_add, List.getElem?_append_right (by simp)]
    simp
  | eof =>
    rw [code, Nat.add_assoc, getElem?_all_add, List.getElem?_append_right (by simp)]
    simp
  | _ => rfl

/-- A kind is told by its code. -/
lemma code_injective : Function.Injective code := by
  intro j k h
  have hj := j.getElem?_all
  rw [h, k.getElem?_all] at hj
  exact (Option.some.inj hj).symm

end TokenKind

namespace KindSet

variable {kinds : List TokenKind} {k : TokenKind}

/-- A set holds the kinds of its list. -/
lemma contains_ofList_iff : (ofList kinds).contains k = true ↔ k ∈ kinds := by
  simp [contains_ofList, TokenKind.code_injective.eq_iff]

lemma not_contains_ofList (h : k ∉ kinds) : (ofList kinds).contains k = false := by
  rw [Bool.eq_false_iff, Ne, contains_ofList_iff]
  exact h

/-- A set holds the kinds that have been added to it. -/
lemma contains_union_ofList (s : KindSet) (h : k ∈ kinds) : (s.union (ofList kinds)).contains k = true := by
  rw [contains_union, contains_ofList_iff.2 h, Bool.or_true]

end KindSet
end SqlLayout
