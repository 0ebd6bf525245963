import SqlLayout.Token.Kind

/-!
# Sets of token kinds

A set of kinds is a number with one bit for each kind, at the position of its code. Two sets are equal
exactly if the numbers are.
-/

namespace SqlLayout

/-- A set of token kinds. -/
structure KindSet where
  bits : Nat
  deriving DecidableEq, Inhabited

namespace KindSet

/-- The set without elements. -/
def empty : KindSet := ⟨0⟩

/-- Adds a kind to a set. -/
def insert (s : KindSet) (k : TokenKind) : KindSet :=
  ⟨s.bits ||| (1 <<< k.code)⟩

/-- Elements of either set. -/
def union (s t : KindSet) : KindSet :=
  ⟨s.bits ||| t.bits⟩

/-- Whether a kind is in a set. -/
def contains (s : KindSet) (k : TokenKind) : Bool :=
  s.bits.testBit k.code

/-- The set of the kinds in a list. -/
def ofList (kinds : List TokenKind) : KindSet :=
  kinds.foldl insert empty

@[simp] theorem contains_empty (k : TokenKind) : empty.contains k = false := by
  simp [empty, contains]

@[simp] theorem contains_union (s t : KindSet) (k : TokenKind) :
    (s.union t).contains k = (s.contains k || t.contains k) := by
  simp [union, contains]

theorem contains_insert (s : KindSet) (j k : TokenKind) :
    (s.insert j).contains k = (s.contains k || decide (j.code = k.code)) := by
  simp [insert, contains, Nat.one_shiftLeft, Nat.testBit_two_pow]

theorem contains_foldl_insert (kinds : List TokenKind) (s : KindSet) (k : TokenKind) :
    (kinds.foldl insert s).contains k
      = (s.contains k || kinds.any fun j => decide (j.code = k.code)) := by
  induction kinds generalizing s with
  | nil => simp
  | cons j kinds ih => simp [ih, contains_insert, Bool.or_assoc]

/-- A set holds the kinds of its list and no others. -/
theorem contains_ofList (kinds : List TokenKind) (k : TokenKind) :
    (ofList kinds).contains k = kinds.any fun j => decide (j.code = k.code) := by
  simp [ofList, contains_foldl_insert]

end KindSet
end SqlLayout
