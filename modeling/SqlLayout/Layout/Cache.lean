import SqlLayout.Layout.Buffer
import SqlLayout.Layout.Context

/-!
# Kept pieces

A cache keeps the latest piece of every node, together with the context, the column and the policy
under which it was laid out. It answers under an equal context and policy if the column is the same, or
if the piece has one line that still fits where it is moved to. Policies take part through a fingerprint
with decidable equality.
-/

namespace SqlLayout

/-- How often a cache answered as kept, answered after a move, and did not answer. -/
structure CacheStats where
  hits : Nat := 0
  rebased : Nat := 0
  misses : Nat := 0
  deriving DecidableEq, Inhabited

/-- A kept piece and the circumstances under which it was laid out. -/
structure CacheEntry (φ : Type) where
  context : Context
  column : Nat
  fingerprint : φ
  piece : Piece
  deriving DecidableEq

/-- The piece of an entry moved to a column, if it has one line and fits there. -/
def CacheEntry.moved? {φ : Type} (e : CacheEntry φ) (column lineWidth : Nat) : Option Piece :=
  let length := e.piece.width - e.piece.start
  if column + length + e.context.trailing ≤ lineWidth then e.piece.rebase? column else none

/-- One place for each node, which holds its latest piece. -/
structure Cache (φ : Type) where
  slots : Array (Option (CacheEntry φ)) := #[]
  /-- Whether pieces are kept at all. -/
  enabled : Bool := true
  stats : CacheStats := {}

namespace Cache

variable {φ : Type} [DecidableEq φ]

/-- A cache that keeps nothing. -/
def disabled : Cache φ :=
  { enabled := false }

/-- Number of kept pieces. -/
def size (c : Cache φ) : Nat :=
  c.slots.toList.countP Option.isSome

/-- Forgets all pieces; the counts go on. -/
def clear (c : Cache φ) : Cache φ :=
  { c with slots := #[] }

/-- The kept piece of a node, if it was laid out under the given context and fingerprint. -/
def entryOf? (c : Cache φ) (node : Nat) (context : Context) (fingerprint : φ) :
    Option (CacheEntry φ) :=
  (c.slots[node]?.join).filter fun e => e.fingerprint = fingerprint ∧ e.context = context

/-- Asks for the piece of a node; the answer is counted. -/
def get (c : Cache φ) (node : Nat) (context : Context) (column : Nat) (fingerprint : φ)
    (lineWidth : Nat) : Option Piece × Cache φ :=
  if !c.enabled then (none, c)
  else
    match c.entryOf? node context fingerprint with
    | none => (none, { c with stats.misses := c.stats.misses + 1 })
    | some e =>
      if e.column = column then (some e.piece, { c with stats.hits := c.stats.hits + 1 })
      else
        match e.moved? column lineWidth with
        | some piece => (some piece, { c with stats.rebased := c.stats.rebased + 1 })
        | none => (none, { c with stats.misses := c.stats.misses + 1 })

/-- An array with at least the given size, filled up with empty places. -/
def widened (slots : Array (Option (CacheEntry φ))) (size : Nat) :
    Array (Option (CacheEntry φ)) :=
  slots ++ Array.replicate (size - slots.size) none

/-- Keeps the piece of a node in place of an earlier one. -/
def insert (c : Cache φ) (node : Nat) (context : Context) (column : Nat) (fingerprint : φ)
    (piece : Piece) : Cache φ :=
  if !c.enabled then c
  else
    { c with
      slots := (widened c.slots (node + 1)).setIfInBounds node
        (some ⟨context, column, fingerprint, piece⟩) }

end Cache
end SqlLayout
