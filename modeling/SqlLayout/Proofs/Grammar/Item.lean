import Mathlib.Tactic.Common
import SqlLayout.Grammar.State

/-!
# What the grammar recognises

The events of a run are the walk around a forest: a leaf is an event of its own, a node is an opening
event, the events of its items and a closing event. `Item.outline` rebuilds the forest from the events,
and gives every forest back from its own events, so a list of events stands for at most one forest.
-/

namespace SqlLayout.Grammar

/-- A recognised leaf or node, or a complaint between them. -/
inductive Item where
  | leaf (role : LeafRole)
  | error (cause : Complaint)
  | node (kind : NodeKind) (items : List Item)

namespace Item

mutual

/-- The events of an item, in the order in which they happened. -/
def events : Item → List Event
  | leaf role => [.token role]
  | error cause => [.error cause]
  | node kind items => .open kind :: (eventsOf items ++ [.close])

/-- The events of items one after the other. -/
def eventsOf : List Item → List Event
  | [] => []
  | x :: xs => x.events ++ eventsOf xs

end

mutual

/-- Number of leaves of an item. -/
def leaves : Item → Nat
  | leaf _ => 1
  | error _ => 0
  | node _ items => leavesOf items

/-- Number of leaves of items. -/
def leavesOf : List Item → Nat
  | [] => 0
  | x :: xs => x.leaves + leavesOf xs

end

@[simp] lemma eventsOf_append (xs ys : List Item) :
    eventsOf (xs ++ ys) = eventsOf xs ++ eventsOf ys := by
  induction xs with
  | nil => rfl
  | cons x xs ih => simp [eventsOf, ih]

@[simp] lemma leavesOf_append (xs ys : List Item) :
    leavesOf (xs ++ ys) = leavesOf xs + leavesOf ys := by
  induction xs with
  | nil => simp [leavesOf]
  | cons x xs ih => simp [leavesOf, ih, Nat.add_assoc]

@[simp] lemma leavesOf_map_leaf (roles : List LeafRole) : leavesOf (roles.map leaf) = roles.length := by
  induction roles with
  | nil => rfl
  | cons role roles ih => simp [leavesOf, leaves, ih, Nat.add_comm]

/-! ### The forest of a list of events -/

/--
The forest of events, with the items of the innermost open node so far, newest first, and those of the
nodes around it.
-/
def outlineFrom : List Item → List (NodeKind × List Item) → List Event → List Item
  | items, _, [] => items.reverse
  | items, outer, .token role :: rest => outlineFrom (leaf role :: items) outer rest
  | items, outer, .error cause :: rest => outlineFrom (error cause :: items) outer rest
  | items, outer, .open kind :: rest => outlineFrom [] ((kind, items) :: outer) rest
  | items, (kind, before) :: outer, .close :: rest =>
    outlineFrom (node kind items.reverse :: before) outer rest
  | items, [], .close :: _ => items.reverse

/-- The forest that a list of events walks around. -/
def outline (events : List Event) : List Item :=
  outlineFrom [] [] events

mutual

lemma outlineFrom_events (x : Item) (items : List Item) (outer : List (NodeKind × List Item))
    (rest : List Event) :
    outlineFrom items outer (x.events ++ rest) = outlineFrom (x :: items) outer rest := by
  match x with
  | leaf role => simp [events, outlineFrom]
  | error cause => simp [events, outlineFrom]
  | node kind xs =>
    have h := outlineFrom_eventsOf xs [] ((kind, items) :: outer) (.close :: rest)
    simp [events, outlineFrom, h]

lemma outlineFrom_eventsOf (xs : List Item) (items : List Item) (outer : List (NodeKind × List Item))
    (rest : List Event) :
    outlineFrom items outer (eventsOf xs ++ rest) = outlineFrom (xs.reverse ++ items) outer rest := by
  match xs with
  | [] => simp [eventsOf]
  | x :: xs =>
    have hx := outlineFrom_events x items outer (eventsOf xs ++ rest)
    have hxs := outlineFrom_eventsOf xs (x :: items) outer rest
    simp [eventsOf, hx, hxs]

end

/-- A forest is given back by its events. -/
theorem outline_eventsOf (items : List Item) : outline (eventsOf items) = items := by
  have h := outlineFrom_eventsOf items [] [] []
  simpa [outline, outlineFrom] using h

/-! ### Proper forests -/

/-- Kinds of nodes that the grammar opens around what it recognises. -/
def isConstruct : NodeKind → Bool
  | .leaf _ | .comment | .error _ => false
  | _ => true

/-- Constructs whose rules look before they read; tables and loops have cases of their own. -/
def isPlain : NodeKind → Bool
  | .tableDefinition | .loopStatement => false
  | kind => isConstruct kind

lemma isConstruct_of_isPlain {kind : NodeKind} (h : isPlain kind = true) : isConstruct kind = true := by
  unfold isPlain at h
  split at h <;> simp_all

/-- Nodes stand for constructs, and an error node is a complaint followed by leaves. -/
inductive Proper : Item → Prop where
  | leaf (role : LeafRole) :
    Proper (.leaf role)
  | error (cause : Complaint) :
    Proper (.error cause)
  | node {kind : NodeKind} {items : List Item} :
    isConstruct kind = true →
    (∀ x ∈ items, Proper x) →
    Proper (.node kind items)
  | reject (cause : Complaint) (roles : List LeafRole) :
    Proper (.node (.error 0) (.error cause :: roles.map .leaf))

/-! ### Where the input is too short -/

/-- Whether only the head of a table definition is left, in which `IF` stands for the name. -/
def isTableStub (ahead : List TokenKind) : Bool :=
  ahead.dropWhile (· != .keyword .TABLE) == [.keyword .TABLE, .keyword .IF, .lParen]

/-- Whether a query follows the targets of a loop with no token between them. -/
def lacksIn : List Item → Bool
  | node .expression _ :: node .statement _ :: _ => true
  | _ :: rest => lacksIn rest
  | [] => false

mutual

/--
Whether an item holds a table definition or a loop over a query that the input is too short for; `ahead`
are the kinds of the significant tokens from its first one on.
-/
def isCutShort (ahead : List TokenKind) : Item → Bool
  | leaf _ | error _ => false
  | node kind items =>
    (decide (kind = .tableDefinition) && isTableStub ahead)
      || (decide (kind = .loopStatement) && lacksIn items) || areCutShort ahead items

/-- Whether one of several items holds such a table definition or loop. -/
def areCutShort (ahead : List TokenKind) : List Item → Bool
  | [] => false
  | x :: xs => x.isCutShort ahead || areCutShort (ahead.drop x.leaves) xs

end

lemma lacksIn_append (xs : List Item) {ys : List Item} (h : lacksIn ys = true) :
    lacksIn (xs ++ ys) = true := by
  induction xs with
  | nil => exact h
  | cons x xs ih =>
    rw [List.cons_append]
    unfold lacksIn
    split
    · rfl
    · next heq =>
      obtain ⟨-, rfl⟩ := List.cons.inj heq
      exact ih
    · next heq => exact absurd heq (by simp)

@[simp] lemma areCutShort_append (ahead : List TokenKind) (xs ys : List Item) :
    areCutShort ahead (xs ++ ys)
      = (areCutShort ahead xs || areCutShort (ahead.drop (leavesOf xs)) ys) := by
  induction xs generalizing ahead with
  | nil => simp [areCutShort, leavesOf]
  | cons x xs ih => simp [areCutShort, leavesOf, ih, Bool.or_assoc]

@[simp] lemma areCutShort_map_leaf (ahead : List TokenKind) (roles : List LeafRole) :
    areCutShort ahead (roles.map leaf) = false := by
  induction roles generalizing ahead with
  | nil => rfl
  | cons role roles ih => simp [areCutShort, isCutShort, ih]

end Item
end SqlLayout.Grammar
