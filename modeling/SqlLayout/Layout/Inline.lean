import SqlLayout.Layout.Cache
import SqlLayout.Layout.Fault
import SqlLayout.Layout.Measure

/-!
# Laying out a node on one line

A layout reads and fills a cache of pieces. The renderers of the single kinds of nodes get the layout of
children as an argument, `RenderIn`, and put the pieces together in a line buffer. This module holds what
they share: appending a child or a comment, and the form of a node on one line.

The program lays out with columns that are words, and stops for a fault of theirs. Renderers are written
for any kind of computation, so that what they do can also be said of columns without bounds.
-/

namespace SqlLayout

/--
A computation that reads and fills a cache of pieces, kept under the policy they were made by. Its
columns have no bounds.
-/
abbrev Layout := StateM (Cache Policy)

/-- The same with bounded columns: a fault ends it. -/
abbrev BoundedLayout := StateT (Cache Policy) (Except LayoutFault)

/-- How a computation takes a fault of its columns. -/
class Faulting (m : Type → Type) where
  /-- Stops for a fault, if there is one and columns are bounded. -/
  stopFor : Option LayoutFault → m Unit

instance : Faulting Layout where
  stopFor _ := pure ()

/-- Without bounds of columns nothing stops. -/
@[simp] theorem stopFor_bind {α : Type} (fault? : Option LayoutFault) (next : Unit → Layout α) :
    (Faulting.stopFor fault? >>= next : Layout α) = next () := rfl

instance : Faulting BoundedLayout where
  stopFor
    | none => pure ()
    | some fault => throw fault

/-- The layout of a node in a context from a column on. -/
abbrev RenderIn (m : Type → Type) := (node : Nat) → Context → (column : Nat) → m Piece

/-- The layout of a node with columns that have no bounds. -/
abbrev Render := RenderIn Layout

/-- The members of a list, each with those after it. -/
def withRest {α : Type} : List α → List (α × List α)
  | [] => []
  | a :: rest => (a, rest) :: withRest rest

/-- A member of a list comes with members of it. -/
theorem mem_of_mem_withRest {α : Type} {xs : List α} {x : α × List α} (h : x ∈ withRest xs) :
    x.1 ∈ xs ∧ ∀ y ∈ x.2, y ∈ xs := by
  induction xs with
  | nil => simp [withRest] at h
  | cons a xs ih =>
    rcases List.mem_cons.1 h with rfl | h
    · exact ⟨by simp, fun y hy => by simp [hy]⟩
    · obtain ⟨hx, hrest⟩ := ih h
      exact ⟨by simp [hx], fun y hy => by simp [hrest y hy]⟩

namespace Sheet

variable {m : Type → Type} [Monad m] (sh : Sheet) (render : RenderIn m)

/--
Appends a comment. One that started a line starts one again; one that also ended it, and every line
comment, ends the line. Any other stays on the line of the token before it.
-/
def appendComment (id : Nat) (buf : LineBuffer) : LineBuffer :=
  if sh.policy.removeComments then buf
  else
    let ts := sh.tree.tokens
    let i := sh.tree.firstToken id
    let ownLine := ts.startsLine i
    let buf :=
      if buf.pendingBreak || (ownLine && !buf.fresh) then buf.newline
      else buf.separate (buf.last.any fun previous => ts.spaceBetween previous i)
    let buf := (buf.pushVerbatim (Text.trimEnd (ts.text i))).setLast (some i)
    if ts.kind i == .lineComment || (ownLine && ts.endsLine i) then buf.forceBreak else buf

/-- Lays a node out at the cursor and appends it. -/
def appendHere (id : Nat) (ctx : Context) (buf : LineBuffer) : m LineBuffer := do
  let piece ← render id ctx buf.column
  return buf.append piece

/-- Whether a space separates a child from what has been written. -/
def spaceAfterLast (parent : NodeKind) (child : Nat) (buf : LineBuffer) : Bool :=
  buf.last.any fun previous => sh.spaceBefore parent previous child

/-- Appends a child of a node at the cursor, after a space where the tokens call for one. -/
def appendChild (parent : NodeKind) (child : Nat) (ctx : Context) (buf : LineBuffer) :
    m LineBuffer :=
  if sh.isComment child then return sh.appendComment child buf
  else appendHere render child ctx (buf.separate (sh.spaceAfterLast parent child buf))

/-- Appends several children in one context. -/
def appendChildren (parent : NodeKind) (children : List Nat) (ctx : Context) (buf : LineBuffer) :
    m LineBuffer :=
  children.foldlM (fun buf child => sh.appendChild render parent child ctx buf) buf

/-- All children of a node one after the other, each told what follows it. -/
def inline (id : Nat) (ctx : Context) (column : Nat) : m Piece := do
  let kind := sh.tree.kind id
  let overlay : Overlay := if kind = .caseOf then .caseBranch .linear none else .none
  let buf ← (withRest (sh.visibleChildren id)).foldlM
    (fun buf (child, rest) =>
      let trailing := sh.suffixWidth kind ctx.trailing child rest
      sh.appendChild render kind child
        { Context.child ctx.indent trailing with overlay := overlay } buf)
    (LineBuffer.startingAt column)
  return .lines buf

/-- The node on one line, if it has a width, may stand here, and comes out on one line. -/
def singleLine? (id : Nat) (ctx : Context) (column : Nat) : m (Option Piece) := do
  match sh.measure id with
  | none => return none
  | some width =>
    if sh.singleLineAllowed id width column ctx.trailing then
      let piece ← sh.inline render id ctx column
      return if piece.isSingleLine then some piece else none
    else return none

/-- The node on one line if it can be, and else the given layout. -/
def onOneLineOr (broken : m LineBuffer) (id : Nat) (ctx : Context) (column : Nat) :
    m Piece := do
  match ← sh.singleLine? render id ctx column with
  | some piece => return piece
  | none => return .lines (← broken)

end Sheet
end SqlLayout
