import Mathlib.Algebra.GroupWithZero.Nat
import SqlLayout.Layout.Engine
import SqlLayout.Proofs.Layout.Ensures
import SqlLayout.Proofs.Text.Size

/-!
# Room for columns

How far right a layout can get is bounded beforehand: by the width of a line, and by what all nodes write
and how far their children may be moved for them. A layout that has this much room below the bounds of
columns stops for no fault.
-/

namespace SqlLayout

open Text (byteLength)

/-- The offset to which parts are moved however short the declarations are. -/
def ColumnAlignment.least : ColumnAlignment → Nat
  | subsequent => 0
  | fixed column => column
  | vertical low _ _ => low

namespace Sheet

variable (sh : Sheet)

/-! ### Room of nodes -/

/-- The comment before an error node. -/
def errorNote (id : Nat) : Text :=
  errorMark.toList ++ [' ']
    ++ partCommentEnds ((sh.tree.error? id).elim "invalid input".toList SyntaxError.message) ++ " */ ".toList

/-- What a node writes besides its children. -/
def ownText (id : Nat) : Text :=
  match sh.tree.kind id with
  | .leaf role => sh.leafText id role
  | .comment => sh.tree.tokens.text (sh.tree.firstToken id)
  | .error _ => sh.errorNote id ++ sh.tree.sourceText id
  | _ => []

/-- Columns of the parts of a declaration on one line, with a space after each. -/
def partsWidth (id : Nat) : Nat :=
  ((sh.visibleChildren id).map fun child => sh.measured child + 1).sum

/-- The largest `partsWidth` of a node. -/
def widestParts : Nat :=
  ((List.range sh.tree.size).map sh.partsWidth).foldr max 0

/-- The largest of the offsets to which the policy moves parts in any case. -/
def leastOffset : Nat :=
  (alignedRoles.map fun role => (sh.policy.arguments.forRole role).least).foldr max 0

/-- Offsets of parts of declarations are no larger. -/
def farthestOffset : Nat :=
  sh.leastOffset + 4 * sh.widestParts

/-- How far a node moves its children, from its own column or that of the surrounding construct. -/
def reach : Nat :=
  2 * sh.indent + sh.farthestOffset + sh.widestParts + 4

/-- Columns for a node besides those for its children. -/
def ownRoom (id : Nat) : Nat :=
  3 * byteLength (sh.ownText id) + 2 * sh.reach

/-- Columns for a node and all nodes below it, each with four around it. -/
def room (id : Nat) : Nat :=
  ((sh.tree.preorder id).map fun n => sh.ownRoom n + 4).sum

/-- Columns for nodes one after the other. -/
def rooms (ids : List Nat) : Nat :=
  (ids.map sh.room).sum

/-- Columns for a node and for those of its children that are laid out. -/
def pieceRoom (id : Nat) : Nat :=
  sh.ownRoom id + sh.rooms (sh.visibleChildren id)

/-- Whether a node is no keyword `THEN`. -/
def isNoThen (id : Nat) : Bool :=
  !sh.tree.isLeafOf id (.keyword .THEN)

/-- Columns for a branch up to `THEN`. -/
def headRoom (id : Nat) : Nat :=
  sh.reach + sh.rooms ((sh.visibleChildren id).takeWhile sh.isNoThen)

/-- Columns for a branch from `THEN` on. -/
def resultRoom (id : Nat) : Nat :=
  sh.reach + sh.rooms ((sh.visibleChildren id).dropWhile sh.isNoThen)

/-- Below the bounds of columns there is room for a line and for all nodes of the tree. -/
def HasSpace : Prop :=
  2 * (sh.lineWidth + sh.room sh.tree.root) < Text.sizeBound

instance : Decidable sh.HasSpace :=
  inferInstanceAs (Decidable (2 * (sh.lineWidth + sh.room sh.tree.root) < Text.sizeBound))

variable {sh : Sheet} {id : Nat}

@[simp] lemma rooms_nil : sh.rooms [] = 0 := rfl

@[simp] lemma rooms_cons (id : Nat) (ids : List Nat) : sh.rooms (id :: ids) = sh.room id + sh.rooms ids := rfl

@[simp] lemma rooms_toList_none : sh.rooms (none : Option Nat).toList = 0 := rfl

@[simp] lemma rooms_toList_some (id : Nat) : sh.rooms (some id).toList = sh.room id := rfl

@[simp] lemma rooms_append (ids ids' : List Nat) : sh.rooms (ids ++ ids') = sh.rooms ids + sh.rooms ids' := by
  simp [rooms]

lemma rooms_le_of_sublist {ids ids' : List Nat} (h : ids.Sublist ids') : sh.rooms ids ≤ sh.rooms ids' := by
  induction h with
  | slnil => exact Nat.le_refl _
  | cons id _ ih => exact ih.trans (Nat.le_add_left _ _)
  | cons_cons id _ ih => exact Nat.add_le_add_left ih _

/-- There is room for four columns around a node. -/
lemma pieceRoom_add_le_room (ht : sh.tree.Ordered) (id : Nat) : sh.pieceRoom id + 4 ≤ sh.room id := by
  have hchildren (ids : List Nat) :
      ((ids.flatMap sh.tree.preorder).map fun n => sh.ownRoom n + 4).sum = sh.rooms ids := by
    induction ids with
    | nil => rfl
    | cons id ids ih => rw [List.flatMap_cons, List.map_append, List.sum_append, ih, rooms_cons, room]
  have hvisible : sh.rooms (sh.visibleChildren id) ≤ sh.rooms (sh.tree.children id) :=
    rooms_le_of_sublist List.filter_sublist
  rw [room, Tree.preorder_eq ht, List.map_cons, List.sum_cons, hchildren, pieceRoom]
  omega

/-- The room of a branch is that of its parts up to `THEN` and from there on. -/
lemma headRoom_add_resultRoom (hkind : sh.tree.kind id = .whenBranch) :
    sh.headRoom id + sh.resultRoom id = sh.pieceRoom id := by
  have hsplit : sh.rooms ((sh.visibleChildren id).takeWhile sh.isNoThen)
      + sh.rooms ((sh.visibleChildren id).dropWhile sh.isNoThen) = sh.rooms (sh.visibleChildren id) := by
    rw [← rooms_append, List.takeWhile_append_dropWhile]
  have hown : sh.ownRoom id = 2 * sh.reach := by simp [ownRoom, ownText, hkind]
  rw [headRoom, resultRoom, pieceRoom, hown]
  omega

end Sheet

/-! ### Bounds of buffers -/

namespace LineBuffer

/-- Column at which the text of the current line starts. -/
def margin (b : LineBuffer) : Nat :=
  if b.finished = [] then b.start else 0

/--
A buffer that started at a column and has got no further right than a bound. Its current line has no more
bytes than columns, but for some that are spare.
-/
structure Reaches (start right spare : Nat) (b : LineBuffer) : Prop where
  start_eq : b.start = start
  column : b.column ≤ right
  width : b.width ≤ right
  start_le : b.start ≤ b.width
  bytes : byteLength b.current + b.margin ≤ b.column + spare
  reached : b.finished = [] → b.column ≤ b.width

/-- A buffer under construction, whose further lines are not indented too far either. -/
structure InRoom (start right spare : Nat) (b : LineBuffer) : Prop extends b.Reaches start right spare where
  indent : b.lineIndent ≤ right

end LineBuffer

/-- A piece that starts at a column and gets no further right than a bound. -/
inductive Piece.InRoom (start right spare : Nat) : Piece → Prop where
  | fragment {text : Text} {last : Option Nat} :
    start + Text.width text ≤ right →
    byteLength text ≤ spare →
    InRoom start right spare (.fragment start text last)
  | lines {b : LineBuffer} :
    b.Reaches start right spare →
    InRoom start right spare (.lines b)

lemma Piece.InRoom.endColumn_le {start right spare : Nat} {piece : Piece} (h : piece.InRoom start right spare) :
    piece.endColumn ≤ right := by
  cases h with
  | fragment hwidth => exact hwidth
  | lines h => exact h.column

/-- A piece that has just been laid out. -/
structure Piece.New (start right spare : Nat) (piece : Piece) : Prop where
  inRoom : piece.InRoom start right spare
  fault? : piece.fault? = none

namespace LineBuffer

variable {start right right' spare spare' column indent : Nat} {b : LineBuffer} {text : Text}

lemma Reaches.mono (h : b.Reaches start right spare) (hright : right ≤ right') (hspare : spare ≤ spare') :
    b.Reaches start right' spare' where
  start_eq := h.start_eq
  column := h.column.trans hright
  width := h.width.trans hright
  start_le := h.start_le
  bytes := h.bytes.trans (Nat.add_le_add_left hspare _)
  reached := h.reached

namespace InRoom

lemma mono (h : b.InRoom start right spare) (hright : right ≤ right') (hspare : spare ≤ spare') :
    b.InRoom start right' spare' :=
  ⟨h.toReaches.mono hright hspare, h.indent.trans hright⟩

lemma further (h : b.InRoom start right spare) (more : Nat) : b.InRoom start (right + more) spare :=
  h.mono (Nat.le_add_right _ _) (Nat.le_refl _)

lemma startingAt (hstart : start ≤ right) (hindent : indent ≤ right) (spare : Nat) :
    InRoom start right spare { LineBuffer.startingAt start with indentBase := indent } where
  start_eq := rfl
  column := hstart
  width := hstart
  start_le := Nat.le_refl _
  bytes := by
    show 0 + start ≤ start + spare
    omega
  reached _ := Nat.le_refl _
  indent := hindent

/-- A new line has as many bytes as columns. -/
lemma newlineAt (h : b.InRoom start right spare) (hcolumn : column ≤ right) :
    (b.newlineAt column).InRoom start right spare' where
  start_eq := h.start_eq
  column := hcolumn
  width := h.width
  start_le := h.start_le
  bytes := by
    show byteLength (Text.spaces column) + 0 ≤ column + spare'
    rw [Text.byteLength_spaces]
    omega
  reached h := absurd h (List.cons_ne_nil _ _)
  indent := h.indent

lemma newline (h : b.InRoom start right spare) : b.newline.InRoom start right spare' :=
  h.newlineAt h.indent

lemma beginLineAt (h : b.InRoom start right spare) (hcolumn : column ≤ right) :
    (b.beginLineAt column).InRoom start right spare := by
  unfold LineBuffer.beginLineAt
  split
  · exact h
  · exact h.newlineAt hcolumn

lemma setLast (h : b.InRoom start right spare) (token : Option Nat) :
    (b.setLast token).InRoom start right spare :=
  ⟨⟨h.start_eq, h.column, h.width, h.start_le, h.bytes, h.reached⟩, h.indent⟩

lemma forceBreak (h : b.InRoom start right spare) : b.forceBreak.InRoom start right spare :=
  ⟨⟨h.start_eq, h.column, h.width, h.start_le, h.bytes, h.reached⟩, h.indent⟩

/-! ### Writing -/

/-- What is written moves the cursor by its width and adds its bytes. -/
lemma write (h : b.InRoom start right spare) {width : Nat} (hright : b.column + width ≤ right')
    (hle : right ≤ right') (hspare : byteLength text + spare ≤ width + spare') :
    (b.write text width).InRoom start right' spare' where
  start_eq := h.start_eq
  column := hright
  width := max_le (h.width.trans hle) hright
  start_le := h.start_le.trans (le_max_left _ _)
  bytes := by
    have hbytes := h.bytes
    show byteLength (b.current ++ text) + b.margin ≤ b.column + width + spare'
    rw [Text.byteLength_append]
    omega
  reached _ := le_max_right _ _
  indent := h.indent.trans hle

lemma writeText (h : b.InRoom start right spare) (text : Text) :
    (b.write text (Text.width text)).InRoom start (right + 3 * byteLength text) (spare + byteLength text) := by
  have hwidth := Text.width_le text
  have hcolumn := h.column
  exact h.write (by omega) (by omega) (by omega)

lemma pushSpace (h : b.InRoom start right spare) : b.pushSpace.InRoom start (right + 1) spare := by
  unfold LineBuffer.pushSpace
  split
  · exact h.further 1
  · have hwritten : (b.write [' '] 1).InRoom start (right + 1) spare :=
      h.write (Nat.add_le_add_right h.column 1) (Nat.le_succ _) (Nat.le_refl _)
    exact ⟨⟨hwritten.start_eq, hwritten.column, hwritten.width, hwritten.start_le, hwritten.bytes,
      hwritten.reached⟩, hwritten.indent⟩

lemma separate (h : b.InRoom start right spare) (space : Bool) :
    (b.separate space).InRoom start (right + 1) spare := by
  unfold LineBuffer.separate
  split
  · exact h.newline.further 1
  · split
    · exact h.pushSpace
    · exact h.further 1

lemma padTo (h : b.InRoom start right spare) (hcolumn : column ≤ right) :
    (b.padTo column).InRoom start right spare := by
  unfold LineBuffer.padTo
  split
  · next hlt =>
    refine ⟨⟨h.start_eq, hcolumn, max_le h.width hcolumn, h.start_le.trans (le_max_left _ _), ?_,
      fun _ => le_max_right _ _⟩, h.indent⟩
    have hbytes := h.bytes
    show byteLength (b.current ++ Text.spaces (column - b.column)) + b.margin ≤ column + spare
    rw [Text.byteLength_append, Text.byteLength_spaces]
    omega
  · exact h

lemma push (h : b.InRoom start right spare) (text : Text) :
    (b.push text).InRoom start (right + 3 * byteLength text) (spare + byteLength text) := by
  unfold LineBuffer.push
  split
  · exact h.newline.writeText text
  · exact h.writeText text

/-- A line that is kept as it stands needs room for itself only. -/
lemma pushLine (h : b.InRoom start right spare) (hright : 3 * byteLength text ≤ right)
    (hspare : byteLength text ≤ spare) : (b.pushLine text).InRoom start right spare where
  start_eq := h.start_eq
  column := (Text.width_le text).trans hright
  width := max_le h.width ((Text.width_le text).trans hright)
  start_le := h.start_le.trans (le_max_left _ _)
  bytes := by
    show byteLength text + 0 ≤ Text.width text + spare
    omega
  reached h := absurd h (List.cons_ne_nil _ _)
  indent := h.indent

lemma pushVerbatim (h : b.InRoom start right spare) (text : Text) :
    (b.pushVerbatim text).InRoom start (right + 3 * byteLength text) (spare + byteLength text) := by
  have hlines : ∀ line ∈ (Text.pieces '\n' text).map (Text.dropEndWhile (· == '\r')),
      byteLength line ≤ byteLength text := by
    intro line hline
    obtain ⟨piece, hpiece, rfl⟩ := List.mem_map.1 hline
    exact (Text.byteLength_dropEndWhile_le _ piece).trans (Text.byteLength_le_of_mem_pieces hpiece)
  unfold LineBuffer.pushVerbatim
  split
  · exact h.mono (Nat.le_add_right _ _) (Nat.le_add_right _ _)
  · next first rest heq =>
    rw [heq] at hlines
    have hfirst := hlines first (by simp)
    have hpushed : (b.push first).InRoom start (right + 3 * byteLength text) (spare + byteLength text) :=
      (h.push first).mono (by omega) (by omega)
    have hrest : ∀ line ∈ rest, byteLength line ≤ byteLength text :=
      fun line hline => hlines line (by simp [hline])
    generalize b.push first = pushed at hpushed
    clear heq hlines
    induction rest generalizing pushed with
    | nil => exact hpushed
    | cons line rest ih =>
      have hline := hrest line (by simp)
      exact ih (fun l hl => hrest l (by simp [hl])) _ (hpushed.pushLine (by omega) (by omega))

/-! ### Pieces -/

/-- The bytes of a piece of one line come to those of the line to which it is appended. -/
lemma append {piece : Piece} {more : Nat} (h : b.InRoom start right spare)
    (hpiece : piece.InRoom b.column right' more) (hle : right ≤ right') :
    (b.append piece).InRoom start right' (spare + more) := by
  cases hpiece with
  | fragment hwidth hbytes => exact (h.write hwidth hle (by omega)).setLast _
  | @lines other hother =>
    obtain ⟨hstart, hcolumn, hwidth, -, hbytes, hreached⟩ := hother
    have hb := h.bytes
    have hmax : max b.width other.width ≤ right' := max_le (h.width.trans hle) hwidth
    have hstartle : b.start ≤ max b.width other.width := h.start_le.trans (le_max_left _ _)
    cases hfinished : other.finished.reverse with
    | nil =>
      have hnil : other.finished = [] := List.reverse_eq_nil_iff.1 hfinished
      simp only [LineBuffer.append, appendBuffer, hfinished]
      refine ⟨⟨h.start_eq, hcolumn, hmax, hstartle, ?_, fun _ => (hreached hnil).trans (le_max_right _ _)⟩,
        h.indent.trans hle⟩
      show byteLength (b.current ++ other.current) + b.margin ≤ other.column + (spare + more)
      rw [margin, if_pos hnil, hstart] at hbytes
      rw [Text.byteLength_append]
      omega
    | cons first middle =>
      have hcons : other.finished ≠ [] := by
        intro hnil
        rw [hnil] at hfinished
        contradiction
      simp only [LineBuffer.append, appendBuffer, hfinished]
      refine ⟨⟨h.start_eq, hcolumn, hmax, hstartle, ?_, by simp⟩, h.indent.trans hle⟩
      rw [margin, if_neg hcons] at hbytes
      rw [margin, if_neg (by simp)]
      show byteLength other.current + 0 ≤ other.column + (spare + more)
      omega

/-- A finished buffer within bounds has no fault. -/
lemma new (h : b.InRoom start right spare) (hright : 2 * right < Text.sizeBound) :
    (Piece.lines b).New start right spare := by
  refine ⟨.lines h.toReaches, ?_⟩
  have hindent := h.indent
  have hwidth := h.width
  have hbounds : Text.sizeBound ≤ Number.wordBound := by decide
  rw [Piece.fault?, if_neg (by omega), if_neg (by omega)]

end InRoom
end LineBuffer
end SqlLayout
