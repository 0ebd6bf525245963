import SqlLayout.Layout.Measure
import SqlLayout.Layout.Buffer
import SqlLayout.Proofs.Text.Solid

/-!
# What a line buffer shows

`Written sh t ids open` says that the text `t` is made of the leaves and comments `ids`, in this order,
with gaps of spaces and line feeds around them; `open` says that the last of them is a line comment and
that no line feed follows it. A buffer shows parts of a tree if its text is written from them, and if it
demands a line break whenever its last line ends in a line comment. Each operation on buffers keeps this,
and appending a piece adds what the piece shows.
-/

namespace SqlLayout

open Text (Solid)

/-- Leaves and comments, each in the order in which they are written. -/
structure Parts where
  leaves : List Nat := []
  comments : List Nat := []

namespace Parts

instance : Append Parts where
  append p q := ⟨p.leaves ++ q.leaves, p.comments ++ q.comments⟩

lemma append_eq (p q : Parts) : p ++ q = ⟨p.leaves ++ q.leaves, p.comments ++ q.comments⟩ := rfl

@[simp] lemma append_empty (p : Parts) : p ++ ({} : Parts) = p := by
  simp [append_eq]

@[simp] lemma empty_append (p : Parts) : ({} : Parts) ++ p = p := rfl

@[simp] lemma append_assoc (p q r : Parts) : p ++ q ++ r = p ++ (q ++ r) := by
  simp [append_eq]

/-- Leaves and comments can be written in any order among each other. -/
lemma append_comm {p q : Parts} (hp : p.comments = []) (hq : q.leaves = []) : p ++ q = q ++ p := by
  simp [append_eq, hp, hq]

end Parts

/-! ### The text of a buffer -/

namespace LineBuffer

variable (b : LineBuffer)

/-- The text of a buffer from the column at which it starts. -/
def body : Text :=
  b.finished.reverse.flatMap (· ++ ['\n']) ++ b.current

lemma text_eq : b.text = Text.spaces b.start ++ b.body := by
  have join_concat (lines : List Text) (last : Text) :
      Text.join ['\n'] (lines ++ [last]) = lines.flatMap (· ++ ['\n']) ++ last := by
    induction lines with
    | nil => rfl
    | cons line lines ih =>
      rw [List.cons_append, Text.join_cons _ _ (by simp), ih]
      simp
  rw [text, lines, join_concat, body]

lemma body_newlineAt (column : Nat) : (b.newlineAt column).body
    = b.finished.reverse.flatMap (· ++ ['\n']) ++ Text.trimEnd b.current ++ ['\n']
      ++ Text.spaces column := by
  simp [body, newlineAt]

lemma body_setLast (token : Option Nat) : (b.setLast token).body = b.body := rfl

lemma body_forceBreak : b.forceBreak.body = b.body := rfl

lemma body_write (text : Text) (width : Nat) : (b.write text width).body = b.body ++ text := by
  simp [body, write]

lemma body_pushLine (text : Text) : (b.pushLine text).body = b.body ++ ['\n'] ++ text := by
  simp [body, pushLine]

lemma body_pushSpace : ∃ n, b.pushSpace.body = b.body ++ Text.spaces n := by
  unfold pushSpace
  split
  · exact ⟨0, by simp [Text.spaces]⟩
  · exact ⟨1, by simp [body, write, Text.spaces]⟩

lemma body_padTo (column : Nat) :
    ∃ n, (b.padTo column).body = b.body ++ Text.spaces n := by
  unfold padTo
  split
  · exact ⟨column - b.column, by simp [body]⟩
  · exact ⟨0, by simp [Text.spaces]⟩

lemma body_appendBuffer (other : LineBuffer) : (b.appendBuffer other).body = b.body ++ other.body := by
  unfold appendBuffer body
  cases h : other.finished.reverse with
  | nil => simp
  | cons first middle => simp

lemma body_pushVerbatim (text : Text) :
    (b.pushVerbatim text).body
      = (if b.pendingBreak then b.newline else b).body ++ Text.join ['\n'] (Text.linesOf text) := by
  have rest (lines : List Text) (b : LineBuffer) :
      (lines.foldl pushLine b).body = b.body ++ lines.flatMap (['\n'] ++ ·) := by
    induction lines generalizing b with
    | nil => simp
    | cons line lines ih => simp [ih, body_pushLine]
  have joined (first : Text) (lines : List Text) :
      Text.join ['\n'] (first :: lines) = first ++ lines.flatMap (['\n'] ++ ·) := by
    induction lines generalizing first with
    | nil => simp [Text.join]
    | cons line lines ih => rw [Text.join_cons _ _ (by simp), ih]; simp
  unfold pushVerbatim
  split
  · next h => exact absurd (List.map_eq_nil_iff.1 h) (Text.pieces_ne_nil _ _)
  · next first lines h =>
    rw [Text.linesOf, h, rest, joined, push, body_write, List.append_assoc]

end LineBuffer

namespace Sheet

variable {sh : Sheet}

/-- Whether a node is a line comment. -/
def isLineComment (sh : Sheet) (id : Nat) : Bool :=
  sh.isComment id && sh.tree.tokens.kind (sh.tree.firstToken id) == .lineComment

/-- A leaf or a comment as it is written. -/
def pieceText (sh : Sheet) (id : Nat) : Text :=
  match sh.tree.kind id with
  | .leaf role => Text.withoutReturns (sh.leafText id role)
  | .comment => Text.withoutReturns (Text.trimEnd (sh.tree.tokens.text (sh.tree.firstToken id)))
  | _ => []

/-- The leaves and the comments of a list of nodes. -/
def partsOf (sh : Sheet) (ids : List Nat) : Parts :=
  ⟨ids.filter sh.isLeaf, ids.filter sh.isComment⟩

lemma partsOf_append (ids ids' : List Nat) :
    sh.partsOf (ids ++ ids') = sh.partsOf ids ++ sh.partsOf ids' := by
  simp [partsOf, Parts.append_eq]

/-! ### Written texts -/

/-- A text is made of leaves and comments with gaps around them. -/
inductive Written (sh : Sheet) : Text → List Nat → Bool → Prop where
  | nil :
    Written sh [] [] false
  | space {t : Text} {ids : List Nat} {d : Bool} :
    Written sh t ids d →
    Written sh (t ++ [' ']) ids d
  | feed {t : Text} {ids : List Nat} {d : Bool} :
    Written sh t ids d →
    Written sh (t ++ ['\n']) ids false
  | piece {t : Text} {ids : List Nat} {id : Nat} :
    Solid (sh.pieceText id) →
    Written sh t ids false →
    Written sh (t ++ sh.pieceText id) (ids ++ [id]) (sh.isLineComment id)

variable {t u : Text} {ids ids' : List Nat} {d d' : Bool}

lemma Written.spaces (h : Written sh t ids d) (n : Nat) : Written sh (t ++ Text.spaces n) ids d := by
  induction n with
  | zero => simpa [Text.spaces] using h
  | succ n ih =>
    rw [Text.spaces, List.replicate_succ', ← List.append_assoc]
    exact .space ih

/-- Texts are written one after the other, unless a line comment is open between them. -/
lemma Written.append (h : Written sh t ids false) (h' : Written sh u ids' d) :
    Written sh (t ++ u) (ids ++ ids') d := by
  induction h' with
  | nil => simpa using h
  | space _ ih =>
    rw [← List.append_assoc]
    exact .space ih
  | feed _ ih =>
    rw [← List.append_assoc]
    exact .feed ih
  | piece hsolid _ ih =>
    rw [← List.append_assoc, ← List.append_assoc]
    exact .piece hsolid ih

lemma append_eq_concat {blanks v : Text} {c : Char} (h : t ++ blanks = v ++ [c]) :
    (blanks = [] ∧ t = v ++ [c]) ∨ ∃ bs, blanks = bs ++ [c] ∧ t ++ bs = v := by
  rcases List.eq_nil_or_concat' blanks with rfl | ⟨bs, b, rfl⟩
  · exact .inl ⟨rfl, by simpa using h⟩
  · rw [← List.append_assoc] at h
    obtain ⟨hfront, hlast⟩ := List.append_inj' h rfl
    obtain rfl : b = c := by simpa using hlast
    exact .inr ⟨bs, rfl, hfront⟩

/-- Blanks at the end are gaps, and can be dropped. -/
lemma Written.trim {blanks : Text} (h : Written sh (t ++ blanks) ids d)
    (hblanks : ∀ c ∈ blanks, Text.isBlank c = true) : ∃ d', Written sh t ids d' := by
  generalize hw : t ++ blanks = w at h
  induction h generalizing t blanks with
  | nil =>
    obtain ⟨rfl, -⟩ := List.append_eq_nil_iff.1 hw
    exact ⟨false, .nil⟩
  | space h ih =>
    obtain ⟨-, rfl⟩ | ⟨bs, rfl, rfl⟩ := append_eq_concat hw
    · exact ⟨_, .space h⟩
    · exact ih (fun c hc => hblanks c (by simp [hc])) rfl
  | feed h ih =>
    obtain ⟨-, rfl⟩ | ⟨bs, rfl, rfl⟩ := append_eq_concat hw
    · exact ⟨_, .feed h⟩
    · exact ih (fun c hc => hblanks c (by simp [hc])) rfl
  | piece hsolid h ih =>
    -- A piece does not end in a blank, so nothing of it is dropped.
    obtain ⟨s, c, hs, hc⟩ := id hsolid
    rw [hs, ← List.append_assoc] at hw
    obtain ⟨-, rfl⟩ | ⟨bs, rfl, -⟩ := append_eq_concat hw
    · rw [List.append_assoc, ← hs]
      exact ⟨_, .piece hsolid h⟩
    · rw [hblanks c (by simp)] at hc
      exact absurd hc (by simp)

lemma Written.trimEnd (h : Written sh (t ++ u) ids d) : ∃ d', Written sh (t ++ Text.trimEnd u) ids d' := by
  obtain ⟨blanks, hu, hblanks⟩ := Text.dropEndWhile_append Text.isBlank u
  rw [hu, ← List.append_assoc] at h
  exact h.trim hblanks

/-- A text without comments has no open line comment. -/
lemma Written.eq_false (h : Written sh t ids d) (hcomments : ids.filter sh.isComment = []) : d = false := by
  induction h with
  | nil => rfl
  | space _ ih => exact ih hcomments
  | feed _ _ => rfl
  | piece _ _ _ =>
    have hlast := List.filter_eq_nil_iff.1 hcomments _ (List.mem_append_right _ (List.mem_singleton_self _))
    simp [isLineComment, hlast]

/-! ### Buffers -/

/-- A buffer shows parts of a tree. -/
def Shows (sh : Sheet) (b : LineBuffer) (parts : Parts) : Prop :=
  ∃ ids d, Written sh b.body ids d ∧ sh.partsOf ids = parts ∧ (d = true → b.pendingBreak = true)

variable {b : LineBuffer} {parts parts' : Parts}

lemma shows_empty (hbody : b.body = []) : Shows sh b {} :=
  ⟨[], false, hbody ▸ .nil, rfl, nofun⟩

/-- A buffer shows parts of a tree, and no line comment is open at its end. -/
def Closed (sh : Sheet) (b : LineBuffer) (parts : Parts) : Prop :=
  ∃ ids, Written sh b.body ids false ∧ sh.partsOf ids = parts

lemma Closed.shows (h : Closed sh b parts) : Shows sh b parts := by
  obtain ⟨ids, hw, hparts⟩ := h
  exact ⟨ids, false, hw, hparts, nofun⟩

/-- Unless a line break is due, no line comment is open. -/
lemma Shows.closed (h : Shows sh b parts) (hbreak : b.pendingBreak = false) : Closed sh b parts := by
  obtain ⟨ids, d, hw, hparts, hd⟩ := h
  cases d with
  | false => exact ⟨ids, hw, hparts⟩
  | true => exact absurd (hd rfl) (by simp [hbreak])

/-- What a buffer shows depends on its text and on whether it demands a line break. -/
lemma Shows.congr {c : LineBuffer} (h : Shows sh b parts) (hbody : c.body = b.body)
    (hbreak : b.pendingBreak = true → c.pendingBreak = true) : Shows sh c parts := by
  obtain ⟨ids, d, hw, hparts, hd⟩ := h
  exact ⟨ids, d, hbody ▸ hw, hparts, fun h => hbreak (hd h)⟩

lemma Shows.spaces {c : LineBuffer} {n : Nat} (h : Shows sh b parts)
    (hbody : c.body = b.body ++ Text.spaces n) (hbreak : c.pendingBreak = b.pendingBreak) :
    Shows sh c parts := by
  obtain ⟨ids, d, hw, hparts, hd⟩ := h
  exact ⟨ids, d, hbody ▸ hw.spaces n, hparts, fun h => hbreak ▸ hd h⟩

lemma Shows.forceBreak (h : Shows sh b parts) : Shows sh b.forceBreak parts :=
  h.congr rfl fun _ => rfl

lemma Shows.setLast (h : Shows sh b parts) (token : Option Nat) : Shows sh (b.setLast token) parts :=
  h.congr rfl fun h => h

/-- A new line trims the line before it and closes a line comment. -/
lemma Shows.newlineAt (h : Shows sh b parts) (column : Nat) : Shows sh (b.newlineAt column) parts := by
  obtain ⟨ids, d, hw, hparts, -⟩ := h
  obtain ⟨d', hw'⟩ := hw.trimEnd
  refine ⟨ids, false, ?_, hparts, nofun⟩
  rw [LineBuffer.body_newlineAt]
  exact (Written.feed hw').spaces column

lemma Shows.newline (h : Shows sh b parts) : Shows sh b.newline parts :=
  h.newlineAt _

lemma Shows.beginLineAt (h : Shows sh b parts) (column : Nat) :
    Shows sh (b.beginLineAt column) parts := by
  unfold LineBuffer.beginLineAt
  split
  · exact h
  · exact h.newlineAt column

lemma Closed.spaces {c : LineBuffer} {n : Nat} (h : Closed sh b parts)
    (hbody : c.body = b.body ++ Text.spaces n) : Closed sh c parts := by
  obtain ⟨ids, hw, hparts⟩ := h
  exact ⟨ids, hbody ▸ hw.spaces n, hparts⟩

lemma Shows.pushSpace (h : Shows sh b parts) : Shows sh b.pushSpace parts := by
  obtain ⟨n, hn⟩ := b.body_pushSpace
  refine h.spaces hn ?_
  unfold LineBuffer.pushSpace
  split <;> rfl

lemma Closed.pushSpace (h : Closed sh b parts) : Closed sh b.pushSpace parts := by
  obtain ⟨n, hn⟩ := b.body_pushSpace
  exact h.spaces hn

lemma Shows.separate (h : Shows sh b parts) (space : Bool) : Shows sh (b.separate space) parts := by
  unfold LineBuffer.separate
  split_ifs
  · exact h.newline
  · exact h.pushSpace
  · exact h

lemma Shows.padTo (h : Shows sh b parts) (column : Nat) : Shows sh (b.padTo column) parts := by
  obtain ⟨n, hn⟩ := b.body_padTo column
  refine h.spaces hn ?_
  unfold LineBuffer.padTo
  split <;> rfl

lemma Closed.padTo (h : Closed sh b parts) (column : Nat) : Closed sh (b.padTo column) parts := by
  obtain ⟨n, hn⟩ := b.body_padTo column
  exact h.spaces hn

lemma Shows.ite {c : Prop} [Decidable c] {b' : LineBuffer} (h : Shows sh b parts)
    (h' : Shows sh b' parts) : Shows sh (if c then b else b') parts := by
  split
  · exact h
  · exact h'

/-! ### Line breaks that are due -/

@[simp] lemma pendingBreak_newline (b : LineBuffer) : b.newline.pendingBreak = false := rfl

@[simp] lemma pendingBreak_beginLineAt (column : Nat) (b : LineBuffer) :
    (b.beginLineAt column).pendingBreak = false := by
  unfold LineBuffer.beginLineAt
  split
  · next h => simp_all
  · rfl

@[simp] lemma pendingBreak_pushSpace (b : LineBuffer) : b.pushSpace.pendingBreak = b.pendingBreak := by
  unfold LineBuffer.pushSpace
  split <;> rfl

@[simp] lemma pendingBreak_padTo (column : Nat) (b : LineBuffer) :
    (b.padTo column).pendingBreak = b.pendingBreak := by
  unfold LineBuffer.padTo
  split <;> rfl

@[simp] lemma pendingBreak_separate (space : Bool) (b : LineBuffer) :
    (b.separate space).pendingBreak = false := by
  unfold LineBuffer.separate
  split_ifs with h hspace
  · rfl
  · simpa using h
  · simpa using h

/-! ### Pieces -/

/-- Writing a leaf or a comment adds it, unless a line break is due. -/
lemma Shows.piece {c : LineBuffer} {id : Nat} (h : Shows sh b parts) (hbreak : b.pendingBreak = false)
    (hsolid : Solid (sh.pieceText id)) (hbody : c.body = b.body ++ sh.pieceText id)
    (hline : sh.isLineComment id = true → c.pendingBreak = true) :
    Shows sh c (parts ++ sh.partsOf [id]) := by
  obtain ⟨ids, hw, rfl⟩ := h.closed hbreak
  exact ⟨ids ++ [id], _, hbody ▸ .piece hsolid hw, partsOf_append ids [id], hline⟩

/-- A piece shows parts of a tree. -/
def Shown (sh : Sheet) (piece : Piece) (parts : Parts) : Prop :=
  match piece with
  | .fragment _ text _ => ∃ ids, Written sh text ids false ∧ sh.partsOf ids = parts
  | .lines b => Shows sh b parts

/-- What a piece adds to a buffer; an open line comment makes a line break due. -/
lemma Shown.written {piece : Piece} (h : Shown sh piece parts) (b : LineBuffer) :
    ∃ text ids d, (b.append piece).body = b.body ++ text ∧ Written sh text ids d ∧ sh.partsOf ids = parts
      ∧ (d = true → (b.append piece).pendingBreak = true) := by
  cases piece with
  | fragment start text last =>
    obtain ⟨ids, hw, hparts⟩ := h
    exact ⟨text, ids, false, b.body_write text (Text.width text), hw, hparts, nofun⟩
  | lines other =>
    obtain ⟨ids, d, hw, hparts, hd⟩ := h
    exact ⟨other.body, ids, d, b.body_appendBuffer other, hw, hparts, hd⟩

/-- Appending a piece adds what it shows, unless a line comment is open. -/
lemma Closed.append (h : Closed sh b parts) {piece : Piece} (hpiece : Shown sh piece parts') :
    Shows sh (b.append piece) (parts ++ parts') := by
  obtain ⟨ids, hw, rfl⟩ := h
  obtain ⟨text, ids', d', hbody, hw', rfl, hd'⟩ := hpiece.written b
  exact ⟨ids ++ ids', d', hbody ▸ hw.append hw', partsOf_append ids ids', hd'⟩

/-- A piece without comments leaves no line comment open. -/
lemma Closed.append_of_comments (h : Closed sh b parts) {piece : Piece} (hpiece : Shown sh piece parts')
    (hcomments : parts'.comments = []) : Closed sh (b.append piece) (parts ++ parts') := by
  obtain ⟨ids, hw, rfl⟩ := h
  obtain ⟨text, ids', d', hbody, hw', rfl, -⟩ := hpiece.written b
  obtain rfl := hw'.eq_false hcomments
  exact ⟨ids ++ ids', hbody ▸ hw.append hw', partsOf_append ids ids'⟩

end Sheet
end SqlLayout
