import SqlLayout.Text.Basic
import SqlLayout.Text.Ligature

/-!
# Display width

The number of terminal cells that a text takes. A text is measured from its end: what follows a character
decides whether the character joins it, as part of an emoji or of a ligature, or stands on its own.
A carriage return directly before a line feed takes no cell.
-/

namespace SqlLayout.Text

/-- The start of a text, as far as the character before it can join it. -/
inductive Tail where
  | plain
  | lineFeed
  | ligature (l : Ligature)
  | emoji (run : EmojiRun)
  deriving DecidableEq

namespace Tail

/-- The tail that a character makes on its own. -/
def ofChar (c : Char) : Tail :=
  match Ligature.start? c with
  | some l => .ligature l
  | none =>
    match EmojiRun.start? c with
    | some run => .emoji run
    | none => .plain

/-- Whether the tail starts with an open ligature. -/
def isLigature : Tail → Bool
  | ligature _ => true
  | _ => false

/-- Whether the tail starts with a joiner that ties an emoji to what stands before it. -/
def isTied : Tail → Bool
  | emoji run => run.isTied
  | _ => false

/-- The character before a tail that joins it, as the cells that it adds and the new tail. -/
def extend? (tail : Tail) (c : Char) : Option (Int × Tail) :=
  match tail with
  | .ligature l => (l.extend? c).map fun (cells, rest) => (cells, rest.elim .plain .ligature)
  | .emoji run => (run.extend? c).map fun (cells, longer) => (cells, .emoji longer)
  | _ => none

end Tail

/-- What stands after a character, as far as its width depends on it. -/
structure Follow where
  tail : Tail := .plain
  /-- A variation selector asks for the emoji style of the character. -/
  emojiStyle : Bool := false
  /-- A variation selector asks for the text style of the character. -/
  textStyle : Bool := false
  deriving DecidableEq

namespace Follow

/-- A variation selector for the emoji style is put in front; it keeps ligatures and tied emoji. -/
def askEmoji (next : Follow) : Follow :=
  if next.tail.isLigature then { next with emojiStyle := true }
  else if next.tail.isTied then { tail := next.tail, emojiStyle := true }
  else { emojiStyle := true }

/-- A variation selector for the text style is put in front; it keeps ligatures. -/
def askText (next : Follow) : Follow :=
  if next.tail.isLigature then { next with textStyle := true } else { textStyle := true }

/-- The emoji style is not for the character before it. -/
def dropEmoji (next : Follow) : Follow :=
  if !next.emojiStyle then next
  else if next.tail.isLigature then { next with emojiStyle := false }
  else {}

/-- Cells that a character adds before what follows it, and what the character before it meets. -/
def add (c : Char) (next : Follow) : Int × Follow :=
  if next.emojiStyle && hasEmojiStyle c then
    (if next.tail.isTied then 0 else 2, { tail := .emoji .emoji })
  else if c = '\n' then (0, { tail := .lineFeed })
  else if c.toNat ≤ 0xA0 then (if c = '\r' ∧ next = { tail := .lineFeed } then 0 else 1, {})
  else
    let next := next.dropEmoji
    if c = '\uFE0F' then (0, next.askEmoji)
    else if c = '\uFE0E' then (0, next.askText)
    else if next.textStyle && hasTextStyle c then (1, {})
    else
      match next.tail.extend? c with
      | some (cells, tail) => (cells, { tail := tail })
      | none => (charWidth c, { tail := .ofChar c })

end Follow

/-- Cells of a text with one more character in front, and what the longer text is for the one before. -/
def consCells (c : Char) (rest : Int × Follow) : Int × Follow :=
  let (own, follow) := rest.2.add c
  (own + rest.1, follow)

/-- Cells of a text, and what the text is for a character before it. -/
def cells (t : Text) : Int × Follow :=
  t.foldr consCells (0, {})

/-- Cells taken by a text. -/
def width (t : Text) : Nat :=
  (cells t).1.toNat

/-! ### Printable ASCII -/

/-- Printable ASCII characters: the space and what has a mark of its own. -/
def isPrintableAscii (c : Char) : Bool :=
  0x20 ≤ c.toNat && c.toNat ≤ 0x7E

/-- A printable ASCII character before plain text takes one cell and is plain itself. -/
theorem Follow.add_of_isPrintableAscii {c : Char} (h : isPrintableAscii c) :
    Follow.add c {} = (1, {}) := by
  simp only [isPrintableAscii, Bool.and_eq_true, decide_eq_true_eq] at h
  have low : c.toNat ≤ 0xA0 := by omega
  have feed : c ≠ '\n' := by
    rintro rfl
    exact absurd h.1 (by decide)
  simp [Follow.add, feed, low]

/-- Printable ASCII text is plain and takes one cell a character. -/
theorem cells_of_isPrintableAscii {t : Text} (h : ∀ c ∈ t, isPrintableAscii c) :
    cells t = ((t.length : Int), {}) := by
  induction t with
  | nil => rfl
  | cons c rest ih =>
    have tail := ih fun d hd => h d (List.mem_cons_of_mem c hd)
    rw [cells] at tail ⊢
    rw [List.foldr_cons, tail, consCells, Follow.add_of_isPrintableAscii (h c List.mem_cons_self)]
    simp [Int.add_comm]

/-- Printable ASCII text takes one cell a character. -/
theorem width_of_isPrintableAscii {t : Text} (h : ∀ c ∈ t, isPrintableAscii c) :
    width t = t.length := by
  rw [width, cells_of_isPrintableAscii h, Int.toNat_natCast]

end SqlLayout.Text
