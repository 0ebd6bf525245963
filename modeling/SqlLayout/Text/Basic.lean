/-!
# Texts

A text is a list of characters, so that scanners and line buffers recurse on it directly. Positions
in a source are counted in bytes of its UTF-8 form; `byteLength` is that measure. The module also
holds the cutting operations that the reader of settings, the scanner and the printers share.
-/

namespace SqlLayout

/-- A text is the list of its characters. -/
abbrev Text := List Char

namespace Text

/-- Number of bytes that a text takes in UTF-8. -/
def byteLength : Text → Nat
  | [] => 0
  | c :: rest => c.utf8Size + byteLength rest

@[simp] theorem byteLength_nil : byteLength [] = 0 := rfl

@[simp] theorem byteLength_cons (c : Char) (t : Text) :
    byteLength (c :: t) = c.utf8Size + byteLength t := rfl

@[simp] theorem byteLength_append (s t : Text) :
    byteLength (s ++ t) = byteLength s + byteLength t := by
  induction s with
  | nil => simp
  | cons c s ih => simp [ih, Nat.add_assoc]

/-- Run of `n` spaces. -/
def spaces (n : Nat) : Text :=
  List.replicate n ' '

/-- Characters with the `White_Space` property. -/
def isBlank (c : Char) : Bool :=
  let n := c.toNat
  (9 ≤ n && n ≤ 13) || n == 0x20 || n == 0x85 || n == 0xA0 || n == 0x1680
    || (0x2000 ≤ n && n ≤ 0x200A) || n == 0x2028 || n == 0x2029 || n == 0x202F || n == 0x205F
    || n == 0x3000

/-- Drops the longest final run of characters that satisfy `p`. -/
def dropEndWhile (p : Char → Bool) (t : Text) : Text :=
  (t.reverse.dropWhile p).reverse

/-- Drops leading blanks. -/
def trimStart (t : Text) : Text :=
  t.dropWhile isBlank

/-- Drops trailing blanks. -/
def trimEnd (t : Text) : Text :=
  dropEndWhile isBlank t

/-- Drops leading and trailing blanks. -/
def trim (t : Text) : Text :=
  trimEnd (trimStart t)

/-- Pieces of a text between the occurrences of a separator; never empty. -/
def pieces (sep : Char) : Text → List Text
  | [] => [[]]
  | c :: rest =>
    if c = sep then [] :: pieces sep rest
    else
      match pieces sep rest with
      | [] => [[c]]
      | first :: others => (c :: first) :: others

theorem pieces_ne_nil (sep : Char) (t : Text) : pieces sep t ≠ [] := by
  induction t with
  | nil => simp [pieces]
  | cons c rest ih =>
    rw [pieces]
    split
    · simp
    · split <;> simp

/-- Drops one carriage return at the end, if there is one. -/
def dropReturn (t : Text) : Text :=
  if t.getLast? = some '\r' then t.dropLast else t

/--
Lines of a text. A line ends at a line feed, together with one carriage return before it; a last
line without a line feed is kept as it stands, and an empty one is no line.
-/
def lines (t : Text) : List Text :=
  let all := pieces '\n' t
  let ended := all.dropLast.map dropReturn
  match all.getLast? with
  | some (c :: rest) => ended ++ [c :: rest]
  | _ => ended

/-- Joins texts with a separator between neighbours. -/
def join (sep : Text) : List Text → Text
  | [] => []
  | [t] => t
  | t :: rest => t ++ sep ++ join sep rest

theorem join_cons (sep t : Text) {rest : List Text} (h : rest ≠ []) :
    join sep (t :: rest) = t ++ sep ++ join sep rest := by
  cases rest with
  | nil => exact absurd rfl h
  | cons u rest => rfl

/-- Nothing is lost between the pieces of a text but the separator. -/
theorem join_pieces (sep : Char) (t : Text) : join [sep] (pieces sep t) = t := by
  induction t with
  | nil => rfl
  | cons c rest ih =>
    have hne := pieces_ne_nil sep rest
    rw [pieces]
    split
    · next hc => rw [join_cons _ _ hne, ih, hc]; rfl
    · cases hp : pieces sep rest with
      | nil => exact absurd hp hne
      | cons first others =>
        rw [hp] at ih
        cases others with
        | nil => simpa [join] using ih
        | cons u others => simpa [join] using ih

/--
Cuts a text around the first occurrence of `mark`: what stands before it and what stands after it,
or nothing if it does not occur.
-/
def cutAround (mark : Text) : Text → Option (Text × Text)
  | [] => if mark.isEmpty then some ([], []) else none
  | c :: rest =>
    match mark.isPrefixOf? (c :: rest) with
    | some after => some ([], after)
    | none => (cutAround mark rest).map fun (before, after) => (c :: before, after)

/-- ASCII letters in lower case, all else unchanged. -/
def asciiLower (t : Text) : Text :=
  t.map Char.toLower

/-- ASCII letters in upper case, all else unchanged. -/
def asciiUpper (t : Text) : Text :=
  t.map Char.toUpper

/-- Equality up to the case of ASCII letters. -/
def eqIgnoringCase (s t : Text) : Bool :=
  asciiLower s == asciiLower t

end Text
end SqlLayout
