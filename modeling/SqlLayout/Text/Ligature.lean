import SqlLayout.Text.CharWidth
import SqlLayout.Text.Emoji

/-!
# Ligatures

Letters that fuse into one shape share its cells: an Arabic lam with the alef after it, Khmer letters that
stand below the one before them, Tifinagh consonants around a joiner, and single ligatures of Hebrew,
Buginese, Lisu and Old Turkic. `Ligature` is what a ligature, read from its end, waits for.
-/

namespace SqlLayout.Text

/-- Letters of the shape of alef. -/
def isAlef (c : Char) : Bool :=
  inRanges [0x622, 0x624, 0x625, 0x626, 0x627, 0x628, 0x671, 0x674, 0x675, 0x676, 0x773, 0x775, 0x870,
    0x883] c.toNat

/-- Letters of the shape of lam. -/
def isLam (c : Char) : Bool :=
  inRanges [0x644, 0x645, 0x6B5, 0x6B9, 0x76A, 0x76B, 0x8A6, 0x8A7, 0x8C7, 0x8C8] c.toNat

/-- Khmer letters that take a subscript form after the sign coeng. -/
def isSubscriptLetter (c : Char) : Bool :=
  inRanges [
    0x1780, 0x1783, 0x1784, 0x1788, 0x1789, 0x178D, 0x178E, 0x1794, 0x1795, 0x1799, 0x179B,
    0x179E, 0x17A0, 0x17A1, 0x17A2, 0x17A3, 0x17A7, 0x17A8, 0x17AB, 0x17AD, 0x17AF, 0x17B0] c.toNat

/-- Tifinagh letters that can be written as a pair. -/
def isTifinaghConsonant (c : Char) : Bool :=
  inRanges [0x2D31, 0x2D66, 0x2D6F, 0x2D70] c.toNat

/-- Bounds of the ranges of characters without width that keep Arabic letters apart. -/
def separatingRanges : List Nat := [
    0x605, 0x606, 0x890, 0x892, 0x8E2, 0x8E3, 0x9BE, 0x9BF, 0x9D7, 0x9D8, 0xB3E, 0xB3F, 0xB57,
    0xB58, 0xBBE, 0xBBF, 0xBD7, 0xBD8, 0xCC0, 0xCC1, 0xCC2, 0xCC3, 0xCC7, 0xCC9, 0xCCA, 0xCCC,
    0xCD5, 0xCD7, 0xD3E, 0xD3F, 0xD4E, 0xD4F, 0xD57, 0xD58, 0xDCF, 0xDD0, 0xDDF, 0xDE0, 0x1160,
    0x1200, 0x180E, 0x180F, 0x1B35, 0x1B36, 0x1B3B, 0x1B3C, 0x1B3D, 0x1B3E, 0x1B43, 0x1B44,
    0x200C, 0x200E, 0x2065, 0x206A, 0x302E, 0x3030, 0x3164, 0x3165, 0xA8FA, 0xA8FB, 0xD7B0,
    0xD7C7, 0xD7CB, 0xD7FC, 0xFF9E, 0xFFA1, 0xFFF0, 0xFFF9, 0x111C2, 0x111C4, 0x1133E, 0x1133F,
    0x11357, 0x11358, 0x114B0, 0x114B1, 0x114BD, 0x114BE, 0x115AF, 0x115B0, 0x11930, 0x11931,
    0x1193F, 0x11940, 0x11941, 0x11942, 0x11A3A, 0x11A3B, 0x11A84, 0x11A8A, 0x11D46, 0x11D47,
    0x11F02, 0x11F03, 0x1D165, 0x1D166, 0x1D16E, 0x1D173, 0xE0000, 0xE0001, 0xE0002, 0xE0020,
    0xE0080, 0xE0100, 0xE01F0, 0xE1000]

/-- Marks between two Arabic letters that do not keep them apart. -/
def isArabicTransparent (c : Char) : Bool :=
  charWidth c == 0 && !inRanges separatingRanges c.toNat

/-- Characters inside a ligature that neither show nor break it. -/
def isLigatureTransparent (c : Char) : Bool :=
  inRanges [0x34F, 0x350, 0x17B4, 0x17B6, 0x180B, 0x180E, 0x180F, 0x1810, 0x200D, 0x200E, 0xFE00, 0xFE10,
    0xE0100, 0xE01F0] c.toNat

/-- The end of a ligature, waiting for the letters before it. -/
inductive Ligature where
  | alef
  /-- Hebrew lamed, joined once a zero-width joiner stands before it. -/
  | lamed (joined : Bool)
  /-- A Khmer letter that can stand below another. -/
  | subscript
  /-- Buginese ya, joined once a zero-width joiner stands before it. -/
  | ya (joined : Bool)
  /-- The Buginese vowel sign i before a joined ya. -/
  | vowelYa
  /-- A Tifinagh consonant, joined once a zero-width joiner stands before it. -/
  | consonant (joined : Bool)
  /-- The Tifinagh joiner before a consonant. -/
  | joinedConsonant
  /-- A Lisu tone letter that can end a pair. -/
  | tone
  /-- Old Turkic Orkhon i, joined once a zero-width joiner stands before it. -/
  | orkhonI (joined : Bool)
  deriving DecidableEq

namespace Ligature

/-- The ligature that a letter can end. -/
def start? (c : Char) : Option Ligature :=
  if isAlef c then some .alef
  else if c.toNat = 0x5DC then some (.lamed false)
  else if isSubscriptLetter c then some .subscript
  else if c.toNat = 0x1A10 then some (.ya false)
  else if isTifinaghConsonant c then some (.consonant false)
  else if inRanges [0xA4FC, 0xA4FE] c.toNat then some .tone
  else if c.toNat = 0x10C03 then some (.orkhonI false)
  else none

/-- The ligature with a zero-width joiner before it. -/
def join : Ligature → Ligature
  | lamed _ => lamed true
  | ya _ => ya true
  | consonant _ => consonant true
  | orkhonI _ => orkhonI true
  | other => other

/-- The letter before a ligature that becomes part of it, as the cells that it adds and what is still open. -/
def complete? (l : Ligature) (c : Char) : Option (Int × Option Ligature) :=
  match l with
  | .alef =>
    if isLam c then some (0, none)
    else if isArabicTransparent c then some (0, some .alef)
    else none
  | .lamed true => if c.toNat = 0x5D0 then some (0, none) else none
  | .subscript => if c.toNat = 0x17D2 then some (-1, none) else none
  | .ya true => if c.toNat = 0x1A17 then some (0, some .vowelYa) else none
  | .vowelYa => if c.toNat = 0x1A15 then some (0, none) else none
  | .consonant joined =>
    if c.toNat = 0x2D7F then some (1, some .joinedConsonant)
    else if joined ∧ isTifinaghConsonant c then some (0, none)
    else none
  | .joinedConsonant => if isTifinaghConsonant c then some (-1, none) else none
  | .tone => if inRanges [0xA4F8, 0xA4FC] c.toNat then some (0, none) else none
  | .orkhonI true => if c.toNat = 0x10C32 then some (0, none) else none
  | .lamed false | .ya false | .orkhonI false => none

/--
The character before a ligature that becomes part of it, as the cells that it adds and what is still open.
Characters that do not show stay inside every ligature but that of lam and alef, which has its own marks.
-/
def extend? (l : Ligature) (c : Char) : Option (Int × Option Ligature) :=
  if l = .alef then l.complete? c
  else if c = zeroWidthJoiner then some (0, some l.join)
  else if isLigatureTransparent c then some (0, some l)
  else l.complete? c

end Ligature

end SqlLayout.Text
