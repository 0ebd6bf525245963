import SqlLayout.Number.Decimal

/-!
# Numbers of single precision

A weight is a binary floating-point number of 32 bits. It is held by its bits, so that two weights are
the same exactly if their bits are; their order is that of the numbers they stand for, in which the two
zeros are equal and a NaN is comparable to nothing. A weight is read from a decimal by rounding its
exact value to the nearest number, a tie to the one with the even last bit.
-/

namespace SqlLayout.Number

/-- A number of single precision. -/
structure Single where
  bits : Nat
  deriving DecidableEq, Inhabited

namespace Single

/-- The bit of the sign. -/
def signBit : Nat := 1 <<< 31

/-- Bits of positive infinity. -/
def infinityBits : Nat := 0x7F800000

/-- Bits of the fraction of a number. -/
def fractionBits : Nat := 23

/-- Exponent of the smallest positive number. -/
def minExponent : Int := -149

def one : Single := ⟨0x3F800000⟩

def infinity : Single := ⟨infinityBits⟩

def nan : Single := ⟨0x7FC00000⟩

/-- The number with the sign bit set. -/
def negate (x : Single) : Single :=
  ⟨if x.bits < signBit then x.bits + signBit else x.bits - signBit⟩

def negInfinity : Single := negate infinity

/-- Bits without the sign. -/
def magnitude (x : Single) : Nat :=
  x.bits % signBit

/-- Whether the bits stand for no number. -/
def isNaN (x : Single) : Bool :=
  infinityBits < x.magnitude

/-- Whether the bits stand for a finite number. -/
def isFinite (x : Single) : Bool :=
  x.magnitude < infinityBits

/-- A whole number that grows with the number that the bits stand for. -/
def rank (x : Single) : Int :=
  if x.bits < signBit then x.magnitude else -(x.magnitude : Int)

/-- Whether `x` is at least `y`; a NaN is at least nothing. -/
def ge (x y : Single) : Bool :=
  !x.isNaN && !y.isNaN && decide (y.rank ≤ x.rank)

/-- The larger of two numbers; of a NaN and a number, the number. -/
def max (x y : Single) : Single :=
  if x.isNaN then y else if y.isNaN then x else if y.rank ≤ x.rank then x else y

/-- Nearest whole number to `a / b`, a tie to the even one. -/
def roundDiv (a b : Nat) : Nat :=
  let q := a / b
  let r := a % b
  if 2 * r < b then q
  else if b < 2 * r then q + 1
  else if q % 2 = 0 then q
  else q + 1

/-- `a / b` divided by `2 ^ e`, as a fraction. -/
def scaled (a b : Nat) (e : Int) : Nat × Nat :=
  if 0 ≤ e then (a, b <<< e.toNat) else (a <<< (-e).toNat, b)

/-- The exponent of the last bit of the number nearest to `a / b`. -/
def lastBitExponent (a b : Nat) : Int :=
  let low : Int := (Nat.log2 a : Int) - (Nat.log2 b : Int) - (fractionBits + 1)
  let (p, q) := scaled a b low
  let e := if p / q < 1 <<< (fractionBits + 1) then low else low + 1
  if e < minExponent then minExponent else e

/-- The number nearest to the fraction `a / b`, which is not zero. -/
def ofFraction (a b : Nat) : Single :=
  let e := lastBitExponent a b
  let (p, q) := scaled a b e
  let bits := ((e - minExponent).toNat <<< fractionBits) + roundDiv p q
  if bits < infinityBits then ⟨bits⟩ else infinity

/-- Decimal exponents beyond this one leave the range of numbers, whatever the digits. -/
def decimalRange : Int := 60

/-- The number nearest to `digits * 10 ^ exponent`. -/
def ofScientific (digits : Nat) (exponent : Int) : Single :=
  if digits = 0 then ⟨0⟩
  else if decimalRange < exponent then infinity
  else if exponent + (Nat.toDigits 10 digits).length < -decimalRange then ⟨0⟩
  else if 0 ≤ exponent then ofFraction (digits * Nat.pow 10 exponent.toNat) 1
  else ofFraction digits (Nat.pow 10 (-exponent).toNat)

/-- Reads a sign; the answer says whether it is a minus. -/
def splitSign : Text → Bool × Text
  | '-' :: rest => (true, rest)
  | '+' :: rest => (false, rest)
  | t => (false, t)

/-- Reads an exponent: a mark, a sign and digits, or nothing at all. -/
def exponent? : Text → Option Int
  | [] => some 0
  | c :: rest =>
    if c = 'e' ∨ c = 'E' then
      let (isNegative, digits) := splitSign rest
      (ofDigits? digits).map fun n => if isNegative then -(n : Int) else n
    else none

/-- Reads a number without sign: digits with a point among them, then an exponent. -/
def unsigned? (t : Text) : Option Single :=
  let whole := t.takeWhile Char.isDigit
  let rest := t.drop whole.length
  let afterPoint := if rest.head? = some '.' then rest.tail else []
  let fraction := afterPoint.takeWhile Char.isDigit
  let tail := if rest.head? = some '.' then afterPoint.drop fraction.length else rest
  if whole.isEmpty && fraction.isEmpty then none
  else
    (exponent? tail).map fun e =>
      ofScientific (ofDigits (whole ++ fraction)) (e - fraction.length)

/-- Reads a number or one of the names of infinity and NaN, in any case. -/
def read? (t : Text) : Option Single :=
  let (isNegative, body) := splitSign t
  let name := String.ofList (Text.asciiLower body)
  let value :=
    if name = "inf" ∨ name = "infinity" then some infinity
    else if name = "nan" then some nan
    else unsigned? body
  value.map fun x => if isNegative then x.negate else x

end Single
end SqlLayout.Number
