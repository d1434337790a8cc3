import ChrootScan.Text.Decimal

/-!
# The shortest decimal of a float

A finite float stands for all reals that round to it. Its shortest decimal has the fewest digits of
all decimals among them, and of those with as many digits it is the nearest to the float.
-/

namespace ChrootScan.Text

/-- The bit of the mantissa that is not written, unless the float is one of the smallest. -/
def hiddenBit : Nat := 0x10000000000000

/-- A power of two. -/
def twoTo (n : Nat) : Nat := Nat.pow 2 n

/-- A power of ten. -/
def tenTo (n : Nat) : Nat := Nat.pow 10 n

/-- A positive float as `mantissa · 2 ^ (exponent - 1075)`, `exponent` being at least one. -/
structure Binary where
  mantissa : Nat
  exponent : Nat
deriving DecidableEq, Repr

/-- The absolute value of a finite float. -/
def Binary.ofFloat (f : Float) : Binary :=
  let bits := f.toBits.toNat % (bound64 / 2)
  let fraction := bits % hiddenBit
  let e := bits / hiddenBit
  if e = 0 then ⟨fraction, 1⟩ else ⟨fraction + hiddenBit, e⟩

/-- Decimal digits and the position of the point among them: `0.digits · 10 ^ point`. -/
structure Decimal where
  digits : Nat
  /-- How many digits there are. -/
  count : Nat
  point : Int
deriving DecidableEq, Repr

/-- A positive fraction with the two ends of the interval around it, over one denominator. -/
structure Interval where
  low : Nat
  value : Nat
  high : Nat
  denominator : Nat
  /-- The ends belong to the interval. -/
  closed : Bool
deriving DecidableEq, Repr

/-- The reals that round to a float. -/
def Interval.ofBinary (b : Binary) : Interval :=
  let below := if b.mantissa = hiddenBit ∧ b.exponent > 1 then 1 else 2
  let up := twoTo (b.exponent - 1077)
  { low := (4 * b.mantissa - below) * up
    value := 4 * b.mantissa * up
    high := (4 * b.mantissa + 2) * up
    denominator := twoTo (1077 - b.exponent)
    closed := b.mantissa % 2 == 0 }

/-- The number of digits before the point of `value / denominator`, which is at least one. -/
def integerDigits (value denominator : Nat) : Nat :=
  (Nat.toDigits 10 (value / denominator)).length

/-- How often a fraction below one can be multiplied by ten without reaching one; `fuel` bounds the
answer. -/
def leadingZeros (value denominator : Nat) : Nat → Nat
  | 0 => 0
  | fuel + 1 =>
    if value * 10 < denominator then leadingZeros (value * 10) denominator fuel + 1 else 0

/-- The position of the point of a fraction: the exponent of the least power of ten above it. -/
def pointOf (value denominator : Nat) : Int :=
  if denominator ≤ value then integerDigits value denominator
  else -(leadingZeros value denominator 400 : Int)

/-- `n · 10 ^ e` lies in the interval. -/
def Interval.holds (i : Interval) (n : Nat) (e : Int) : Bool :=
  let x := n * tenTo e.toNat * i.denominator
  let scale := tenTo (-e).toNat
  if i.closed then i.low * scale ≤ x && x ≤ i.high * scale
  else i.low * scale < x && x < i.high * scale

/-- The nearer of the two neighbours of the value on the grid of `count` digits that lie in the
interval. -/
def Interval.onGrid? (i : Interval) (point : Int) (count : Nat) : Option Decimal :=
  let e := point - count
  let num := i.value * tenTo (-e).toNat
  let den := i.denominator * tenTo e.toNat
  let below := num / den
  let above := below + 1
  let downFits := i.holds below e && below ≠ 0
  let upFits := i.holds above e
  let twice := 2 * (num - below * den)
  let preferUp := twice > den || (twice == den && below % 2 == 1)
  let pick (n : Nat) : Option Decimal :=
    if n = tenTo count then some ⟨tenTo (count - 1), count, point + 1⟩ else some ⟨n, count, point⟩
  if downFits && upFits then pick (if preferUp then above else below)
  else if downFits then pick below
  else if upFits then pick above
  else none

/-- The shortest decimal of a positive float. -/
def shortest (b : Binary) : Decimal :=
  let i := Interval.ofBinary b
  let point := pointOf i.value i.denominator
  ((List.range 17).findSome? fun n => i.onGrid? point (n + 1)).getD ⟨0, 1, 1⟩

end ChrootScan.Text
