namespace Markbook.Store

/-- `a / b` to the nearest whole number, and halves to the even one. -/
def divEven (a b : Nat) : Nat :=
  let quotient := a / b
  let twice := 2 * (a % b)
  if twice < b || (twice == b && quotient % 2 == 0) then quotient else quotient + 1

def bitLength (n : Nat) : Nat :=
  if n = 0 then 0 else n.log2 + 1

/-- The number `mantissa * 2 ^ exponent`, with 64 significant bits where it was rounded. -/
structure Extended where
  mantissa : Nat
  exponent : Int
deriving DecidableEq, Repr

namespace Extended

def precision : Nat := 64

def round (x : Extended) : Extended :=
  let excess := bitLength x.mantissa - precision
  ⟨divEven x.mantissa (Nat.pow 2 excess), x.exponent + excess⟩

def mul (x y : Extended) : Extended :=
  round ⟨x.mantissa * y.mantissa, x.exponent + y.exponent⟩

def powerOfTen : Int → Extended
  | .ofNat k => round ⟨Nat.pow 10 k, 0⟩
  | .negSucc k =>
    let size := Nat.pow 10 (k + 1)
    let shift := bitLength size + precision - 1
    ⟨divEven (Nat.pow 2 shift) size, -(shift : Int)⟩

def lt (x y : Extended) : Bool :=
  let least := min x.exponent y.exponent
  x.mantissa * Nat.pow 2 (x.exponent - least).toNat <
    y.mantissa * Nat.pow 2 (y.exponent - least).toNat

def floor (x : Extended) : Nat :=
  x.mantissa * Nat.pow 2 x.exponent.toNat / Nat.pow 2 (-x.exponent).toNat

def mulRepeated (x y : Extended) : Nat → Extended
  | 0 => x
  | times + 1 => mulRepeated (x.mul y) y times

def scale (x : Extended) (k : Int) : Extended :=
  let size := k.natAbs
  let x := x.mulRepeated (powerOfTen (100 * k.sign)) (size / 100)
  let x := x.mulRepeated (powerOfTen (10 * k.sign)) (size / 10 % 10)
  x.mulRepeated (powerOfTen k.sign) (size % 10)

/-- Multiplies by `10 ^ step` while `test` holds, `fuel` times at most. Also gives `power` with
all steps taken off. -/
def approach (test : Extended → Bool) (step : Int) : Nat → Extended → Int → Extended × Int
  | 0, x, power => (x, power)
  | fuel + 1, x, power =>
    if test x then approach test step fuel (x.mul (powerOfTen step)) (power - step) else (x, power)

/-- Brings a number that is not zero between 10^17 and 10^19. Also gives the power of ten that the
result lacks. -/
def normalize (x : Extended) : Extended × Int :=
  let below (k : Int) (y : Extended) : Bool := y.lt (powerOfTen k)
  if below 19 x then
    let (x, power) := approach (below (-97)) 100 10 x 0
    let (x, power) := approach (below 7) 10 20 x power
    approach (below 17) 1 20 x power
  else
    let (x, power) := approach (!below 119 ·) (-100) 10 x 0
    let (x, power) := approach (!below 29 ·) (-10) 20 x power
    approach (!below 19 ·) (-1) 20 x power

def infinityBits : Nat := 0x7FF0000000000000

def largest : Extended := ⟨Nat.pow 2 53 - 1, 971⟩

def toFloat (x : Extended) : Float :=
  if largest.lt x then Float.ofBits (UInt64.ofNat infinityBits)
  else
    let unit := max (x.exponent + bitLength x.mantissa - 53) (-1074)
    let units := divEven (x.mantissa * Nat.pow 2 (x.exponent - unit).toNat)
      (Nat.pow 2 (unit - x.exponent).toNat)
    Float.ofBits (UInt64.ofNat ((unit + 1074).toNat * Nat.pow 2 52 + units))

end Extended

end Markbook.Store
