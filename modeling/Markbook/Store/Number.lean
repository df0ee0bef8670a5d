import Markbook.Store.Extended
import Markbook.Text.Decimal
import Markbook.Word

namespace Markbook.Store

open Markbook.Text

def unitsPerOne : Int := (Nat.pow 2 1074 : Nat)

/-- The value of a float in units of 2^-1074, of which every finite float is a whole number; an
infinity is beyond all finite values. -/
def unitsOf (x : Float) : Int :=
  let bits := x.toBits.toNat
  let exponent := bits / Nat.pow 2 52 % Nat.pow 2 11
  let fraction := bits % Nat.pow 2 52
  let size :=
    if exponent = 0 then fraction else (fraction + Nat.pow 2 52) * Nat.pow 2 (exponent - 1)
  if bits < Nat.pow 2 63 then (size : Int) else -(size : Int)

/-- The integer that a float is, if it is one and stays clear of the ends of the 64 bit range. -/
def integerOf? (x : Float) : Option Int :=
  let units := unitsOf x
  let n := units / unitsPerOne
  if units % unitsPerOne = 0 ∧ -int64Bound < n ∧ n < int64Bound - 1 then some n else none

/-- A number read from the start of a text: its sign, the value of its digits, the part of it
that a float is made of as `significand * 10 ^ power`, whether it has neither a point nor an
exponent, and whether it is the whole text. -/
structure Numeral where
  negative : Bool
  digits : Nat
  significand : Nat
  power : Int
  plain : Bool
  whole : Bool

def isSpace (c : Char) : Bool :=
  c = ' ' || (9 ≤ c.toNat && c.toNat ≤ 13)

def readSign : List Char → Bool × List Char
  | '-' :: cs => (true, cs)
  | '+' :: cs => (false, cs)
  | cs => (false, cs)

def significandLimit : Nat := (uint64Bound - 10) / 10

def takeFront : Nat → List Char → Nat × Nat
  | s, [] => (s, 0)
  | s, c :: cs =>
    let s := 10 * s + digitValue c
    if s < significandLimit then takeFront s cs else (s, cs.length)

def takeBack : Nat → List Char → Nat × Nat
  | s, [] => (s, 0)
  | s, c :: cs =>
    if s < significandLimit then
      let (t, count) := takeBack (10 * s + digitValue c) cs
      (t, count + 1)
    else (s, 0)

def maxExponent : Nat := 10000

def readExponent (ds : List Char) : Nat :=
  ds.foldl (fun e d => if e < maxExponent then 10 * e + digitValue d else maxExponent) 0

def readNumeral (cs : List Char) : Option Numeral :=
  let (negative, cs) := readSign (cs.dropWhile isSpace)
  let front := cs.takeWhile Char.isDigit
  let cs := cs.dropWhile Char.isDigit
  let (hasPoint, back, cs) := match cs with
    | '.' :: cs => (true, cs.takeWhile Char.isDigit, cs.dropWhile Char.isDigit)
    | cs => (false, [], cs)
  if front.isEmpty && back.isEmpty then none
  else
    let (s, left) := takeFront 0 front
    let (s, taken) := takeBack s back
    let finish (exponent : Int) (plain valid : Bool) (cs : List Char) : Numeral :=
      ⟨negative, digitsValue (front ++ back), s, left - taken + exponent, plain,
        valid && cs.all isSpace⟩
    match cs with
    | c :: rest =>
      if c = 'e' ∨ c = 'E' then
        let (below, rest) := readSign rest
        let ds := rest.takeWhile Char.isDigit
        let size : Int := readExponent ds
        let exponent := if below then -size else size
        some (finish exponent false (!ds.isEmpty) (rest.dropWhile Char.isDigit))
      else some (finish 0 (!hasPoint) true cs)
    | [] => some (finish 0 (!hasPoint) true [])

def raiseSignificand : Nat → Nat → Int → Nat × Int
  | 0, s, power => (s, power)
  | fuel + 1, s, power =>
    if 0 < power ∧ s < (uint64Bound - 1) / 10 then raiseSignificand fuel (10 * s) (power - 1)
    else (s, power)

def lowerSignificand : Nat → Nat → Int → Nat × Int
  | 0, s, power => (s, power)
  | fuel + 1, s, power =>
    if power < 0 ∧ s % 10 = 0 then lowerSignificand fuel (s / 10) (power + 1) else (s, power)

/-- The float that a numeral is read as. It is computed with 64 bits, so it need not be the one
nearest to the numeral. -/
def Numeral.toFloat (n : Numeral) : Float :=
  let size :=
    if n.significand = 0 then 0
    else
      let (s, power) := raiseSignificand 20 n.significand n.power
      let (s, power) := lowerSignificand 20 s power
      ((Extended.mk s 0).scale power).toFloat
  if n.negative then -size else size

def Numeral.toInt (n : Numeral) : Int :=
  if n.negative then -(n.digits : Int) else n.digits

def dropLastZeros (ds : List Char) : List Char :=
  (ds.reverse.dropWhile (· = '0')).reverse

def withPoint (k : Nat) (ds : List Char) : List Char :=
  let back := dropLastZeros (ds.drop k)
  ds.take k ++ '.' :: (if back.isEmpty then ['0'] else back)

/-- The first fifteen digits of a float that is neither zero nor infinite, and the power of ten of
the first one. The digits are computed with 64 bits, and the sixteenth decides how they round. -/
def leadingDigits (x : Float) : Nat × Int :=
  let (y, power) := (Extended.mk (unitsOf x).natAbs (-1074)).round.normalize
  let whole := y.floor
  let width := widthFrom 20 1 whole
  let unit := Nat.pow 10 (width - 15)
  let digits := (whole + unit / 2) / unit
  let first := width - 1 + power
  if digits = Nat.pow 10 15 then (Nat.pow 10 14, first + 1) else (digits, first)

def realText (x : Float) : String :=
  let units := unitsOf x
  let sign := if units < 0 then ['-'] else []
  if units = 0 then "0.0"
  else if x.isInf then String.ofList (sign ++ "Inf".toList)
  else
    let (digits, e) := leadingDigits x
    let ds := padded 15 digits
    let body :=
      if e < -4 ∨ 14 < e then
        withPoint 1 ds ++ 'e' :: (if e < 0 then '-' else '+') :: paddedTo 2 e.natAbs
      else if e < 0 then withPoint 1 (List.replicate (-e).toNat '0' ++ ds)
      else withPoint (e.toNat + 1) ds
    String.ofList (sign ++ body)

end Markbook.Store
