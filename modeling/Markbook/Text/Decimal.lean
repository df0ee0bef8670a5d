namespace Markbook.Text

def digitValue (c : Char) : Nat :=
  c.toNat - 48

def digit (n : Nat) : Char :=
  Char.ofNat (48 + n % 10)

def padded : Nat → Nat → List Char
  | 0, _ => []
  | width + 1, n => padded width (n / 10) ++ [digit n]

/-- The number of decimal digits of a number, looked for from `width` upwards, `fuel` steps far. -/
def widthFrom : Nat → Nat → Nat → Nat
  | 0, width, _ => width
  | fuel + 1, width, n => if n < Nat.pow 10 width then width else widthFrom fuel (width + 1) n

def paddedTo (least n : Nat) : List Char :=
  padded (widthFrom n least n) n

def digitsValue (ds : List Char) : Nat :=
  ds.foldl (fun n d => 10 * n + digitValue d) 0

def readDigits (most : Nat) (cs : List Char) : Option (List Char × List Char) :=
  let ds := (cs.take most).takeWhile Char.isDigit
  if ds.isEmpty then none else some (ds, cs.drop ds.length)

def readBelow (bound : Nat) (cs : List Char) : Option Nat :=
  let ds := match cs with
    | '+' :: ds => ds
    | ds => ds
  if ds.isEmpty then none
  else if ds.all Char.isDigit then
    if digitsValue ds < bound then some (digitsValue ds) else none
  else none

end Markbook.Text
