import Markbook.Text.Blank
import Markbook.Text.Utf8

namespace Markbook.Text.Percent

def hexValue (b : UInt8) : Option UInt8 :=
  if 0x30 ≤ b && b ≤ 0x39 then some (b - 0x30)
  else if 0x41 ≤ b && b ≤ 0x46 then some (b - 0x41 + 10)
  else if 0x61 ≤ b && b ≤ 0x66 then some (b - 0x61 + 10)
  else none

/-- Replaces each `%` with two hexadecimal digits by the byte they name; any other `%` stays. -/
def decode : List UInt8 → List UInt8
  | [] => []
  | [a] => [a]
  | [a, b] => [a, b]
  | a :: b :: c :: rest =>
    if a = 0x25 then
      match hexValue b, hexValue c with
      | some high, some low => (16 * high + low) :: decode rest
      | _, _ => a :: decode (b :: c :: rest)
    else a :: decode (b :: c :: rest)

def hexDigit (n : Nat) : Char :=
  if n < 10 then Char.ofNat (48 + n) else Char.ofNat (55 + n)

def encodeByte (b : UInt8) : List Char :=
  if 0x21 ≤ b && b ≤ 0x7E && b != 0x25 then [Char.ofNat b.toNat]
  else ['%', hexDigit (b.toNat / 16), hexDigit (b.toNat % 16)]

def encode (cs : List Char) : List Char :=
  (Utf8.encode cs).flatMap encodeByte

/-- The text that a key or a value of a parameter stands for: a plus sign is a blank. -/
def plain (cs : List Char) : String :=
  let cs := cs.map fun c => if c = '+' then ' ' else c
  String.ofList (Utf8.decodeLossy (decode (Utf8.encode cs)))

def parameters (cs : List Char) : List (String × String) :=
  ((splitAll '&' cs).filter (!·.isEmpty)).map fun piece =>
    let (key, value) := splitFirst '=' piece
    (plain key, plain (value.getD []))

end Markbook.Text.Percent
