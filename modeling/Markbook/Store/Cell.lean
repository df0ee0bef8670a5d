import Markbook.Fault
import Markbook.Store.Number

namespace Markbook.Store

open Markbook.Text

inductive Cell
  | null
  | int (n : Int)
  | real (x : Float)
  | text (s : String)

namespace Cell

/-- Nothing comes before all numbers, and numbers come before all texts. -/
def kind : Cell → Nat
  | null => 0
  | int _ | real _ => 1
  | text _ => 2

def units : Cell → Int
  | int n => n * unitsPerOne
  | real x => unitsOf x
  | _ => 0

def words : Cell → String
  | text s => s
  | _ => ""

def le : Cell → Cell → Bool
  | int m, int n => m ≤ n
  | a, b =>
    a.kind < b.kind ||
      (a.kind == b.kind && (a.units < b.units || (a.units == b.units && a.words ≤ b.words)))

def same : Cell → Cell → Bool
  | int m, int n => m == n
  | a, b => a.kind == b.kind && a.units == b.units && a.words == b.words

/-- Whether two rows with these cells clash in a unique column; nothing never clashes. -/
def clashes (a b : Cell) : Bool :=
  a.kind != 0 && a.same b

def ofText : Option String → Cell
  | some s => text s
  | none => null

/-- What a column of integers keeps: numbers and numeric texts that are whole become integers. -/
def toInteger : Cell → Cell
  | null => null
  | int n => int n
  | real x => if x.isNaN then null else ((integerOf? x).map int).getD (real x)
  | text s =>
    match readNumeral s.toList with
    | none => text s
    | some n =>
      if n.whole then
        if n.plain && isInt64 n.toInt then int n.toInt
        else ((integerOf? n.toFloat).map int).getD (real n.toFloat)
      else text s

/-- What a value is compared as in a column of numbers: only numeric texts are converted. -/
def toNumber : Cell → Cell
  | text s => (text s).toInteger
  | real x => if x.isNaN then null else real x
  | c => c

/-- What a column of floats keeps of a float: no NaN and no negative zero. -/
def ofReal (x : Float) : Cell :=
  if x.isNaN then null else if unitsOf x = 0 then real 0 else real x

def toReal : Cell → Cell
  | null => null
  | int n => real (Float.ofInt n)
  | real x => ofReal x
  | text s =>
    match (text s).toInteger with
    | int n => real (Float.ofInt n)
    | c => c

def toText : Cell → Option String
  | null => none
  | int n => some (toString n)
  | real x => if x.isNaN then none else some (realText x)
  | text s => some s

def readInt (column : String) : Cell → Except StoreError Int
  | null => .ok 0
  | int n => .ok n
  | real _ => .error (.unreadable column .integer .real)
  | text _ => .error (.unreadable column .integer .text)

def readGrade (column : String) : Cell → Except StoreError (Option Float)
  | null => .ok none
  | real x => .ok (some x)
  | int _ => .error (.unreadable column .grade .integer)
  | text _ => .error (.unreadable column .grade .text)

/-- What a cell contributes to a sum: a text contributes the number at its start. -/
def addend? : Cell → Option Float
  | null => none
  | int n => some (Float.ofInt n)
  | real x => some x
  | text s => some (((readNumeral s.toList).map Numeral.toFloat).getD 0)

end Cell

end Markbook.Store
