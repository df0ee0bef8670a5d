import Markbook.Text.Blank
import Markbook.Text.Decimal
import Markbook.Time.Calendar
import Markbook.Time.Instant

namespace Markbook.Time.Stamp

open Markbook.Text

def yearText (year : Int) : List Char :=
  if 0 ≤ year ∧ year ≤ 9999 then padded 4 year.toNat
  else (if year < 0 then '-' else '+') :: paddedTo 4 year.natAbs

def fractionText (nano : Nat) : List Char :=
  if nano = 0 then []
  else if nano % 1000000 = 0 then '.' :: padded 3 (nano / 1000000)
  else if nano % 1000 = 0 then '.' :: padded 6 (nano / 1000)
  else '.' :: padded 9 nano

/-- Date, time and then `zone`, the text for an offset of zero. A leap second is told as one second
more. -/
def write (zone : String) (t : Instant) : List Char :=
  let date := Date.ofDayNumber (t.second / 86400)
  let clock := (t.second % 86400).toNat
  let second := clock % 60 + if t.isLeap then 1 else 0
  yearText date.year ++ '-' :: padded 2 date.month ++ '-' :: padded 2 date.day ++
    'T' :: padded 2 (clock / 3600) ++ ':' :: padded 2 (clock / 60 % 60) ++ ':' :: padded 2 second ++
    fractionText (t.nano % secondNanos) ++ zone.toList

def readMark (c : Char) (cs : List Char) : Option (List Char) :=
  match trimStart cs with
  | d :: rest => if d = c then some rest else none
  | [] => none

def readField (cs : List Char) : Option (Nat × List Char) := do
  let (ds, rest) ← readDigits 2 (trimStart cs)
  return (digitsValue ds, rest)

/-- A year of at most four digits, or a sign and any number of digits, after white space. -/
def readYear (cs : List Char) : Option (Int × List Char) :=
  match trimStart cs with
  | '-' :: cs => do
    let (ds, rest) ← readDigits cs.length cs
    return (-(digitsValue ds : Int), rest)
  | '+' :: cs => do
    let (ds, rest) ← readDigits cs.length cs
    return (digitsValue ds, rest)
  | cs => do
    let (ds, rest) ← readDigits 4 cs
    return (digitsValue ds, rest)

/-- The nanoseconds of a fraction, of which digits after the ninth are dropped. -/
def readFraction : List Char → Option (Nat × List Char)
  | '.' :: cs => do
    let (ds, rest) ← readDigits 9 cs
    return (digitsValue ds * Nat.pow 10 (9 - ds.length), rest.dropWhile Char.isDigit)
  | cs => some (0, cs)

def readTwoDigits : List Char → Option (Nat × List Char)
  | a :: b :: rest =>
    if a.isDigit && b.isDigit then some (digitsValue [a, b], rest) else none
  | _ => none

def readOffsetSize (cs : List Char) : Option (Nat × List Char) := do
  let (hours, cs) ← readTwoDigits cs
  let (minutes, cs) ← readTwoDigits (cs.dropWhile fun c => c = ':' || isBlank c)
  if minutes < 60 ∧ hours < 24 then some (hours * 3600 + minutes * 60, cs) else none

def readOffset : List Char → Option (Int × List Char)
  | [] => none
  | c :: cs =>
    if c = 'Z' ∨ c = 'z' then some (0, cs)
    else if c = '+' then (readOffsetSize cs).map fun (n, rest) => ((n : Int), rest)
    else if c = '-' ∨ c = '−' then (readOffsetSize cs).map fun (n, rest) => (-(n : Int), rest)
    else if (c :: cs.take 2).map Char.toLower = ['u', 't', 'c'] then some (0, cs.drop 2)
    else none

/-- The instant at which clocks `offset` seconds ahead of universal time show this date and time. -/
def instantAt (date : Date) (hour minute second nano : Nat) (offset : Int) : Option Instant :=
  if date.occurs ∧ -262143 ≤ date.year ∧ date.year ≤ 262142 ∧
      hour < 24 ∧ minute < 60 ∧ second ≤ 60 then
    let clock := hour * 3600 + minute * 60 + (if second = 60 then 59 else second)
    let nano := if second = 60 then nano + secondNanos else nano
    Instant.of? (date.dayNumber * 86400 + clock - offset) nano
  else none

def read (cs : List Char) : Option Instant := do
  let (year, cs) ← readYear cs
  let cs ← readMark '-' cs
  let (month, cs) ← readField cs
  let cs ← readMark '-' cs
  let (day, cs) ← readField cs
  let cs ← match cs with
    | c :: cs => if c = 'T' ∨ c = 't' ∨ c = ' ' then some cs else none
    | [] => none
  let (hour, cs) ← readField cs
  let cs ← readMark ':' cs
  let (minute, cs) ← readField cs
  let cs ← readMark ':' cs
  let (second, cs) ← readField cs
  let (nano, cs) ← readFraction cs
  let (offset, cs) ← readOffset (trimStart cs)
  if (trimStart cs).isEmpty then instantAt ⟨year, month, day⟩ hour minute second nano offset
  else none

end Markbook.Time.Stamp

namespace Markbook.Time.Instant

def stamp (t : Instant) : String :=
  String.ofList (Stamp.write "Z" t)

def stampWithOffset (t : Instant) : String :=
  String.ofList (Stamp.write "+00:00" t)

def ofStamp? (s : String) : Option Instant :=
  Stamp.read s.toList

end Markbook.Time.Instant
