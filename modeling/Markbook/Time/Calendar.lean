namespace Markbook.Time

structure Date where
  year : Int
  month : Nat
  day : Nat
deriving DecidableEq, Repr

def isLeap (year : Int) : Bool :=
  year % 4 == 0 && (year % 100 != 0 || year % 400 == 0)

def monthLengths (year : Int) : List Nat :=
  [31, if isLeap year then 29 else 28, 31, 30, 31, 30, 31, 31, 30, 31, 30, 31]

/-- The number of leap years from year 1 to `year`; before year 1 it counts backwards. -/
def leapYears (year : Int) : Int :=
  year / 4 - year / 100 + year / 400

def yearStart (year : Int) : Int :=
  365 * (year - 1970) + (leapYears (year - 1) - leapYears 1969)

/-- The year of a day. The quotient by the mean length of a year is at most one off. -/
def yearOfDay (n : Int) : Int :=
  let year := 400 * n / 146097 + 1970
  if n < yearStart year then year - 1
  else if yearStart (year + 1) ≤ n then year + 1
  else year

def Date.occurs (d : Date) : Bool :=
  1 ≤ d.month && 1 ≤ d.day && d.day ≤ ((monthLengths d.year)[d.month - 1]?).getD 0

def daysBefore : List Nat → Nat → Nat
  | n :: lengths, k + 1 => n + daysBefore lengths k
  | _, _ => 0

def Date.dayNumber (d : Date) : Int :=
  yearStart d.year + (daysBefore (monthLengths d.year) (d.month - 1) + (d.day - 1) : Nat)

/-- The month and the day of the month that are `k` days after the start of month `month`, where
`lengths` are the lengths of that month and those after it. -/
def placeDay (month : Nat) : List Nat → Nat → Nat × Nat
  | [], k => (month, k + 1)
  | n :: lengths, k => if k < n then (month, k + 1) else placeDay (month + 1) lengths (k - n)

def Date.ofDayNumber (n : Int) : Date :=
  let year := yearOfDay n
  let (month, day) := placeDay 1 (monthLengths year) (n - yearStart year).toNat
  ⟨year, month, day⟩

end Markbook.Time
