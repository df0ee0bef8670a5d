namespace Markbook.Time

/-- The first second of the year -262143, and the last of the year 262142. -/
def firstSecond : Int := -8334601228800

@[inherit_doc firstSecond]
def lastSecond : Int := 8210266876799

def secondNanos : Nat := 1000000000

def milliNanos : Nat := 1000000

/-- A second since the epoch and the nanoseconds since it began. There may be up to two thousand
million of them: past the first thousand million, the instant is in a leap second. -/
structure Instant where
  second : Int
  nano : Nat
  first_le : firstSecond ≤ second
  le_last : second ≤ lastSecond
  nano_lt : nano < 2 * secondNanos
deriving DecidableEq, Repr

namespace Instant

/-- Gives a leap second only at the end of a minute. -/
def of? (second : Int) (nano : Nat) : Option Instant :=
  if h : firstSecond ≤ second ∧ second ≤ lastSecond ∧ nano < 2 * secondNanos ∧
      (nano < secondNanos ∨ second % 60 = 59) then
    some ⟨second, nano, h.1, h.2.1, h.2.2.1⟩
  else none

def isLeap (t : Instant) : Bool :=
  secondNanos ≤ t.nano

/-- Milliseconds since the epoch, cut off below. A leap second runs past the end of its second. -/
def toMillis (t : Instant) : Int :=
  t.second * 1000 + (t.nano / milliNanos : Nat)

def ofMillis? (ms : Int) : Option Instant :=
  of? (ms / 1000) ((ms % 1000).toNat * milliNanos)

def le (a b : Instant) : Bool :=
  a.second < b.second || (a.second == b.second && a.nano ≤ b.nano)

instance : LE Instant := ⟨fun a b => a.le b = true⟩

instance (a b : Instant) : Decidable (a ≤ b) :=
  inferInstanceAs (Decidable (a.le b = true))

end Instant

end Markbook.Time
