namespace Markbook

/-- Signed words of 64 bits are from `-int64Bound` to below `int64Bound`. -/
def int64Bound : Int := 9223372036854775808

def uint32Bound : Nat := 4294967296

def uint64Bound : Nat := 18446744073709551616

def isInt64 (n : Int) : Bool :=
  -int64Bound ≤ n && n < int64Bound

def word32? (n : Int) : Option UInt32 :=
  if 0 ≤ n ∧ n < uint32Bound then some (UInt32.ofNat n.toNat) else none

end Markbook
