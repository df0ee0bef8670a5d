namespace Markbook

/-- The id of a value that has not been stored. -/
def noId : Int := -1

def leastNameLength : Nat := 1

structure User where
  id : Int
  username : String
  firstname : String
  lastname : String
deriving DecidableEq, Repr

namespace User

def isStored (u : User) : Bool :=
  u.id != noId

def fullName (u : User) : String :=
  u.firstname ++ " " ++ u.lastname

def hasName (u : User) : Bool :=
  leastNameLength ≤ u.username.length

end User

end Markbook
