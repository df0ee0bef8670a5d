import Markbook.Time.Instant

namespace Markbook

open Time

def firstQuestion : Int := 1

def numbered {α : Type} (xs : List α) : List (Int × α) :=
  xs.zipIdx.map fun (x, i) => (firstQuestion + i, x)

structure Question where
  name : String
  description : String
  points : UInt32
deriving DecidableEq, Repr

structure Exercise where
  id : Int
  name : String
  due : Instant
  questions : List Question
deriving DecidableEq, Repr

namespace Exercise

def size (e : Exercise) : Nat :=
  e.questions.length

def pointSum (e : Exercise) : Nat :=
  e.questions.foldr (fun q n => q.points.toNat + n) 0

end Exercise

inductive Registration
  | added (id : Int)
  | alreadyExists
deriving DecidableEq, Repr

def Registration.isNew : Registration → Bool
  | added _ => true
  | alreadyExists => false

end Markbook
