import Markbook.Fault
import Markbook.Model.Exercise
import Markbook.Model.User

namespace Markbook

open Time

structure Submission where
  id : Int
  user : User
  exercise : Exercise
  time : Instant
  grades : List Float

namespace Submission

def isStored (s : Submission) : Bool :=
  s.id != noId

/-- The sum from left to right; the empty sum is negative zero. -/
def gradeSum (s : Submission) : Float :=
  s.grades.foldl (· + ·) (-0.0)

def checkGrades (s : Submission) : Except Fault Unit :=
  if s.grades.length = s.exercise.size then .ok ()
  else .error (.invalid (.gradeCount s.grades.length s.exercise.id s.exercise.size))

/-- Equal in every part, where grades are compared as numbers. -/
def same (a b : Submission) : Bool :=
  a.id == b.id && a.user == b.user && a.exercise == b.exercise && a.time == b.time &&
    a.grades == b.grades

end Submission

inductive Ranking
  | latest
  | best
deriving DecidableEq, Repr

def Ranking.name : Ranking → String
  | latest => "latest"
  | best => "best"

end Markbook
