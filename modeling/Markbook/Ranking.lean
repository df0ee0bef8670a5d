import Markbook.Model.Submission
import Markbook.Store.Basic
import Markbook.Store.Query

namespace Markbook

open Store

/-- A running sum with the rounding error that it has gathered. -/
structure RunningSum where
  sum : Float
  error : Float

namespace RunningSum

def zero : RunningSum := ⟨0, 0⟩

def add (r : RunningSum) (x : Float) : RunningSum :=
  let t := r.sum + x
  let slip := if r.sum.abs > x.abs then (r.sum - t) + x else (x - t) + r.sum
  ⟨t, r.error + slip⟩

def value (r : RunningSum) : Float :=
  if r.error.isFinite then r.sum + r.error else r.sum

end RunningSum

/-- The compensated sum of the cells that hold something; no sum if there are none, or if it is no
number. -/
def sumCells? (cells : List Cell) : Option Float :=
  match cells.filterMap Cell.addend? with
  | [] => none
  | xs =>
    let x := (xs.foldl RunningSum.add .zero).value
    if x.isNaN then none else some x

def gradeRowsOf (id : Int) (grades : List GradeRow) : List GradeRow :=
  arrange (fun a b => a.question.le b.question) (grades.filter (·.submission.same (.int id)))

namespace Ranking

def laterLe (a b : SubmissionRow) : Bool :=
  lexLe (fun a b => a.time.le b.time) (fun a b => a.id ≤ b.id) a b

def withUsers (users : List UserRow) (submissions : List SubmissionRow) :
    List (SubmissionRow × UserRow) :=
  innerJoin (fun r => users.filter fun u => r.user.same (.int u.id)) submissions

def isWanted (username : String) (exercise : Int) (x : SubmissionRow × UserRow) : Bool :=
  x.2.username == some username && x.1.exercise.same (.int exercise)

def latestRow? (users : List UserRow) (submissions : List SubmissionRow) (username : String)
    (exercise : Int) : Option SubmissionRow :=
  let rows := (withUsers users submissions).filter (isWanted username exercise)
  greatest? laterLe (rows.map (·.1))

abbrev GradedRow := (SubmissionRow × UserRow) × Option GradeRow

/-- The three tables side by side. Here a submission stands once for each of its grades, and once
if it has none. -/
def withGrades (users : List UserRow) (submissions : List SubmissionRow) (grades : List GradeRow) :
    List GradedRow :=
  leftJoin (fun x => gradeRowsOf x.1.id grades) (withUsers users submissions)

def sameSubmission (a b : GradedRow) : Bool :=
  a.1.1.id == b.1.1.id && a.1.1.user.same b.1.1.user && a.1.1.time.same b.1.1.time

def groupTotal (g : RowGroup GradedRow) : Float :=
  (sumCells? (g.members.map fun x => (x.2.map (·.grade)).getD .null)).getD 0

def betterLe (a b : RowGroup GradedRow) : Bool :=
  lexLe (fun a b => unitsOf (groupTotal a) ≤ unitsOf (groupTotal b))
    (fun a b => laterLe a.first.1.1 b.first.1.1) a b

def groups (users : List UserRow) (submissions : List SubmissionRow) (grades : List GradeRow)
    (username : String) (exercise : Int) : List (RowGroup GradedRow) :=
  grouped sameSubmission
    ((withGrades users submissions grades).filter fun x => isWanted username exercise x.1)

def bestRow? (users : List UserRow) (submissions : List SubmissionRow) (grades : List GradeRow)
    (username : String) (exercise : Int) : Option SubmissionRow :=
  (greatest? betterLe (groups users submissions grades username exercise)).map (·.first.1.1)

end Ranking

structure ReadGrade where
  question : Int
  grade : Option Float

def placeGrade (grades : List Float) (g : ReadGrade) : List Float :=
  if g.question < firstQuestion then grades
  else grades.set (g.question - firstQuestion).toNat (g.grade.getD 0)

/-- The grades of `count` questions: 0 where nothing is stored, and the last of several. -/
def placeGrades (rows : List ReadGrade) (count : Nat) : List Float :=
  rows.foldl placeGrade (List.replicate count 0)

end Markbook
