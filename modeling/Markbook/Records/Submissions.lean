import Markbook.Ranking
import Markbook.Records.Exercises

namespace Markbook.Submissions

open Store

def insert (user exercise ms : Int) : Work Int :=
  .write .submission fun t => do
    let id := t.nextId (·.id)
    let t' ← t.insert Relation.submissionSchema true ⟨id, .int user, .int exercise, .int ms⟩
    return (id, t')

/-- Adds a submission under its own id, or gives the one that has the id a new content. -/
def put (id user exercise ms : Int) : Work Unit :=
  .write .submission fun t => do
    let t' ← t.upsert Relation.submissionSchema (·.id) ⟨id, .int user, .int exercise, .int ms⟩
      fun r => { r with user := .int user, exercise := .int exercise, time := .int ms }
    return ((), t')

def belongsTo (id : Int) (r : GradeRow) : Bool :=
  r.submission.same (.int id)

def clearGrades (id : Int) : Work Nat :=
  .write .grade fun t => t.delete Relation.gradeSchema (belongsTo id)

def addGrade (id number : Int) (grade : Float) : Work Unit :=
  .write .grade fun t => do
    let t' ← t.insert Relation.gradeSchema false ⟨.int id, .int number, .ofReal grade⟩
    return ((), t')

def addGrades (id : Int) (grades : List Float) : Work Unit :=
  (numbered grades).forM fun (number, grade) => addGrade id number grade

def gradeCount (id : Int) : Work Nat :=
  .read fun s => return ((← s.require .grade).rows.filter (belongsTo id)).length

structure Winner where
  id : Int
  user : Int
  ms : Int

def readWinner (r : SubmissionRow) : Except StoreError Winner := do
  return ⟨r.id, ← r.user.readInt "user_id", ← r.time.readInt "submission_time"⟩

def rankedRow? (ranking : Ranking) (username : String) (exercise : Int) (s : Store) :
    Except StoreError (Option SubmissionRow) := do
  let submissions ← s.require .submission
  let users ← s.require .user
  match ranking with
  | .latest => return Ranking.latestRow? users.rows submissions.rows username exercise
  | .best =>
    let grades ← s.require .grade
    return Ranking.bestRow? users.rows submissions.rows grades.rows username exercise

def rank (ranking : Ranking) (username : String) (exercise : Int) : Work (Option Winner) :=
  .read fun s => do (← rankedRow? ranking username exercise s).mapM readWinner

def readGradeRow (r : GradeRow) : Except StoreError ReadGrade := do
  return ⟨← r.question.readInt "question_id", ← r.grade.readGrade "grade"⟩

def gradesOf (id : Int) (limit : Nat) : Work (List ReadGrade) :=
  .read fun s => do
    let submissions ← s.require .submission
    let grades ← s.require .grade
    if submissions.rows.any (·.id == id) then
      ((gradeRowsOf id grades.rows).take limit).mapM readGradeRow
    else return []

end Markbook.Submissions
