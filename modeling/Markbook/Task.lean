import Markbook.Answer
import Markbook.Direct
import Markbook.Records.Submissions
import Markbook.Records.Users

namespace Markbook

open Store

inductive Task
  | insertUser (u : User) (password : Option String)
  | userId (username : String)
  | findUser (username : String)
  | passwordOf (username : String)
  | setCredentials (id : Int) (u : User) (password : String)
  | rename (id : Int) (u : User)
  | enrolUser (u : User) (password : String)
  | identifyUser (u : User)
  | userCount
  | isRegistered (id : Int)
  | insertExercise (e : Exercise)
  | addQuestions (id : Int) (questions : List Question)
  | allExercises
  | questionCount (id : Int)
  | catalogueSize
  | insertSubmission (user exercise ms : Int)
  | putSubmission (id user exercise ms : Int)
  | clearGrades (id : Int)
  | addGrades (id : Int) (grades : List Float)
  | gradeCount (id : Int)
  | dump
  | insertRow (t : Relation) (cells : List (String × Cell))
  | updateRows (t : Relation) (values condition : List (String × Cell))
  | deleteRows (t : Relation) (condition : List (String × Cell))
  | dropTable (t : Relation)
  | addIndex (t : Relation) (column : String)
  | addGuard (t : Relation) (change : Change) (reason : String) (only : Option (String × Cell))
  | removeGuard (t : Relation) (change : Change)

namespace Task

def run : Task → Work Answer
  | insertUser u password => .number <$> Users.insert u password
  | userId username => .optional <$> Users.idOf username
  | findUser username => .user <$> Users.find username
  | passwordOf username => .text <$> Users.passwordOf username
  | setCredentials id u password => (fun _ => .done) <$> Users.setCredentials id u password
  | rename id u => (fun _ => .done) <$> Users.rename id u
  | enrolUser u password => .number <$> Users.enrol u password
  | identifyUser u => .number <$> Users.identify u
  | userCount => (.number ·) <$> Users.count
  | isRegistered id => .flag <$> Exercises.isRegistered id
  | insertExercise e => (fun _ => .done) <$> Exercises.insert e
  | addQuestions id questions => (fun _ => .done) <$> Exercises.addQuestions id questions
  | allExercises => .exercises <$> Exercises.all
  | questionCount id => (.number ·) <$> Exercises.questionCount id
  | catalogueSize => (.number ·) <$> Exercises.count
  | insertSubmission user exercise ms => .number <$> Submissions.insert user exercise ms
  | putSubmission id user exercise ms => (fun _ => .done) <$> Submissions.put id user exercise ms
  | clearGrades id => (.number ·) <$> Submissions.clearGrades id
  | addGrades id grades => (fun _ => .done) <$> Submissions.addGrades id grades
  | gradeCount id => (.number ·) <$> Submissions.gradeCount id
  | dump => .tables <$> Direct.tables
  | insertRow t cells => (fun _ => .number 1) <$> Direct.insertRow t cells
  | updateRows t values condition => (.number ·) <$> Direct.updateRows t values condition
  | deleteRows t condition => (.number ·) <$> Direct.deleteRows t condition
  | dropTable t => (fun _ => .done) <$> Work.drop t
  | addIndex t column => (fun _ => .done) <$> Direct.addIndex t column
  | addGuard t change reason only => (fun _ => .done) <$> Direct.addGuard t change reason only
  | removeGuard t change => (fun _ => .done) <$> Direct.removeGuard t change

def reads : Task → List Relation
  | userId _ | findUser _ | passwordOf _ | enrolUser .. | identifyUser _ | userCount => [.user]
  | isRegistered _ | catalogueSize => [.exercise]
  | allExercises => [.exercise, .question]
  | questionCount _ => [.question]
  | gradeCount _ => [.grade]
  | dump => Relation.all
  | _ => []

def runAlone (t : Task) : Work Answer := do
  .connected
  t.run

/-- Runs tasks one after the other, whether they fail or not, and keeps what they did only if
`commit` says so. -/
def runAll (tasks : List Task) (commit : Bool) : Work Answer := do
  .connected
  let results : Work Answer := .many <$> tasks.mapM fun t => t.run.attempt
  if commit then results else results.undone

end Task

end Markbook
