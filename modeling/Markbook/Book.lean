import Markbook.Lent
import Markbook.Records.Submissions
import Markbook.Records.Users

namespace Markbook.Book

open Store

def createTables : Work Unit :=
  .transaction <| Relation.all.forM fun t => do
    .report (.ensuringTable t.name)
    .create t

example : (createTables .readWrite .bare).store = .fresh := rfl

def checkName (u : User) : Except Fault Unit :=
  if u.hasName then .ok () else .error (.invalid .username)

def storing (password : String) : Lent User Int := do
  let u ← .value
  .work (.ofExcept (checkName u))
  let id ← .work (.transaction (Users.enrol u password))
  .work (.report (.storedUser u.username id))
  .assign { u with id }
  return id

def storeUser (u : User) (password : String) : Work User :=
  (storing password).returning u

def checkLogin (username password : String) : Work Bool := do
  let stored ← Users.passwordOf username
  let valid := stored == some password
  if !valid then
    .report (.rejectedLogin username)
  return valid

def findUser (username : String) : Work (Option User) :=
  Users.find username

/-- A question number that is taken while the exercise is new belongs to data that was left over,
which is no fault of the caller. -/
def leftOver : Fault → Fault
  | .alreadyExists clash => .database (.taken clash)
  | e => e

def enter (e : Exercise) : Work Registration := do
  if ← Exercises.isRegistered e.id then
    .report (.alreadyRegistered e.id)
    return .alreadyExists
  match ← .attempt (Exercises.insert e) with
  | .ok () =>
    .mapFault leftOver (Exercises.addQuestions e.id e.questions)
    return .added e.id
  | .error (.alreadyExists _) =>
    .report (.registeredConcurrently e.id)
    return .alreadyExists
  | .error other => .fail other

def register (e : Exercise) : Work Registration := do
  let registration ← .transaction (enter e)
  if registration.isNew then
    .report (.registered e.id e.size)
  return registration

def catalogue : Work (List Exercise) := do
  let exercises ← Exercises.all
  .report (.loadedExercises exercises.length)
  return exercises

def catalogueSize : Work Nat :=
  Exercises.count

structure Stored where
  user : Int
  submission : Int
  replaced : Nat

def record (x : Submission) : Work Stored := do
  let user ← Users.identify x.user
  let id ←
    if x.isStored then do
      Submissions.put x.id user x.exercise.id x.time.toMillis
      pure x.id
    else Submissions.insert user x.exercise.id x.time.toMillis
  let replaced ← Submissions.clearGrades id
  Submissions.addGrades id x.grades
  return ⟨user, id, replaced⟩

/-- Stores the submission that it is lent: under its own id if it has one, where it takes the place
of what was there, and else under a new id. It has its ids in the store then. -/
def submitting : Lent Submission Int := do
  let x ← .value
  .work (.ofExcept x.checkGrades)
  .work (.ofExcept (checkName x.user))
  let stored ← .work (.transaction (record x))
  .work <|
    if stored.replaced > 0 then
      .report (.regraded stored.submission stored.replaced)
    else
      .report (.storedSubmission stored.submission x.user.username x.exercise.id)
  .assign { x with id := stored.submission, user := { x.user with id := stored.user } }
  return stored.submission

def submit (x : Submission) : Work Submission :=
  submitting.returning x

def topSubmission (ranking : Ranking) (u : User) (e : Exercise) : Work (Option Submission) := do
  match ← Submissions.rank ranking u.username e.id with
  | none =>
    .report (.noSubmission ranking u.username e.id)
    return none
  | some winner =>
    let rows ← Submissions.gradesOf winner.id e.size
    let time ← .ofExcept (Time.Instant.ofStored winner.ms)
    return some
      { id := winner.id
        user := { u with id := winner.user }
        exercise := e
        time
        grades := placeGrades rows e.size }

def latestSubmission (u : User) (e : Exercise) : Work (Option Submission) :=
  topSubmission .latest u e

def bestSubmission (u : User) (e : Exercise) : Work (Option Submission) :=
  topSubmission .best u e

def gradeCount (id : Int) : Work Nat :=
  Submissions.gradeCount id

end Markbook.Book
