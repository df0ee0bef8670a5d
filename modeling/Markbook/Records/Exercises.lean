import Markbook.Store.Work
import Markbook.Time.Stored

namespace Markbook.Exercises

open Store Time

def isRegistered (id : Int) : Work Bool :=
  .read fun s => return (← s.require .exercise).rows.any (·.id == id)

def insert (e : Exercise) : Work Unit :=
  .write .exercise fun t => do
    let t' ← t.insert Relation.exerciseSchema false ⟨e.id, some e.name, .int e.due.toMillis⟩
    return ((), t')

def addQuestion (exercise number : Int) (q : Question) : Work Unit :=
  .write .question fun t => do
    let t' ← t.insert Relation.questionSchema false
      ⟨.int exercise, .int number, some q.name, some q.description, .int q.points.toNat⟩
    return ((), t')

def addQuestions (exercise : Int) (questions : List Question) : Work Unit :=
  (numbered questions).forM fun (number, q) => addQuestion exercise number q

structure ReadExercise where
  id : Int
  name : String
  due : Int

def readExercise (r : ExerciseRow) : Except StoreError ReadExercise := do
  return ⟨r.id, r.name.getD "", ← r.due.readInt "due_date"⟩

structure ReadQuestion where
  exercise : Int
  question : Int
  name : String
  description : String
  points : Int

def readQuestion (r : QuestionRow) : Except StoreError ReadQuestion := do
  return ⟨← r.exercise.readInt "exercise_id", ← r.question.readInt "question_id",
    r.name.getD "", r.description.getD "", ← r.points.readInt "points"⟩

def exerciseRows (s : Store) : Except StoreError (List ReadExercise) := do
  (arrange Relation.exerciseSchema.le (← s.require .exercise).rows).mapM readExercise

def questionRows (s : Store) : Except StoreError (List ReadQuestion) := do
  (arrange Relation.questionSchema.le (← s.require .question).rows).mapM readQuestion

def checkQuestion (q : ReadQuestion) : Except Fault (Int × Question) :=
  match word32? q.points with
  | some points => .ok (q.exercise, ⟨q.name, q.description, points⟩)
  | none => .error (.corrupt (.points q.question q.exercise q.points))

abbrev QuestionMap := List (Int × List Question)

namespace QuestionMap

def push (exercise : Int) (q : Question) : QuestionMap → QuestionMap
  | [] => [(exercise, [q])]
  | (k, questions) :: m =>
    if k = exercise then (k, questions ++ [q]) :: m else (k, questions) :: push exercise q m

def questionsOf (m : QuestionMap) (exercise : Int) : List Question :=
  (m.lookup exercise).getD []

def remove (m : QuestionMap) (exercise : Int) : QuestionMap :=
  m.filter (·.1 != exercise)

end QuestionMap

/-- Puts each question behind those of its exercise that came before, if it passes the check. -/
def fill (m : QuestionMap) : List ReadQuestion → Except Fault QuestionMap
  | [] => .ok m
  | q :: questions => do
    let (exercise, question) ← checkQuestion q
    fill (m.push exercise question) questions

def drain (m : QuestionMap) : List ReadExercise → Except Fault (List Exercise)
  | [] => .ok []
  | e :: exercises => do
    let due ← Instant.ofStored e.due
    let rest ← drain (m.remove e.id) exercises
    return ⟨e.id, e.name, due, m.questionsOf e.id⟩ :: rest

/-- All exercises by id, each with its questions by number. All questions are checked before the
first exercise is. -/
def all : Work (List Exercise) := do
  let exercises ← .read exerciseRows
  let questions ← .read questionRows
  .ofExcept do drain (← fill [] questions) exercises

def belongsTo (id : Int) (r : QuestionRow) : Bool :=
  r.exercise.same (.int id)

def questionCount (id : Int) : Work Nat :=
  .read fun s => return ((← s.require .question).rows.filter (belongsTo id)).length

def count : Work Nat :=
  .read fun s => return (← s.require .exercise).rows.length

end Markbook.Exercises
