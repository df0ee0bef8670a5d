import Markbook.Store.Table

namespace Markbook.Store

structure UserRow where
  id : Int
  username : Option String
  firstname : Option String
  lastname : Option String
  password : Option String

structure ExerciseRow where
  id : Int
  name : Option String
  due : Cell

structure QuestionRow where
  exercise : Cell
  question : Cell
  name : Option String
  description : Option String
  points : Cell

structure SubmissionRow where
  id : Int
  user : Cell
  exercise : Cell
  time : Cell

structure GradeRow where
  submission : Cell
  question : Cell
  grade : Cell

inductive Relation
  | user
  | exercise
  | question
  | submission
  | grade
deriving DecidableEq, Repr

namespace Relation

@[reducible]
def Row : Relation → Type
  | user => UserRow
  | exercise => ExerciseRow
  | question => QuestionRow
  | submission => SubmissionRow
  | grade => GradeRow

/-- In the order in which tables are created. -/
def all : List Relation := [user, exercise, question, submission, grade]

def name : Relation → String
  | user => "User"
  | exercise => "Exercise"
  | question => "Question"
  | submission => "Submission"
  | grade => "QuestionGrade"

def ofName? (name : String) : Option Relation :=
  all.find? (·.name == name)

def userSchema : Schema UserRow :=
  let id : Column UserRow := .key "UserId" (·.id) fun n r => { r with id := n }
  let username : Column UserRow :=
    .text "Username" (·.username) fun s r => { r with username := s }
  { name := name user
    blank := ⟨0, none, none, none, none⟩
    columns := [id, username,
      .text "Firstname" (·.firstname) fun s r => { r with firstname := s },
      .text "Lastname" (·.lastname) fun s r => { r with lastname := s },
      .text "Password" (·.password) fun s r => { r with password := s }]
    rowId := some ⟨id, (·.id), fun n r => { r with id := n }⟩
    unique := [[username]]
    order := [id] }

def exerciseSchema : Schema ExerciseRow :=
  let id : Column ExerciseRow := .key "ExerciseId" (·.id) fun n r => { r with id := n }
  { name := name exercise
    blank := ⟨0, none, .null⟩
    columns := [id,
      .text "Name" (·.name) fun s r => { r with name := s },
      .integer "DueDate" (·.due) fun c r => { r with due := c }]
    rowId := some ⟨id, (·.id), fun n r => { r with id := n }⟩
    unique := []
    order := [id] }

def questionSchema : Schema QuestionRow :=
  let exercise : Column QuestionRow :=
    .integer "ExerciseId" (·.exercise) fun c r => { r with exercise := c }
  let id : Column QuestionRow :=
    .integer "QuestionId" (·.question) fun c r => { r with question := c }
  { name := name question
    blank := ⟨.null, .null, none, none, .null⟩
    columns := [exercise, id,
      .text "Name" (·.name) fun s r => { r with name := s },
      .text "Desc" (·.description) fun s r => { r with description := s },
      .integer "Points" (·.points) fun c r => { r with points := c }]
    rowId := none
    unique := [[exercise, id]]
    order := [exercise, id] }

def submissionSchema : Schema SubmissionRow :=
  let id : Column SubmissionRow := .key "SubmissionId" (·.id) fun n r => { r with id := n }
  { name := name submission
    blank := ⟨0, .null, .null, .null⟩
    columns := [id,
      .integer "UserId" (·.user) fun c r => { r with user := c },
      .integer "ExerciseId" (·.exercise) fun c r => { r with exercise := c },
      .integer "SubmissionTime" (·.time) fun c r => { r with time := c }]
    rowId := some ⟨id, (·.id), fun n r => { r with id := n }⟩
    unique := []
    order := [id] }

def gradeSchema : Schema GradeRow :=
  let submission : Column GradeRow :=
    .integer "SubmissionId" (·.submission) fun c r => { r with submission := c }
  let question : Column GradeRow :=
    .integer "QuestionId" (·.question) fun c r => { r with question := c }
  { name := name grade
    blank := ⟨.null, .null, .null⟩
    columns := [submission, question, .real "Grade" (·.grade) fun c r => { r with grade := c }]
    rowId := none
    unique := [[submission, question]]
    order := [submission, question] }

def schema : (t : Relation) → Schema t.Row
  | user => userSchema
  | exercise => exerciseSchema
  | question => questionSchema
  | submission => submissionSchema
  | grade => gradeSchema

end Relation

end Markbook.Store
