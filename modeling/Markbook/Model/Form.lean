import Markbook.Document
import Markbook.Model.Submission
import Markbook.Time.Stamp
import Markbook.Word

namespace Markbook

open Time

def idOfForm? (d : Document) : Option Int := do
  let n ← d.int?
  if isInt64 n then some n else none

def timeOfForm? (d : Document) : Option Instant := do
  Instant.ofStamp? (← d.text?)

namespace User

def toForm (u : User) : Document :=
  .object [("id", .int u.id), ("username", .text u.username), ("firstname", .text u.firstname),
    ("lastname", .text u.lastname)]

def ofForm? (d : Document) : Option User := do
  match ← d.fields? ["id", "username", "firstname", "lastname"] with
  | [id, username, firstname, lastname] =>
    return ⟨← idOfForm? id, ← username.text?, ← firstname.text?, ← lastname.text?⟩
  | _ => none

end User

namespace Question

def toForm (q : Question) : Document :=
  .object [("name", .text q.name), ("description", .text q.description),
    ("points", .int q.points.toNat)]

def pointsOfForm? (d : Document) : Option UInt32 := do
  word32? (← d.int?)

def ofForm? (d : Document) : Option Question := do
  match ← d.fields? ["name", "description", "points"] with
  | [name, description, points] =>
    return ⟨← name.text?, ← description.text?, ← pointsOfForm? points⟩
  | _ => none

end Question

namespace Exercise

def toForm (e : Exercise) : Document :=
  .object [("id", .int e.id), ("name", .text e.name), ("due_date", .text e.due.stamp),
    ("questions", .list (e.questions.map Question.toForm))]

def ofForm? (d : Document) : Option Exercise := do
  match ← d.fields? ["id", "name", "due_date", "questions"] with
  | [id, name, due, questions] =>
    return ⟨← idOfForm? id, ← name.text?, ← timeOfForm? due,
      ← (← questions.list?).mapM Question.ofForm?⟩
  | _ => none

end Exercise

namespace Submission

def toForm (s : Submission) : Document :=
  .object [("id", .int s.id), ("user", s.user.toForm), ("exercise", s.exercise.toForm),
    ("submission_time", .text s.time.stamp), ("question_grades", .list (s.grades.map .real))]

def ofForm? (d : Document) : Option Submission := do
  match ← d.fields? ["id", "user", "exercise", "submission_time", "question_grades"] with
  | [id, user, exercise, time, grades] =>
    return ⟨← idOfForm? id, ← User.ofForm? user, ← Exercise.ofForm? exercise, ← timeOfForm? time,
      ← (← grades.list?).mapM Document.real?⟩
  | _ => none

end Submission

end Markbook
