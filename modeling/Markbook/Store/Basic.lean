import Markbook.Store.Relation

namespace Markbook

open Store

structure Store where
  users : Option (Table UserRow)
  exercises : Option (Table ExerciseRow)
  questions : Option (Table QuestionRow)
  submissions : Option (Table SubmissionRow)
  grades : Option (Table GradeRow)

namespace Store

def bare : Store := ⟨none, none, none, none, none⟩

def fresh : Store := ⟨some .empty, some .empty, some .empty, some .empty, some .empty⟩

def table (s : Store) : (t : Relation) → Option (Table t.Row)
  | .user => s.users
  | .exercise => s.exercises
  | .question => s.questions
  | .submission => s.submissions
  | .grade => s.grades

def setTable (s : Store) : (t : Relation) → Option (Table t.Row) → Store
  | .user, x => { s with users := x }
  | .exercise, x => { s with exercises := x }
  | .question, x => { s with questions := x }
  | .submission, x => { s with submissions := x }
  | .grade, x => { s with grades := x }

def require (s : Store) (t : Relation) : Except StoreError (Table t.Row) :=
  match s.table t with
  | some x => .ok x
  | none => .error (.noSuchTable t.name)

def rows (s : Store) (t : Relation) : List t.Row :=
  ((s.table t).map (·.rows)).getD []

@[simp]
theorem table_setTable_self (s : Store) (t : Relation) (x : Option (Table t.Row)) :
    (s.setTable t x).table t = x := by
  cases t <;> rfl

theorem table_setTable_of_ne (s : Store) {t u : Relation} (h : u ≠ t) (x : Option (Table t.Row)) :
    (s.setTable t x).table u = s.table u := by
  cases t <;> cases u <;> simp_all [table, setTable]

end Store

end Markbook
