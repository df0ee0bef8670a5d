import Markbook.Proofs.Execution
import Markbook.Proofs.Rows
import Markbook.Records.Submissions
import Markbook.Records.Users

namespace Markbook

open Store Work

variable {a : Access} {s s' : Store}

theorem withRows_of_gives_insertion {t : Relation} {σ : Schema t.Row} {r : t.Row} {v : Unit}
    (h : Gives (write t fun x => do
      let x' ← x.insert σ false r
      return ((), x')) a s v s') :
    (s.table t).isSome ∧ s.withRows t (s.rows t ++ [r]) = s' := by
  obtain ⟨-, -, x, x', hx, hf, rfl⟩ := gives_write.mp h
  simp only [bind_eq_ok, pure_eq_ok, Prod.mk.injEq, Table.insert_eq_ok] at hf
  obtain ⟨_, ⟨-, -, rfl⟩, -, rfl⟩ := hf
  exact ⟨by simp [hx], by rw [rows_of_table hx, withRows_of_table hx]⟩

theorem withRows_of_gives_generation {t : Relation} {σ : Schema t.Row} (key : t.Row → Int)
    (row : Int → t.Row) {id : Int}
    (h : Gives (write t fun x => do
      let id := x.nextId key
      let x' ← x.insert σ true (row id)
      return (id, x')) a s id s') :
    (s.table t).isSome ∧ id = nextAfter ((s.rows t).map key) ∧
      s.withRows t (s.rows t ++ [row id]) = s' := by
  obtain ⟨-, -, x, x', hx, hf, rfl⟩ := gives_write.mp h
  simp only [bind_eq_ok, pure_eq_ok, Prod.mk.injEq, Table.insert_eq_ok] at hf
  obtain ⟨_, ⟨-, -, rfl⟩, rfl, rfl⟩ := hf
  refine ⟨by simp [hx], ?_, ?_⟩
  · rw [rows_of_table hx]
    rfl
  · rw [rows_of_table hx, withRows_of_table hx]

theorem gives_forM_append {ι : Type} {t : Relation} {f : ι → Work Unit} (row : ι → t.Row)
    (hf : ∀ x s s', Gives (f x) a s () s' →
      (s.table t).isSome ∧ s.withRows t (s.rows t ++ [row x]) = s')
    {xs : List ι} {u : Unit} (h : Gives (xs.forM f) a s u s') :
    (xs = [] ∨ (s.table t).isSome) ∧ s.withRows t (s.rows t ++ xs.map row) = s' := by
  induction xs generalizing s u with
  | nil =>
      rw [gives_forM_nil] at h
      simpa [withRows_rows] using h
  | cons x xs ih =>
      obtain ⟨s₁, hx, hxs⟩ := gives_forM_cons.mp h
      obtain ⟨ht, rfl⟩ := hf x s s₁ hx
      have hs' := (ih hxs).2
      rw [rows_withRows_self ht, withRows_withRows] at hs'
      exact ⟨.inr ht, by simpa using hs'⟩

namespace Users

variable {u : User}

theorem rowOf?_eq_ok {username : String} {r : Option UserRow} :
    rowOf? username s = .ok r ↔
      (s.table .user).isSome ∧ (s.rows .user).find? (hasUsername username) = r := by
  rw [rowOf?]
  simp only [bind_eq_ok, pure_eq_ok, require_eq_ok (t := .user)]
  constructor
  · rintro ⟨x, hx, rfl⟩
    exact ⟨by simp [hx], by rw [rows_of_table hx]⟩
  · rintro ⟨ht, rfl⟩
    obtain ⟨x, hx⟩ := Option.isSome_iff_exists.mp ht
    exact ⟨x, hx, by rw [rows_of_table hx]⟩

theorem gives_idOf {username : String} {id : Option Int} :
    Gives (idOf username) a s id s' ↔ a.fault? = none ∧ (s.table .user).isSome ∧
      ((s.rows .user).find? (hasUsername username)).map (·.id) = id ∧ s = s' := by
  rw [idOf]
  simp only [gives_read, bind_eq_ok, pure_eq_ok, rowOf?_eq_ok]
  constructor
  · rintro ⟨ha, ⟨r, ⟨ht, rfl⟩, rfl⟩, rfl⟩
    exact ⟨ha, ht, rfl, rfl⟩
  · rintro ⟨ha, ht, rfl, rfl⟩
    exact ⟨ha, ⟨_, ⟨ht, rfl⟩, rfl⟩, rfl⟩

theorem gives_passwordOf {username : String} {password : Option String} :
    Gives (passwordOf username) a s password s' ↔ a.fault? = none ∧ (s.table .user).isSome ∧
      ((s.rows .user).find? (hasUsername username)).bind (·.password) = password ∧ s = s' := by
  rw [passwordOf]
  simp only [gives_read, bind_eq_ok, pure_eq_ok, rowOf?_eq_ok]
  constructor
  · rintro ⟨ha, ⟨r, ⟨ht, rfl⟩, rfl⟩, rfl⟩
    exact ⟨ha, ht, rfl, rfl⟩
  · rintro ⟨ha, ht, rfl, rfl⟩
    exact ⟨ha, ⟨_, ⟨ht, rfl⟩, rfl⟩, rfl⟩

theorem withRows_of_gives_insert {password : Option String} {id : Int}
    (h : Gives (insert u password) a s id s') :
    id = nextAfter ((s.rows .user).map (·.id)) ∧
      s.withRows .user (s.rows .user ++
        [⟨id, some u.username, some u.firstname, some u.lastname, password⟩]) = s' :=
  (withRows_of_gives_generation (t := .user) (·.id)
    (⟨·, some u.username, some u.firstname, some u.lastname, password⟩) h).2

theorem withRows_of_gives_update {id : Int} {f : UserRow → UserRow} {v : Unit}
    (h : Gives (update id f) a s v s') :
    s.withRows .user ((s.rows .user).map fun r => if r.id == id then f r else r) = s' := by
  obtain ⟨-, -, x, x', hx, hf, rfl⟩ := gives_write.mp h
  simp only [bind_eq_ok, pure_eq_ok, Prod.mk.injEq, Prod.exists] at hf
  obtain ⟨n, x₁, hu, -, rfl⟩ := hf
  rw [← Table.update_eq_ok hu, rows_of_table hx, withRows_of_table hx]

def renewed (u : User) (p : Option String → Option String) (r : UserRow) : UserRow :=
  { r with password := p r.password, firstname := some u.firstname, lastname := some u.lastname }

/-- The work that `enrol` and `identify` have in common. -/
def settle (u : User) (p : Option String → Option String) : Work Int := do
  match ← idOf u.username with
  | some id =>
    update id (renewed u p)
    return id
  | none => insert u (p none)

theorem enrol_eq_settle (u : User) (password : String) :
    enrol u password = settle u fun _ => some password := rfl

theorem identify_eq_settle (u : User) : identify u = settle u id := rfl

/-- The rows of the users after `u` was stored, and the id that `u` has among them: the first row
with the username leads to the row that is renewed, and without one a row is added. -/
inductive Settled (u : User) (p : Option String → Option String) (rows : List UserRow) :
    Int → List UserRow → Prop
  | known (r : UserRow) (h : rows.find? (hasUsername u.username) = some r) :
      Settled u p rows r.id (rows.map fun x => if x.id == r.id then renewed u p x else x)
  | new (h : rows.find? (hasUsername u.username) = none) :
      Settled u p rows (nextAfter (rows.map (·.id)))
        (rows ++ [⟨nextAfter (rows.map (·.id)), some u.username, some u.firstname,
          some u.lastname, p none⟩])

theorem settled_of_gives {p : Option String → Option String} {id : Int}
    (h : Gives (settle u p) a s id s') :
    (s.table .user).isSome ∧ ∃ rows, Settled u p (s.rows .user) id rows ∧
      s.withRows .user rows = s' := by
  obtain ⟨found, s₁, hid, h⟩ := gives_bind.mp h
  obtain ⟨-, ht, rfl, rfl⟩ := gives_idOf.mp hid
  refine ⟨ht, ?_⟩
  cases hr : (s.rows .user).find? (hasUsername u.username) with
  | none =>
      simp only [hr, Option.map_none] at h
      obtain ⟨rfl, rfl⟩ := withRows_of_gives_insert h
      exact ⟨_, .new hr, rfl⟩
  | some r =>
      simp only [hr, Option.map_some, gives_bind, gives_pure] at h
      obtain ⟨_, s₁, hu, rfl, rfl⟩ := h
      obtain rfl := withRows_of_gives_update hu
      exact ⟨_, .known r hr, rfl⟩

end Users

namespace Exercises

theorem gives_isRegistered {id : Int} {known : Bool} :
    Gives (isRegistered id) a s known s' ↔ a.fault? = none ∧ (s.table .exercise).isSome ∧
      (s.rows .exercise).any (·.id == id) = known ∧ s = s' := by
  rw [isRegistered]
  simp only [gives_read, bind_eq_ok, pure_eq_ok, require_eq_ok (t := .exercise)]
  constructor
  · rintro ⟨ha, ⟨x, hx, rfl⟩, rfl⟩
    exact ⟨ha, by simp [hx], by rw [rows_of_table hx], rfl⟩
  · rintro ⟨ha, ht, rfl, rfl⟩
    obtain ⟨x, hx⟩ := Option.isSome_iff_exists.mp ht
    exact ⟨ha, ⟨x, hx, by rw [rows_of_table hx]⟩, rfl⟩

def rowOf (e : Exercise) : ExerciseRow :=
  ⟨e.id, some e.name, .int e.due.toMillis⟩

def questionRowOf (exercise : Int) (x : Int × Question) : QuestionRow :=
  ⟨.int exercise, .int x.1, some x.2.name, some x.2.description, .int x.2.points.toNat⟩

theorem withRows_of_gives_insert {e : Exercise} {v : Unit} (h : Gives (insert e) a s v s') :
    s.withRows .exercise (s.rows .exercise ++ [rowOf e]) = s' :=
  (withRows_of_gives_insertion (t := .exercise) h).2

theorem withRows_of_gives_addQuestions {exercise : Int} {questions : List Question} {v : Unit}
    (h : Gives (addQuestions exercise questions) a s v s') :
    (questions = [] ∨ (s.table .question).isSome) ∧
      s.withRows .question
        (s.rows .question ++ (numbered questions).map (questionRowOf exercise)) = s' := by
  have hq := gives_forM_append (t := .question) (questionRowOf exercise) (by
    rintro ⟨number, q⟩ s s' hq
    exact withRows_of_gives_insertion (t := .question) hq) h
  refine ⟨hq.1.imp_left ?_, hq.2⟩
  simp [numbered]

end Exercises

namespace Submissions

theorem withRows_of_gives_insert {user exercise ms id : Int}
    (h : Gives (insert user exercise ms) a s id s') :
    (s.table .submission).isSome ∧ id = nextAfter ((s.rows .submission).map (·.id)) ∧
      s.withRows .submission (s.rows .submission ++
        [⟨id, .int user, .int exercise, .int ms⟩]) = s' :=
  withRows_of_gives_generation (t := .submission) (·.id)
    (⟨·, .int user, .int exercise, .int ms⟩) h

def setRow (r : SubmissionRow) (rows : List SubmissionRow) : List SubmissionRow :=
  if rows.any (·.id == r.id) then rows.map fun x => if x.id == r.id then r else x
  else rows ++ [r]

theorem withRows_of_gives_put {id user exercise ms : Int} {v : Unit}
    (h : Gives (put id user exercise ms) a s v s') :
    (s.table .submission).isSome ∧
      s.withRows .submission
        (setRow ⟨id, .int user, .int exercise, .int ms⟩ (s.rows .submission)) = s' := by
  obtain ⟨-, -, x, x', hx, hf, rfl⟩ := gives_write.mp h
  simp only [bind_eq_ok, pure_eq_ok, Prod.mk.injEq] at hf
  obtain ⟨x₁, hu, -, rfl⟩ := hf
  have hmap : (x.rows.map fun r : SubmissionRow => if r.id == id then
        { r with user := .int user, exercise := .int exercise, time := .int ms } else r) =
      x.rows.map fun r => if r.id == id then ⟨id, .int user, .int exercise, .int ms⟩ else r := by
    apply List.map_congr_left
    intro r _
    by_cases hr : r.id = id <;> simp [hr]
  refine ⟨by simp [hx], ?_⟩
  rw [← Table.upsert_eq_ok hu, hmap, rows_of_table hx, withRows_of_table hx]
  rfl

theorem withRows_of_gives_clearGrades {id : Int} {n : Nat} (h : Gives (clearGrades id) a s n s') :
    (s.table .grade).isSome ∧ n = ((s.rows .grade).filter (belongsTo id)).length ∧
      s.withRows .grade ((s.rows .grade).filter (!belongsTo id ·)) = s' := by
  obtain ⟨-, -, x, x', hx, hf, rfl⟩ := gives_write.mp h
  obtain ⟨hn, rfl⟩ := Table.delete_eq_ok hf
  exact ⟨by simp [hx], by rw [rows_of_table hx, hn], by rw [rows_of_table hx, withRows_of_table hx]⟩

def gradeRowOf (id : Int) (x : Int × Float) : GradeRow :=
  ⟨.int id, .int x.1, .ofReal x.2⟩

def regraded (id : Int) (grades : List Float) (rows : List GradeRow) : List GradeRow :=
  rows.filter (!belongsTo id ·) ++ (numbered grades).map (gradeRowOf id)

theorem withRows_of_gives_addGrades {id : Int} {grades : List Float} {v : Unit}
    (h : Gives (addGrades id grades) a s v s') :
    s.withRows .grade (s.rows .grade ++ (numbered grades).map (gradeRowOf id)) = s' := by
  refine (gives_forM_append (t := .grade) (gradeRowOf id) ?_ h).2
  rintro ⟨number, grade⟩ s s' hg
  exact withRows_of_gives_insertion (t := .grade) hg

end Submissions

end Markbook
