import Markbook.Proofs.RowChanges
import Markbook.Proofs.Atomicity

namespace Markbook.Store

open Work

def numbersTo (n : Nat) : List Cell :=
  (List.range n).map fun k : Nat => .int (k + 1)

/-- Rows that a book could have written. -/
structure Sound (users : List UserRow) (exercises : List ExerciseRow) (questions : List QuestionRow)
    (submissions : List SubmissionRow) (grades : List GradeRow) : Prop where
  userIds : (users.map (·.id)).Nodup
  usernames : (users.map (·.username)).Nodup
  named : ∀ u ∈ users, ∃ name, u.username = some name ∧ name ≠ ""
  exerciseIds : (exercises.map (·.id)).Nodup
  submissionIds : (submissions.map (·.id)).Nodup
  submissionUser : ∀ r ∈ submissions, ∃ u ∈ users, r.user = .int u.id
  gradeSubmission : ∀ g ∈ grades, ∃ r ∈ submissions, g.submission = .int r.id
  gradeNumbers : ∀ r ∈ submissions, ∃ n,
    (grades.filter (Submissions.belongsTo r.id)).map (·.question) = numbersTo n
  questionExercise : ∀ q ∈ questions, ∃ e ∈ exercises, q.exercise = .int e.id
  questionNumbers : ∀ e ∈ exercises, ∃ n,
    (questions.filter (Exercises.belongsTo e.id)).map (·.question) = numbersTo n
  questionPoints : ∀ q ∈ questions, ∃ n : Nat, n < uint32Bound ∧ q.points = .int n

def Integrity (s : Store) : Prop :=
  Sound (s.rows .user) (s.rows .exercise) (s.rows .question) (s.rows .submission) (s.rows .grade)

theorem map_question_numbered {α ρ : Type} (question : ρ → Cell) (row : Int × α → ρ)
    (h : ∀ x, question (row x) = .int x.1) (xs : List α) :
    ((numbered xs).map row).map question = numbersTo xs.length := by
  rw [List.map_map, numbered, List.map_map, numbersTo]
  apply List.ext_getElem
  · simp
  · intro i hi _
    simp [h, firstQuestion, Int.add_comm]

namespace Sound

variable {users users' : List UserRow} {exercises : List ExerciseRow} {questions : List QuestionRow}
  {submissions : List SubmissionRow} {grades : List GradeRow}

theorem nil : Sound [] [] [] [] [] := by
  constructor <;> simp

theorem settle {u : User} {p : Option String → Option String} {id : Int}
    (h : Sound users exercises questions submissions grades) (hn : u.username ≠ "")
    (hu : Users.Settled u p users id users') :
    Sound users' exercises questions submissions grades := by
  refine { h with
    userIds := hu.nodup_ids h.userIds
    usernames := hu.nodup_usernames h.usernames
    named := ?_
    submissionUser := ?_ }
  · intro v hv
    have hv' := List.mem_map_of_mem (f := Users.identity) hv
    have hmem : Users.identity v ∈ users.map Users.identity ++ [(id, some u.username)] := by
      rcases hu.identities with ⟨heq, -⟩ | ⟨heq, -, -⟩
      · exact List.mem_append_left _ (heq ▸ hv')
      · exact heq ▸ hv'
    rcases List.mem_append.mp hmem with hmem | hmem
    · obtain ⟨w, hw, heq⟩ := List.mem_map.mp hmem
      obtain ⟨name, hname, hne⟩ := h.named w hw
      exact ⟨name, (congrArg Prod.snd heq).symm.trans hname, hne⟩
    · rw [List.mem_singleton] at hmem
      exact ⟨u.username, congrArg Prod.snd hmem, hn⟩
  · intro r hr
    obtain ⟨v, hv, hr⟩ := h.submissionUser r hr
    have hmem := hu.identities_subset (List.mem_map_of_mem (f := Users.identity) hv)
    obtain ⟨w, hw, heq⟩ := List.mem_map.mp hmem
    exact ⟨w, hw, hr.trans (congrArg (Cell.int ·.1) heq.symm)⟩

theorem register {e : Exercise} (h : Sound users exercises questions submissions grades)
    (hnew : ∀ r ∈ exercises, r.id ≠ e.id) :
    Sound users (exercises ++ [Exercises.rowOf e])
      (questions ++ (numbered e.questions).map (Exercises.questionRowOf e.id)) submissions
      grades := by
  -- No question was left behind under the new id, since every question has an exercise.
  have hnone : questions.filter (Exercises.belongsTo e.id) = [] := by
    rw [List.filter_eq_nil_iff]
    intro q hq hown
    obtain ⟨r, hr, hid⟩ := h.questionExercise q hq
    simp only [Exercises.belongsTo, hid, Cell.same_int_int, beq_iff_eq] at hown
    exact hnew r hr hown
  refine { h with
    exerciseIds := ?_
    questionExercise := ?_
    questionNumbers := ?_
    questionPoints := ?_ }
  · rw [List.map_append]
    exact h.exerciseIds.append (by simp) (by simpa [List.Disjoint, Exercises.rowOf] using hnew)
  · intro q hq
    rcases List.mem_append.mp hq with hq | hq
    · obtain ⟨r, hr, hid⟩ := h.questionExercise q hq
      exact ⟨r, List.mem_append_left _ hr, hid⟩
    · obtain ⟨x, -, rfl⟩ := List.mem_map.mp hq
      exact ⟨Exercises.rowOf e, by simp, rfl⟩
  · intro r hr
    rw [List.filter_append, Exercises.filter_questionRows]
    rcases List.mem_append.mp hr with hr | hr
    · rw [if_neg (hnew r hr), List.append_nil]
      exact h.questionNumbers r hr
    · rw [List.mem_singleton] at hr
      subst hr
      refine ⟨e.questions.length, ?_⟩
      rw [if_pos (by rfl), show (Exercises.rowOf e).id = e.id from rfl, hnone, List.nil_append]
      exact map_question_numbered QuestionRow.question _ (fun _ => rfl) _
  · intro q hq
    rcases List.mem_append.mp hq with hq | hq
    · exact h.questionPoints q hq
    · obtain ⟨x, -, rfl⟩ := List.mem_map.mp hq
      exact ⟨x.2.points.toNat, x.2.points.toNat_lt, rfl⟩

theorem record {r : SubmissionRow} {marks : List Float}
    (h : Sound users exercises questions submissions grades)
    (hr : ∃ u ∈ users, r.user = .int u.id) :
    Sound users exercises questions (Submissions.setRow r submissions)
      (Submissions.regraded r.id marks grades) := by
  refine { h with
    submissionIds := Submissions.nodup_setRow h.submissionIds
    submissionUser := ?_
    gradeSubmission := ?_
    gradeNumbers := ?_ }
  · intro x hx
    rcases Submissions.mem_setRow.mp hx with rfl | ⟨hx, -⟩
    · exact hr
    · exact h.submissionUser x hx
  · intro g hg
    rcases List.mem_append.mp hg with hg | hg
    · rw [List.mem_filter] at hg
      obtain ⟨x, hx, hid⟩ := h.gradeSubmission g hg.1
      by_cases hxr : x.id = r.id
      · simp [Submissions.belongsTo, hid, hxr] at hg
      · exact ⟨x, Submissions.mem_setRow.mpr (.inr ⟨hx, hxr⟩), hid⟩
    · obtain ⟨x, -, rfl⟩ := List.mem_map.mp hg
      exact ⟨r, Submissions.mem_setRow.mpr (.inl rfl), rfl⟩
  · intro x hx
    rcases Submissions.mem_setRow.mp hx with rfl | ⟨hx, hne⟩
    · refine ⟨marks.length, ?_⟩
      rw [Submissions.filter_regraded_self]
      exact map_question_numbered GradeRow.question _ (fun _ => rfl) _
    · rw [Submissions.filter_regraded_of_ne hne]
      exact h.gradeNumbers x hx

end Sound

variable {s s' : Store}

theorem Integrity.of_rows_eq (h : Integrity s) (hrows : ∀ t, s'.rows t = s.rows t) :
    Integrity s' := by
  simpa only [Integrity, hrows] using h

theorem Integrity.of_effect (h : Integrity s) {r : Request} {y : Answer}
    (he : Request.Effect s r y s') : Integrity s' := by
  cases he with
  | known | asked => exact h
  | enrolled hn he =>
      have hs := Sound.settle h hn he.settled
      rwa [Integrity, he.rows_user, he.rows_of_ne (by decide), he.rows_of_ne (by decide),
        he.rows_of_ne (by decide), he.rows_of_ne (by decide)]
  | registered he =>
      have hs := Sound.register h he.unknown
      rwa [Integrity, he.rows_exercise, he.rows_question, he.rows_of_ne (by decide) (by decide),
        he.rows_of_ne (by decide) (by decide), he.rows_of_ne (by decide) (by decide)]
  | submitted hn _ he =>
      have hu := Sound.settle h hn he.settled
      obtain ⟨v, hv, hid⟩ := List.mem_map.mp he.settled.mem_identities
      rw [Integrity, he.rows_user, he.rows_submission, he.rows_grade,
        he.rows_of_ne (by decide) (by decide) (by decide),
        he.rows_of_ne (by decide) (by decide) (by decide)]
      exact hu.record ⟨v, hv, congrArg (Cell.int ·.1) hid.symm⟩

theorem Integrity.run (h : Integrity s) (r : Request) (a : Access) :
    Integrity (r.run a s).store := by
  cases hr : (r.run a s).result with
  | ok y => exact h.of_effect (Request.effect_of_gives ⟨hr, rfl⟩)
  | error e => rwa [Request.restores_run r a s e hr]

end Markbook.Store
