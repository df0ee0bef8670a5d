import Markbook.Proofs.Clashes

namespace Markbook

open Store Work

theorem mem_numbered {α : Type} {xs : List α} {x : Int × α} :
    x ∈ numbered xs ↔ ∃ (n : Nat) (h : n < xs.length), x = ((n : Int) + 1, xs[n]) := by
  have hnumbered := map_numbered (fun y => y) xs
  rw [List.map_id'] at hnumbered
  rw [hnumbered, List.mem_mapIdx]
  simp only [eq_comm]

namespace Store

section

variable {ρ : Type} {σ : Schema ρ} {t : Table ρ} {r o : ρ} {columns : List (Column ρ)}

theorem Table.Lenient.insert_of_taken (h : t.Lenient) (hkeys : σ.keys = [columns])
    (generated : Bool) (ho : o ∈ t.rows) (hr : ¬ σ.Apart r o) :
    t.insert σ generated r = .error (.taken (.key σ.name (columns.map (·.name)))) := by
  have hclash : Table.clash columns r o := by
    simpa [Schema.Apart, hkeys] using hr
  have hany : t.rows.any (Table.clash columns r) := List.any_eq_true.mpr ⟨o, ho, hclash⟩
  have hunique : t.checkUnique σ t.rows r =
      .error (.taken (.key σ.name (columns.map (·.name)))) := by
    simp [Table.checkUnique, Table.constraints_eq_keys h.indexes, hkeys, hany]
  rw [Table.insert, h.checkGuards, hunique]
  rfl

end

variable {s : Store} {t : Relation}

theorem lenientIn_of_table {rows : List t.Row} (h : s.table t = some ⟨rows, [], []⟩) :
    s.LenientIn t := by
  intro x hx
  cases h.symm.trans hx
  exact ⟨rfl, rfl⟩

theorem LenientIn.result_insertion_of_taken (h : s.LenientIn t) (ht : (s.table t).isSome)
    {σ : Schema t.Row} {columns : List (Column t.Row)} (hkeys : σ.keys = [columns]) {r o : t.Row}
    (ho : o ∈ s.rows t) (hr : ¬ σ.Apart r o) :
    (write t (fun x => do
      let x' ← x.insert σ false r
      return ((), x')) .readWrite s).result =
        .error (.alreadyExists (.key σ.name (columns.map (·.name)))) := by
  obtain ⟨x, hx⟩ := Option.isSome_iff_exists.mp ht
  rw [rows_of_table hx] at ho
  have hinsert := (h x hx).insert_of_taken hkeys false ho hr
  simp only [write, Access.fault?, Access.refusal?, hx, hinsert]
  rfl

/-- Rows are inserted one by one until one of them meets a key that was taken before. -/
theorem LenientIn.result_forM_of_taken {ι : Type} {σ : Schema t.Row} {f : ι → Work Unit}
    (row : ι → t.Row) {e : Fault}
    (hf : ∀ x s, LenientIn s t → (s.table t).isSome → (∀ o ∈ s.rows t, σ.Apart (row x) o) →
      Gives (f x) .readWrite s () (s.withRows t (s.rows t ++ [row x])))
    (hfail : ∀ x s, LenientIn s t → (s.table t).isSome → ∀ o ∈ s.rows t, ¬ σ.Apart (row x) o →
      (f x .readWrite s).result = .error e)
    (h : s.LenientIn t) (ht : (s.table t).isSome) {xs : List ι}
    (htaken : ∃ x ∈ xs, ∃ o ∈ s.rows t, ¬ σ.Apart (row x) o) :
    (xs.forM f .readWrite s).result = .error e := by
  induction xs generalizing s with
  | nil =>
      obtain ⟨x, hx, -⟩ := htaken
      cases hx
  | cons x xs ih =>
      change ((f x >>= fun _ => xs.forM f) .readWrite s).result = _
      by_cases hx : ∀ o ∈ s.rows t, σ.Apart (row x) o
      · -- The key is one of a later row, and it is still taken.
        have hrest : ∃ y ∈ xs, ∃ o ∈ s.rows t ++ [row x], ¬ σ.Apart (row y) o := by
          obtain ⟨y, hy, o, ho, hclash⟩ := htaken
          rcases List.mem_cons.mp hy with rfl | hy
          · exact absurd (hx o ho) hclash
          · exact ⟨y, hy, o, List.mem_append_left _ ho, hclash⟩
        rw [(bind_of_gives (hf x s h ht hx)).1]
        apply ih (h.withRows _)
        · rwa [isSome_table_withRows]
        · rwa [rows_withRows_self ht]
      · simp only [not_forall] at hx
        obtain ⟨o, ho, hclash⟩ := hx
        exact (bind_of_error (hfail x s h ht o ho hclash)).1

end Store

namespace Exercises

variable {s : Store} {e : Exercise}

/-- The row has the place of one of the questions of the exercise. -/
def Obstructs (q : QuestionRow) (e : Exercise) : Prop :=
  ∃ n : Nat, 1 ≤ n ∧ n ≤ e.size ∧ q.exercise.same (.int e.id) ∧ q.question.same (.int n)

theorem not_apart_questionRowOf {x : Int × Question} {o : QuestionRow} :
    ¬ Relation.questionSchema.Apart (questionRowOf e.id x) o ↔
      o.exercise.same (.int e.id) ∧ o.question.same (.int x.1) := by
  rw [apart_question, questionRowOf, Cell.clashes_int, Cell.clashes_int]
  simp

theorem exists_not_apart_iff {o : QuestionRow} :
    (∃ x ∈ numbered e.questions, ¬ Relation.questionSchema.Apart (questionRowOf e.id x) o) ↔
      Obstructs o e := by
  simp only [not_apart_questionRowOf, mem_numbered]
  constructor
  · rintro ⟨x, ⟨n, hn, rfl⟩, hexercise, hquestion⟩
    exact ⟨n + 1, by omega, hn, hexercise, hquestion⟩
  · rintro ⟨n, hpos, hle, hexercise, hquestion⟩
    obtain ⟨m, rfl⟩ := Nat.exists_eq_add_of_le' hpos
    exact ⟨_, ⟨m, hle, rfl⟩, hexercise, hquestion⟩

theorem result_addQuestions_of_obstructs (hs : s.LenientIn .question)
    (ht : (s.table .question).isSome) {o : QuestionRow} (ho : o ∈ s.rows .question)
    (hobstructs : Obstructs o e) :
    (addQuestions e.id e.questions .readWrite s).result =
      .error (.alreadyExists (.key "Question" ["ExerciseId", "QuestionId"])) := by
  obtain ⟨x, hx, hclash⟩ := exists_not_apart_iff.mpr hobstructs
  refine hs.result_forM_of_taken (t := .question) (σ := Relation.questionSchema)
    (questionRowOf e.id) ?_ ?_ ht ⟨x, hx, o, ho, hclash⟩
  · rintro ⟨number, q⟩ s hs ht hold
    exact hs.gives_insertion ht hold
  · rintro ⟨number, q⟩ s hs ht o ho hclash
    exact hs.result_insertion_of_taken ht rfl ho hclash

end Exercises

namespace Book

variable {s : Store} {e : Exercise}

section

variable {exercises : List ExerciseRow} {questions : List QuestionRow}

theorem result_register_of_obstructs (he : s.table .exercise = some ⟨exercises, [], []⟩)
    (hq : s.table .question = some ⟨questions, [], []⟩) (hnew : ∀ r ∈ exercises, r.id ≠ e.id)
    {o : QuestionRow} (ho : o ∈ questions) (hobstructs : Exercises.Obstructs o e) :
    (register e .readWrite s).result =
      .error (.database (.taken (.key "Question" ["ExerciseId", "QuestionId"]))) := by
  have het : (s.table .exercise).isSome := by rw [he]; rfl
  have hqt : (s.table .question).isSome := by rw [hq]; rfl
  have hrows : s.rows .exercise = exercises := rows_of_table he
  have hknown : (s.rows .exercise).any (·.id == e.id) = false := by simpa [hrows] using hnew
  have hinsert := Exercises.gives_insert (lenientIn_of_table he) het (by rwa [hrows])
  refine register_eq_database ?_ hinsert.1 ?_
  · exact (Exercises.gives_isRegistered.mpr ⟨rfl, het, hknown, rfl⟩).1
  · rw [hinsert.2]
    apply Exercises.result_addQuestions_of_obstructs (o := o)
    · exact (lenientIn_of_table hq).withRows_of_ne (by decide) _
    · rwa [isSome_table_withRows]
    · rwa [rows_withRows_of_ne (by decide), rows_of_table hq]
    · exact hobstructs

structure Entered (e : Exercise) (exercises : List ExerciseRow) (questions : List QuestionRow)
    (s s' : Store) : Prop where
  exercise : s'.table .exercise =
    some ⟨exercises ++ [⟨e.id, some e.name, .int e.due.toMillis⟩], [], []⟩
  question : s'.table .question = some ⟨questions ++ e.questions.mapIdx fun n q =>
    ⟨.int e.id, .int (n + 1), some q.name, some q.description, .int q.points.toNat⟩, [], []⟩
  others : ∀ t, t ≠ .exercise → t ≠ .question → s'.table t = s.table t

theorem Registered.entered {s' : Store} (h : Registered e s s')
    (he : s.table .exercise = some ⟨exercises, [], []⟩)
    (hq : s.table .question = some ⟨questions, [], []⟩) : Entered e exercises questions s s' where
  exercise := by
    rw [h.store_eq, table_withRows_of_ne (by decide), withRows_of_table he, table_setTable_self,
      rows_of_table he]
    rfl
  question := by
    have hq' := hq
    rw [← table_withRows_of_ne (t := .exercise) (by decide)
      (s.rows .exercise ++ [Exercises.rowOf e])] at hq'
    rw [h.store_eq, withRows_of_table hq', table_setTable_self, rows_of_table hq, map_numbered]
    rfl
  others t ht ht' := by rw [h.store_eq, table_withRows_of_ne ht', table_withRows_of_ne ht]

theorem exists_entered (he : s.table .exercise = some ⟨exercises, [], []⟩)
    (hq : s.table .question = some ⟨questions, [], []⟩) (hnew : ∀ r ∈ exercises, r.id ≠ e.id)
    (hfree : ∀ q ∈ questions, ¬ Exercises.Obstructs q e) :
    ∃ s', Gives (register e) .readWrite s (.added e.id) s' ∧ Entered e exercises questions s s' := by
  have het : (s.table .exercise).isSome := by rw [he]; rfl
  have hqt : (s.table .question).isSome := by rw [hq]; rfl
  have hexercises : s.rows .exercise = exercises := rows_of_table he
  have hquestions : s.rows .question = questions := rows_of_table hq
  have hapart : ∀ x ∈ numbered e.questions, ∀ o ∈ s.rows .question,
      Relation.questionSchema.Apart (Exercises.questionRowOf e.id x) o := by
    intro x hx o ho
    by_contra hclash
    exact hfree o (hquestions ▸ ho) (Exercises.exists_not_apart_iff.mp ⟨x, hx, hclash⟩)
  obtain ⟨s', hs'⟩ := gives_register (lenientIn_of_table he) (lenientIn_of_table hq) het hqt
    (by rwa [hexercises]) hapart
  rcases registered_of_gives hs' with ⟨hr, -⟩ | ⟨-, hr⟩
  · cases hr
  · exact ⟨s', hs', hr.entered he hq⟩

end

/-- Among any rows, an exercise is there already if and only if its row is. Else it is turned down
if and only if a question has the place of one of its own, whatever else is left over; and else it is
added with all its questions. What is turned down leaves no trace. -/
theorem register_outcome (s : Store) (exercises : List ExerciseRow) (questions : List QuestionRow)
    (he : s.table .exercise = some ⟨exercises, [], []⟩)
    (hq : s.table .question = some ⟨questions, [], []⟩) (e : Exercise) :
    ((register e .readWrite s).result = .ok .alreadyExists ↔ ∃ r ∈ exercises, r.id = e.id) ∧
    ((∀ r ∈ exercises, r.id ≠ e.id) →
      ((∃ cause, (register e .readWrite s).result = .error (.database cause)) ↔
        ∃ q ∈ questions, Exercises.Obstructs q e)) ∧
    ((∀ r ∈ exercises, r.id ≠ e.id) → (∀ q ∈ questions, ¬ Exercises.Obstructs q e) →
      ∃ s', Gives (register e) .readWrite s (.added e.id) s' ∧ Entered e exercises questions s s') ∧
    ((register e .readWrite s).result ≠ .ok (.added e.id) → (register e .readWrite s).store = s) := by
  by_cases hknown : ∃ r ∈ exercises, r.id = e.id
  · have hgives : Gives (register e) .readWrite s .alreadyExists s :=
      gives_register_of_known rfl (by rw [he]; rfl) (by rwa [rows_of_table he])
    have hnot : ¬ ∀ r ∈ exercises, r.id ≠ e.id := by simpa using hknown
    exact ⟨iff_of_true hgives.1 hknown, fun hnew => absurd hnew hnot, fun hnew => absurd hnew hnot,
      fun _ => hgives.2⟩
  · have hnew : ∀ r ∈ exercises, r.id ≠ e.id := by simpa using hknown
    by_cases hleft : ∃ q ∈ questions, Exercises.Obstructs q e
    · obtain ⟨q, hmem, hobstructs⟩ := hleft
      have hcause := result_register_of_obstructs he hq hnew hmem hobstructs
      refine ⟨iff_of_false (by simp [hcause]) hknown,
        fun _ => iff_of_true ⟨_, hcause⟩ ⟨q, hmem, hobstructs⟩,
        fun _ hfree => absurd hobstructs (hfree q hmem), fun _ => ?_⟩
      exact Request.restores_register e .readWrite s _ hcause
    · have hfree : ∀ q ∈ questions, ¬ Exercises.Obstructs q e := by simpa using hleft
      obtain ⟨s', hs', hentered⟩ := exists_entered he hq hnew hfree
      exact ⟨iff_of_false (by simp [hs'.1]) hknown, fun _ => iff_of_false (by simp [hs'.1]) hleft,
        fun _ _ => ⟨s', hs', hentered⟩, fun hne => absurd hs'.1 hne⟩

def firstOnly : Exercise :=
  ⟨7, "Sums", .inFirstHour 0 0, [⟨"1 + 1", "", 1⟩]⟩

/-- A second question that was left over is in the way of two questions and not of one. -/
theorem register_outcome_leftovers :
    (∃ cause, (register Request.twoGrades.exercise .readWrite Request.leftovers).result =
        .error (.database cause)) ∧
      (register Request.twoGrades.exercise .readWrite Request.leftovers).store =
        Request.leftovers ∧
      ∃ s', Gives (register firstOnly) .readWrite Request.leftovers (.added 7) s' ∧
        Entered firstOnly [] [⟨.int 7, .int 2, none, none, .null⟩] Request.leftovers s' := by
  have houtcome := register_outcome Request.leftovers [] _ rfl rfl
  obtain ⟨-, hfails, -, hstore⟩ := houtcome Request.twoGrades.exercise
  obtain ⟨-, -, hadds, -⟩ := houtcome firstOnly
  have hnew (e : Exercise) : ∀ r ∈ ([] : List ExerciseRow), r.id ≠ e.id := by simp
  have hcause := (hfails (hnew _)).mpr
    ⟨_, List.mem_singleton_self _, 2, by decide, by decide, rfl, rfl⟩
  refine ⟨hcause, hstore ?_, hadds (hnew _) ?_⟩
  · obtain ⟨cause, hcause⟩ := hcause
    simp [hcause]
  · rintro q hq ⟨n, hpos, hle, -, hnumber⟩
    cases List.mem_singleton.mp hq
    have hn : (2 : Int) = n := beq_iff_eq.mp hnumber
    have hone : n ≤ 1 := hle
    omega

end Book

end Markbook
