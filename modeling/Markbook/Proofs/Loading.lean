import Markbook.Proofs.Catalogue

namespace Markbook

open Store Work Time

section

variable {ε α β γ : Type} [LinearOrder γ] {f : α → Except ε β} {key : α → γ} {xs : List α}

theorem exists_first_of_mapM_eq_error {e : ε} (hs : xs.Pairwise fun a b => key a < key b)
    (h : xs.mapM f = .error e) :
    ∃ x ∈ xs, f x = .error e ∧ ∀ y ∈ xs, ∀ e', f y = .error e' → key x ≤ key y := by
  induction xs with
  | nil => cases h
  | cons x xs ih =>
      obtain ⟨hlt, hs⟩ := List.pairwise_cons.mp hs
      rcases mapM_cons_eq_error.mp h with hx | ⟨z, hx, hxs⟩
      · refine ⟨x, List.mem_cons_self, hx, ?_⟩
        intro y hy e' _
        rcases List.mem_cons.mp hy with rfl | hy
        · exact le_rfl
        · exact (hlt y hy).le
      · obtain ⟨w, hw, he, hfirst⟩ := ih hs hxs
        refine ⟨w, List.mem_cons_of_mem x hw, he, ?_⟩
        intro y hy e' hy'
        rcases List.mem_cons.mp hy with rfl | hy
        · -- The element in front was read.
          rw [hx] at hy'
          cases hy'
        · exact hfirst y hy e' hy'

/-- Where what is sound can be read, either the first thing that is not is told, or all is read. -/
theorem mapM_outcome {sound : α → Prop} {cause : α → ε}
    (hf : ∀ x e, f x = .error e ↔ ¬ sound x ∧ e = cause x) {ordered : List α}
    (hperm : ordered.Perm xs) (hs : ordered.Pairwise fun a b => key a < key b) :
    (∃ x ∈ xs, ¬ sound x ∧ (∀ y ∈ xs, ¬ sound y → key x ≤ key y) ∧
        ordered.mapM f = .error (cause x)) ∨
      (∀ x ∈ xs, sound x) ∧ ∃ ys, ordered.mapM f = .ok ys := by
  cases h : ordered.mapM f with
  | error e =>
      obtain ⟨x, hx, he, hfirst⟩ := exists_first_of_mapM_eq_error hs h
      obtain ⟨hbad, rfl⟩ := (hf x e).mp he
      refine .inl ⟨x, hperm.mem_iff.mp hx, hbad, ?_, rfl⟩
      intro y hy hy'
      exact hfirst y (hperm.mem_iff.mpr hy) _ ((hf y _).mpr ⟨hy', rfl⟩)
  | ok ys =>
      refine .inr ⟨?_, ys, rfl⟩
      intro x hx
      by_contra hbad
      exact ne_error_of_mapM_eq_ok h (hperm.mem_iff.mpr hx) ((hf x _).mpr ⟨hbad, rfl⟩)

end

namespace Exercises

structure ExerciseEntry where
  id : Int
  name : Option String
  due : Int

structure QuestionEntry where
  exercise : Int
  question : Int
  name : Option String
  description : Option String
  points : Int

namespace QuestionEntry

variable {q : QuestionEntry}

def row (q : QuestionEntry) : QuestionRow :=
  ⟨.int q.exercise, .int q.question, q.name, q.description, .int q.points⟩

def read (q : QuestionEntry) : ReadQuestion :=
  ⟨q.exercise, q.question, q.name.getD "", q.description.getD "", q.points⟩

def key (q : QuestionEntry) : ℤ ×ₗ ℤ :=
  toLex (q.exercise, q.question)

def Sound (q : QuestionEntry) : Prop :=
  0 ≤ q.points ∧ q.points < uint32Bound

structure ShownAs (q : QuestionEntry) (shown : Question) : Prop where
  name : shown.name = q.name.getD ""
  description : shown.description = q.description.getD ""
  points : (shown.points.toNat : Int) = q.points

theorem readQuestion_row (q : QuestionEntry) : readQuestion q.row = .ok q.read := rfl

theorem le_row (x y : QuestionEntry) :
    Relation.questionSchema.le x.row y.row ↔ x.key ≤ y.key := by
  have hlex : lexLe (fun a b : QuestionEntry => decide (a.exercise ≤ b.exercise))
      (fun a b => decide (a.question ≤ b.question)) x y ↔ x.key ≤ y.key :=
    lexLe_iff decide_eq_true_iff decide_eq_true_iff decide_eq_true_iff
  rw [← hlex]
  simp [Schema.le, Relation.questionSchema, lexLe, Column.integer, row, Cell.le]

theorem checkQuestion_eq_error (q : QuestionEntry) (e : Fault) :
    checkQuestion q.read = .error e ↔
      ¬ q.Sound ∧ e = .corrupt (.points q.question q.exercise q.points) := by
  rw [checkQuestion, word32?, read, Sound]
  split_ifs with hsound <;> simp [hsound, eq_comm]

theorem shownAs_of_checkQuestion {x : Int × Question} (h : checkQuestion q.read = .ok x) :
    x.1 = q.exercise ∧ q.ShownAs x.2 := by
  cases hpoints : word32? q.points with
  | none =>
      rw [checkQuestion, read, hpoints] at h
      cases h
  | some points =>
      rw [checkQuestion_of_word32? hpoints] at h
      cases h
      exact ⟨rfl, rfl, rfl, toNat_of_word32? hpoints⟩

end QuestionEntry

namespace ExerciseEntry

variable {r : ExerciseEntry} {checked : List (Int × Question)}

def row (r : ExerciseEntry) : ExerciseRow :=
  ⟨r.id, r.name, .int r.due⟩

def read (r : ExerciseEntry) : ReadExercise :=
  ⟨r.id, r.name.getD "", r.due⟩

def Sound (r : ExerciseEntry) : Prop :=
  Instant.InRange r.due

/-- The exercise is the one of the entry, with all those of the questions that name it. -/
structure ShownAs (questions : List QuestionEntry) (r : ExerciseEntry) (e : Exercise) : Prop where
  id : e.id = r.id
  name : e.name = r.name.getD ""
  isLeap : e.due.isLeap = false
  due : e.due.nanos = r.due * milliNanos
  questions : ∃ own : List QuestionEntry, own.Perm (questions.filter fun q => q.exercise = r.id) ∧
    (own.Pairwise fun p q => p.question < q.question) ∧
    List.Forall₂ QuestionEntry.ShownAs own e.questions

theorem readExercise_row (r : ExerciseEntry) : readExercise r.row = .ok r.read := rfl

theorem le_row (x y : ExerciseEntry) : Relation.exerciseSchema.le x.row y.row ↔ x.id ≤ y.id := by
  simp [Schema.le, Relation.exerciseSchema, lexLe, Column.key, row, Cell.le]

theorem checkExercise_eq_error (checked : List (Int × Question)) (r : ExerciseEntry) (e : Fault) :
    checkExercise checked r.read = .error e ↔ ¬ r.Sound ∧ e = .corrupt (.timestamp r.due) := by
  rw [checkExercise, read, Instant.ofStored, Sound, ← Instant.ofMillis?_eq_none]
  cases Instant.ofMillis? r.due with
  | none => simp [bind, Except.bind, eq_comm]
  | some due => simp [bind, Except.bind, pure, Except.pure]

theorem shownAs_of_checkExercise {questions ordered : List QuestionEntry} {e : Exercise}
    (hperm : ordered.Perm questions) (hordered : ordered.Pairwise fun p q => p.key < q.key)
    (hchecked : List.Forall₂ (fun q x => checkQuestion q.read = .ok x) ordered checked)
    (h : checkExercise checked r.read = .ok e) : r.ShownAs questions e := by
  cases hdue : Instant.ofMillis? r.due with
  | none =>
      rw [checkExercise, read, Instant.ofStored, hdue] at h
      cases h
  | some due =>
      rw [checkExercise, read, Instant.ofStored, hdue] at h
      cases h
      refine ⟨rfl, rfl, Instant.isLeap_of_ofMillis? hdue, Instant.nanos_of_ofMillis? hdue, ?_⟩
      refine ⟨ordered.filter fun q => q.exercise = r.id, hperm.filter _, ?_, ?_⟩
      · -- Among the questions of one exercise, the order is that of their numbers.
        refine (hordered.filter _).imp_of_mem ?_
        intro p q hp hq hlt
        have hp : p.exercise = r.id := by simpa using (List.mem_filter.mp hp).2
        have hq : q.exercise = r.id := by simpa using (List.mem_filter.mp hq).2
        simpa [QuestionEntry.key, Prod.Lex.toLex_lt_toLex, hp, hq] using hlt
      · have hshown : List.Forall₂ (fun (q : QuestionEntry) x => x.1 = q.exercise ∧ q.ShownAs x.2)
            ordered checked :=
          hchecked.imp fun _ _ => QuestionEntry.shownAs_of_checkQuestion
        rw [List.forall₂_map_right_iff]
        refine (List.rel_filter ?_ hshown).imp fun _ _ h => h.2
        intro q x hx
        simp [hx.1]

end ExerciseEntry

/-- The tables hold these entries and nothing else, and no two of them have the same key. -/
structure Holds (exercises : List ExerciseEntry) (questions : List QuestionEntry) (s : Store) :
    Prop where
  hasExercises : (s.table .exercise).isSome
  hasQuestions : (s.table .question).isSome
  exerciseRows : s.rows .exercise = exercises.map ExerciseEntry.row
  questionRows : s.rows .question = questions.map QuestionEntry.row
  exerciseKeys : (exercises.map (·.id)).Nodup
  questionKeys : (questions.map (·.key)).Nodup

variable {exercises : List ExerciseEntry} {questions : List QuestionEntry} {s : Store} {a : Access}

theorem exerciseRows_of_holds (h : Holds exercises questions s) :
    ∃ ordered : List ExerciseEntry, ordered.Perm exercises ∧
      (ordered.Pairwise fun x y => x.id < y.id) ∧
      exerciseRows s = .ok (ordered.map ExerciseEntry.read) := by
  obtain ⟨t, ht⟩ := Option.isSome_iff_exists.mp h.hasExercises
  obtain ⟨ordered, hperm, hordered, harrange⟩ :=
    exists_arrange_map ExerciseEntry.le_row h.exerciseKeys
  refine ⟨ordered, hperm, hordered, ?_⟩
  rw [exerciseRows, require_eq_ok.mpr ht]
  change (arrange Relation.exerciseSchema.le t.rows).mapM readExercise = _
  rw [← rows_of_table ht, h.exerciseRows, harrange, mapM_map_of_ok ExerciseEntry.readExercise_row]

theorem questionRows_of_holds (h : Holds exercises questions s) :
    ∃ ordered : List QuestionEntry, ordered.Perm questions ∧
      (ordered.Pairwise fun p q => p.key < q.key) ∧
      questionRows s = .ok (ordered.map QuestionEntry.read) := by
  obtain ⟨t, ht⟩ := Option.isSome_iff_exists.mp h.hasQuestions
  obtain ⟨ordered, hperm, hordered, harrange⟩ :=
    exists_arrange_map QuestionEntry.le_row h.questionKeys
  refine ⟨ordered, hperm, hordered, ?_⟩
  rw [questionRows, require_eq_ok.mpr ht]
  change (arrange Relation.questionSchema.le t.rows).mapM readQuestion = _
  rw [← rows_of_table ht, h.questionRows, harrange, mapM_map_of_ok QuestionEntry.readQuestion_row]

theorem result_all_of_holds (ha : a.fault? = none) (h : Holds exercises questions s) :
    ∃ (es : List ExerciseEntry) (qs : List QuestionEntry),
      es.Perm exercises ∧ (es.Pairwise fun x y => x.id < y.id) ∧
      qs.Perm questions ∧ (qs.Pairwise fun p q => p.key < q.key) ∧
      (all a s).result = (do
        let checked ← qs.mapM fun q => checkQuestion q.read
        es.mapM fun r => checkExercise checked r.read) := by
  obtain ⟨es, hes, hes', hexercises⟩ := exerciseRows_of_holds h
  obtain ⟨qs, hqs, hqs', hquestions⟩ := questionRows_of_holds h
  refine ⟨es, qs, hes, hes', hqs, hqs', ?_⟩
  have hresult {r : Except Fault (List Exercise)} : (ofExcept r a s).result = r := by
    cases r <;> rfl
  have hnodup : ((es.map ExerciseEntry.read).map (·.id)).Nodup := by
    rw [List.map_map]
    exact List.pairwise_map.mpr (hes'.imp fun h => h.ne)
  rw [all, (bind_of_gives (gives_read.mpr ⟨ha, hexercises, rfl⟩)).1,
    (bind_of_gives (gives_read.mpr ⟨ha, hquestions, rfl⟩)).1, hresult, drain_fill hnodup]
  simp only [List.mapM_map, Function.comp_def]

end Exercises

namespace Book

open Exercises

/-- The exercises of any rows. The first question whose points are out of range is what loading
fails for, be it of an exercise or of none; if there is none, it is the first due date out of range.
Else there is one exercise for each row, and it has the questions that name it. -/
theorem catalogue_of_holds (exercises : List ExerciseEntry) (questions : List QuestionEntry)
    (s : Store) (h : Holds exercises questions s) (a : Access) (ha : a.fault? = none) :
    ((∃ cause, (catalogue a s).result = .error (.corrupt cause)) ↔
      (∃ q ∈ questions, ¬ q.Sound) ∨ ∃ r ∈ exercises, ¬ r.Sound) ∧
    ((∃ q ∈ questions, ¬ q.Sound) → ∃ q ∈ questions, ¬ q.Sound ∧
      (∀ p ∈ questions, ¬ p.Sound → q.key ≤ p.key) ∧
      (catalogue a s).result = .error (.corrupt (.points q.question q.exercise q.points))) ∧
    ((∀ q ∈ questions, q.Sound) → (∃ r ∈ exercises, ¬ r.Sound) → ∃ r ∈ exercises, ¬ r.Sound ∧
      (∀ x ∈ exercises, ¬ x.Sound → r.id ≤ x.id) ∧
      (catalogue a s).result = .error (.corrupt (.timestamp r.due))) ∧
    ((∀ q ∈ questions, q.Sound) → (∀ r ∈ exercises, r.Sound) →
      ∃ shown, (catalogue a s).result = .ok shown ∧ (shown.Pairwise fun x y => x.id < y.id) ∧
        ∃ ordered : List ExerciseEntry, ordered.Perm exercises ∧
          List.Forall₂ (fun r e => r.ShownAs questions e) ordered shown) := by
  obtain ⟨es, qs, hes, hes', hqs, hqs', hresult⟩ := result_all_of_holds ha h
  rw [result_catalogue, hresult]
  rcases mapM_outcome QuestionEntry.checkQuestion_eq_error hqs hqs' with
    ⟨q, hq, hbad, hfirst, hchecked⟩ | ⟨hsound, checked, hchecked⟩
  · rw [hchecked]
    exact ⟨iff_of_true ⟨_, rfl⟩ (.inl ⟨q, hq, hbad⟩), fun _ => ⟨q, hq, hbad, hfirst, rfl⟩,
      fun hsound => absurd (hsound q hq) hbad, fun hsound => absurd (hsound q hq) hbad⟩
  · have hnone : ¬ ∃ q ∈ questions, ¬ q.Sound := by simpa using hsound
    rw [hchecked]
    simp only [bind, Except.bind]
    rcases mapM_outcome (ExerciseEntry.checkExercise_eq_error checked) hes hes' with
      ⟨r, hr, hbad, hfirst, hshown⟩ | ⟨hall, shown, hshown⟩
    · rw [hshown]
      exact ⟨iff_of_true ⟨_, rfl⟩ (.inr ⟨r, hr, hbad⟩), fun h => absurd h hnone,
        fun _ _ => ⟨r, hr, hbad, hfirst, rfl⟩, fun _ hall => absurd (hall r hr) hbad⟩
    · have hnone' : ¬ ∃ r ∈ exercises, ¬ r.Sound := by simpa using hall
      have hshows : List.Forall₂ (fun r e => r.ShownAs questions e) es shown :=
        (forall₂_of_mapM_eq_ok hshown).imp fun _ _ =>
          ExerciseEntry.shownAs_of_checkExercise hqs hqs' (forall₂_of_mapM_eq_ok hchecked)
      have hascending := pairwise_of_forall₂ (hshows.imp fun _ _ h => h.id) hes'
      rw [hshown]
      exact ⟨iff_of_false (by simp) (not_or.mpr ⟨hnone, hnone'⟩), fun h => absurd h hnone,
        fun _ h => absurd h hnone', fun _ _ => ⟨shown, rfl, hascending, es, hes, hshows⟩⟩

def scatteredExercises (due : Int) : List ExerciseEntry :=
  [⟨7, some "Sums", 0⟩, ⟨3, none, due⟩]

def scatteredQuestions (points : Int) : List QuestionEntry :=
  [⟨7, 5, some "1 + 2", none, 2⟩, ⟨9, 1, some "stray", none, points⟩, ⟨7, 2, none, none, 1⟩]

def scattered (points due : Int) : Store :=
  (Store.fresh.withRows .exercise ((scatteredExercises due).map ExerciseEntry.row)).withRows
    .question ((scatteredQuestions points).map QuestionEntry.row)

theorem holds_scattered (points due : Int) :
    Holds (scatteredExercises due) (scatteredQuestions points) (scattered points due) where
  hasExercises := rfl
  hasQuestions := rfl
  exerciseRows := rfl
  questionRows := rfl
  exerciseKeys := by simp [scatteredExercises]
  questionKeys := by simp [scatteredQuestions, QuestionEntry.key]

theorem catalogue_of_holds_scattered :
    (∃ shown, (catalogue .readWrite (scattered 1 0)).result = .ok shown ∧
      shown.map (fun e => (e.id, e.questions.map (·.name))) = [(3, []), (7, ["", "1 + 2"])]) ∧
    (catalogue .readWrite (scattered (-1) 9000000000000000)).result =
      .error (.corrupt (.points 1 9 (-1))) ∧
    (catalogue .readWrite (scattered 1 9000000000000000)).result =
      .error (.corrupt (.timestamp 9000000000000000)) := by
  have hload (points due : Int) := catalogue_of_holds _ _ _ (holds_scattered points due) .readWrite rfl
  have hlate : ¬ Instant.InRange 9000000000000000 := by
    simp [Instant.InRange, firstSecond, lastSecond]
  refine ⟨?_, ?_, ?_⟩
  · obtain ⟨shown, hshown, -⟩ := (hload 1 0).2.2.2
      (by simp [scatteredQuestions, QuestionEntry.Sound, uint32Bound])
      (by simp [scatteredExercises, ExerciseEntry.Sound, Instant.InRange, firstSecond, lastSecond])
    have hids : (catalogue .readWrite (scattered 1 0)).result.toOption.map
        (fun shown => shown.map fun e => (e.id, e.questions.map (·.name))) =
          some [(3, []), (7, ["", "1 + 2"])] := by decide +kernel
    rw [hshown] at hids
    exact ⟨shown, hshown, Option.some.inj hids⟩
  · obtain ⟨q, hq, hbad, -, hresult⟩ := (hload (-1) 9000000000000000).2.1
      (by simp [scatteredQuestions, QuestionEntry.Sound])
    rw [hresult]
    simp only [scatteredQuestions, List.mem_cons, List.not_mem_nil, or_false] at hq
    rcases hq with rfl | rfl | rfl
    · simp [QuestionEntry.Sound, uint32Bound] at hbad
    · rfl
    · simp [QuestionEntry.Sound, uint32Bound] at hbad
  · obtain ⟨r, hr, hbad, -, hresult⟩ := (hload 1 9000000000000000).2.2.1
      (by simp [scatteredQuestions, QuestionEntry.Sound, uint32Bound])
      ⟨_, List.mem_cons_of_mem _ (List.mem_singleton_self _), hlate⟩
    rw [hresult]
    simp only [scatteredExercises, List.mem_cons, List.not_mem_nil, or_false] at hr
    rcases hr with rfl | rfl
    · simp [ExerciseEntry.Sound, Instant.InRange, firstSecond, lastSecond] at hbad
    · rfl

end Book

end Markbook
