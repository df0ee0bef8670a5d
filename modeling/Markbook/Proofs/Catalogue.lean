import Markbook.Proofs.Acceptance
import Markbook.Proofs.Grouping
import Markbook.Proofs.Instants

namespace Markbook

open Store Work Time

section

variable {ε α β : Type} {f g : α → Except ε β} {xs : List α} {ys : List β}

theorem mapM_congr (h : ∀ x ∈ xs, f x = g x) : xs.mapM f = xs.mapM g := by
  induction xs with
  | nil => rfl
  | cons x xs ih =>
      rw [List.mapM_cons, List.mapM_cons, h x List.mem_cons_self,
        ih fun y hy => h y (List.mem_cons_of_mem x hy)]

theorem mapM_cons_eq_ok {x : α} :
    (x :: xs).mapM f = .ok ys ↔ ∃ y zs, f x = .ok y ∧ xs.mapM f = .ok zs ∧ y :: zs = ys := by
  rw [List.mapM_cons]
  simp only [bind_eq_ok, pure_eq_ok]
  constructor
  · rintro ⟨y, hy, zs, hzs, rfl⟩
    exact ⟨y, zs, hy, hzs, rfl⟩
  · rintro ⟨y, zs, hy, hzs, rfl⟩
    exact ⟨y, hy, zs, hzs, rfl⟩

theorem forall₂_of_mapM_eq_ok (h : xs.mapM f = .ok ys) :
    List.Forall₂ (fun x y => f x = .ok y) xs ys := by
  induction xs generalizing ys with
  | nil =>
      cases h
      exact .nil
  | cons x xs ih =>
      obtain ⟨y, zs, hy, hzs, rfl⟩ := mapM_cons_eq_ok.mp h
      exact .cons hy (ih hzs)

theorem mem_of_mapM_eq_ok (h : xs.mapM f = .ok ys) {y : β} : y ∈ ys ↔ ∃ x ∈ xs, f x = .ok y := by
  induction xs generalizing ys with
  | nil =>
      cases h
      simp
  | cons x xs ih =>
      obtain ⟨z, zs, hz, hzs, rfl⟩ := mapM_cons_eq_ok.mp h
      rw [List.mem_cons, ih hzs]
      simp [hz, eq_comm]

theorem mapM_cons_eq_error {x : α} {e : ε} :
    (x :: xs).mapM f = .error e ↔
      f x = .error e ∨ ∃ y, f x = .ok y ∧ xs.mapM f = .error e := by
  rw [List.mapM_cons]
  cases f x with
  | error e' => simp [bind, Except.bind]
  | ok y => cases xs.mapM f <;> simp [bind, Except.bind, pure, Except.pure]

theorem exists_of_mapM_eq_error {e : ε} (h : xs.mapM f = .error e) : ∃ x ∈ xs, f x = .error e := by
  induction xs with
  | nil => cases h
  | cons x xs ih =>
      rcases mapM_cons_eq_error.mp h with hx | ⟨-, -, hxs⟩
      · exact ⟨x, List.mem_cons_self, hx⟩
      · obtain ⟨z, hz, he⟩ := ih hxs
        exact ⟨z, List.mem_cons_of_mem x hz, he⟩

theorem mapM_eq_error_iff :
    (∃ e, xs.mapM f = .error e) ↔ ∃ x ∈ xs, ∃ e, f x = .error e := by
  constructor
  · rintro ⟨e, he⟩
    obtain ⟨x, hx, hfx⟩ := exists_of_mapM_eq_error he
    exact ⟨x, hx, e, hfx⟩
  · rintro ⟨x, hx, e, hfx⟩
    cases hys : xs.mapM f with
    | error e' => exact ⟨e', rfl⟩
    | ok ys =>
        obtain ⟨i, hi, rfl⟩ := List.getElem_of_mem hx
        have hread := (forall₂_of_mapM_eq_ok hys).get hi
          ((forall₂_of_mapM_eq_ok hys).length_eq ▸ hi)
        simp [hfx] at hread

theorem ne_error_of_mapM_eq_ok (h : xs.mapM f = .ok ys) {x : α} (hx : x ∈ xs) {e : ε} :
    f x ≠ .error e := by
  intro he
  obtain ⟨e', he'⟩ := mapM_eq_error_iff.mpr ⟨x, hx, e, he⟩
  rw [h] at he'
  cases he'

theorem pairwise_of_forall₂ {γ : Type} {key : α → γ} {key' : β → γ} {lt : γ → γ → Prop}
    (h : List.Forall₂ (fun x y => key' y = key x) xs ys)
    (hs : xs.Pairwise fun a b => lt (key a) (key b)) :
    ys.Pairwise fun a b => lt (key' a) (key' b) := by
  have hkeys : xs.map key = ys.map key' := by
    rw [← List.forall₂_eq_eq_eq, List.forall₂_map_left_iff, List.forall₂_map_right_iff]
    exact h.imp fun _ _ hkey => hkey.symm
  have hpairwise := List.pairwise_map.mpr hs
  rw [hkeys] at hpairwise
  exact List.pairwise_map.mp hpairwise

end

/-- `c` is `e` but for the part of a millisecond in its due date. -/
structure Exercise.IsCutOf (c e : Exercise) : Prop where
  id : c.id = e.id
  name : c.name = e.name
  due : c.due.IsCutOf e.due
  questions : c.questions = e.questions

def Exercise.restored (e : Exercise) : Except Fault Exercise :=
  (Instant.ofStored e.due.toMillis).map fun due => { e with due }

theorem Exercise.isCutOf_of_restored {c e : Exercise} (h : e.restored = .ok c) : c.IsCutOf e := by
  rw [restored, Instant.ofStored] at h
  cases hdue : Instant.ofMillis? e.due.toMillis with
  | none =>
      rw [hdue] at h
      cases h
  | some due =>
      rw [hdue] at h
      cases h
      exact ⟨rfl, rfl, Instant.isCutOf_of_ofMillis? hdue, rfl⟩

def allQuestions (es : List Exercise) : List (Int × Int × Question) :=
  es.flatMap fun e => (numbered e.questions).map (e.id, ·)

theorem allQuestions_cons (e : Exercise) (es : List Exercise) :
    allQuestions (e :: es) = (numbered e.questions).map (e.id, ·) ++ allQuestions es := by
  simp [allQuestions]

theorem allQuestions_append_singleton (es : List Exercise) (e : Exercise) :
    allQuestions (es ++ [e]) = allQuestions es ++ (numbered e.questions).map (e.id, ·) := by
  simp [allQuestions]

theorem filter_questions (e : Exercise) (id : Int) :
    ((numbered e.questions).map (e.id, ·)).filter (·.1 == id) =
      if e.id = id then (numbered e.questions).map (e.id, ·) else [] := by
  rw [List.filter_map]
  by_cases h : e.id = id <;> simp [Function.comp_def, h]

theorem filter_allQuestions {es : List Exercise} (hids : (es.map (·.id)).Nodup) {e : Exercise}
    (he : e ∈ es) :
    (allQuestions es).filter (·.1 == e.id) = (numbered e.questions).map (e.id, ·) := by
  have hnone {es : List Exercise} {id : Int} (hid : id ∉ es.map (·.id)) :
      (allQuestions es).filter (·.1 == id) = [] := by
    rw [allQuestions, List.filter_flatMap, List.flatMap_eq_nil_iff]
    intro e he
    rw [filter_questions, if_neg]
    intro heq
    exact hid (List.mem_map.mpr ⟨e, he, heq⟩)
  induction es with
  | nil => cases he
  | cons e' es ih =>
      obtain ⟨hnew, hids⟩ := List.nodup_cons.mp hids
      rw [allQuestions_cons, List.filter_append, filter_questions]
      rcases List.mem_cons.mp he with rfl | he
      · rw [if_pos rfl, hnone hnew, List.append_nil]
      · have hne : e'.id ≠ e.id := by
          intro hid
          exact hnew (List.mem_map.mpr ⟨e, he, hid.symm⟩)
        rw [if_neg hne, List.nil_append, ih hids he]

namespace Exercises

/-- The rows of these exercises and of their questions are all that there is. -/
structure Shelved (es : List Exercise) (s : Store) : Prop where
  exercises : s.rows .exercise = es.map rowOf
  questions : s.rows .question = (allQuestions es).map fun x => questionRowOf x.1 x.2

def byId (es : List Exercise) : List Exercise :=
  arrange (fun a b => a.id ≤ b.id) es

theorem perm_byId (es : List Exercise) : (byId es).Perm es :=
  perm_arrange _ es

theorem pairwise_byId {es : List Exercise} (hids : (es.map (·.id)).Nodup) :
    (byId es).Pairwise fun a b => a.id < b.id :=
  pairwise_lt_arrange (fun _ _ => decide_eq_true_iff) hids

variable {es : List Exercise} {s : Store} {a : Access}

theorem exerciseRows_eq (hs : s.Complete) (h : Shelved es s) :
    exerciseRows s = .ok ((byId es).map fun e => ⟨e.id, e.name, e.due.toMillis⟩) := by
  obtain ⟨t, ht⟩ := Option.isSome_iff_exists.mp (hs .exercise)
  have hle : (fun a b => Relation.exerciseSchema.le (rowOf a) (rowOf b)) =
      fun a b : Exercise => decide (a.id ≤ b.id) := by
    funext a b
    simp [Schema.le, Relation.exerciseSchema, lexLe, Column.key, rowOf, Cell.le]
  have hread (e : Exercise) : readExercise (rowOf e) = .ok ⟨e.id, e.name, e.due.toMillis⟩ := rfl
  rw [exerciseRows, require_eq_ok.mpr ht]
  change (arrange Relation.exerciseSchema.le t.rows).mapM readExercise = _
  rw [← rows_of_table ht, h.exercises, arrange_map, hle, mapM_map_of_ok hread, byId]

def readQuestionOf (x : Int × Int × Question) : ReadQuestion :=
  ⟨x.1, x.2.1, x.2.2.name, x.2.2.description, x.2.2.points.toNat⟩

theorem readQuestion_questionRowOf (x : Int × Int × Question) :
    readQuestion (questionRowOf x.1 x.2) = .ok (readQuestionOf x) := rfl

theorem word32?_toNat (n : UInt32) : word32? n.toNat = some n := by
  have hlt : n.toNat < uint32Bound := n.toNat_lt
  rw [word32?, if_pos ⟨Int.natCast_nonneg _, Int.ofNat_lt.mpr hlt⟩]
  simp

theorem toNat_of_word32? {n : Int} {m : UInt32} (h : word32? n = some m) : (m.toNat : Int) = n := by
  rw [word32?] at h
  split at h
  · next hn =>
      cases h
      have hlt : n.toNat < UInt32.size := by
        simp only [uint32Bound, UInt32.size] at *
        omega
      rw [UInt32.toNat_ofNat_of_lt' hlt]
      exact Int.toNat_of_nonneg hn.1
  · cases h

theorem checkQuestion_of_word32? {q : ReadQuestion} {n : UInt32} (h : word32? q.points = some n) :
    checkQuestion q = .ok (q.exercise, ⟨q.name, q.description, n⟩) := by
  rw [checkQuestion, h]

theorem checkQuestion_readQuestionOf (x : Int × Int × Question) :
    checkQuestion (readQuestionOf x) = .ok (x.1, x.2.2) :=
  checkQuestion_of_word32? (word32?_toNat x.2.2.points)

def questionLe (x y : Int × Int × Question) : Bool :=
  Relation.questionSchema.le (questionRowOf x.1 x.2) (questionRowOf y.1 y.2)

theorem questionLe_of_lt {id : Int} {x y : Int × Question} (h : x.1 < y.1) :
    questionLe (id, x) (id, y) := by
  simp [questionLe, Schema.le, Relation.questionSchema, lexLe, Column.integer, questionRowOf,
    Cell.le, h.le]

theorem questionRows_eq (hs : s.Complete) (hids : (es.map (·.id)).Nodup) (h : Shelved es s) :
    ∃ read questions, questionRows s = .ok read ∧ read.mapM checkQuestion = .ok questions ∧
      ∀ e ∈ es, (questions.filter (·.1 == e.id)).map (·.2) = e.questions := by
  obtain ⟨t, ht⟩ := Option.isSome_iff_exists.mp (hs .question)
  refine ⟨(arrange questionLe (allQuestions es)).map readQuestionOf,
    (arrange questionLe (allQuestions es)).map fun x => (x.1, x.2.2), ?_,
    mapM_map_of_ok checkQuestion_readQuestionOf _, ?_⟩
  · rw [questionRows, require_eq_ok.mpr ht]
    change (arrange Relation.questionSchema.le t.rows).mapM readQuestion = _
    rw [← rows_of_table ht, h.questions, arrange_map, mapM_map_of_ok readQuestion_questionRowOf]
    rfl
  · intro e he
    -- The questions of one exercise are in order where they stand among the others, and sorting all
    -- of them does not change that; how exercises are mixed does not matter.
    have hsorted : ((allQuestions es).filter (·.1 == e.id)).Pairwise
        fun x y => questionLe x y = true := by
      rw [filter_allQuestions hids he, List.pairwise_map]
      exact (pairwise_numbered e.questions).imp questionLe_of_lt
    have hsecond : (numbered e.questions).map (·.2) = e.questions := by
      rw [numbered, List.map_map]
      exact List.zipIdx_map_fst 0 e.questions
    rw [List.filter_map]
    change (((arrange questionLe (allQuestions es)).filter (·.1 == e.id)).map _).map _ = _
    rw [filter_arrange hsorted, filter_allQuestions hids he, List.map_map, List.map_map]
    exact hsecond

theorem result_all (ha : a.fault? = none) (hs : s.Complete) (hids : (es.map (·.id)).Nodup)
    (h : Shelved es s) : (all a s).result = (byId es).mapM Exercise.restored := by
  obtain ⟨read, questions, hread, hquestions, hown⟩ := questionRows_eq hs hids h
  have hexercises := gives_read.mpr ⟨ha, exerciseRows_eq hs h, rfl⟩
  have hquestions' := gives_read.mpr ⟨ha, hread, rfl⟩
  have hcheck : ∀ e ∈ byId es,
      checkExercise questions ⟨e.id, e.name, e.due.toMillis⟩ = e.restored := by
    intro e he
    rw [checkExercise, hown e ((perm_byId es).mem_iff.mp he), Exercise.restored]
    cases Instant.ofStored e.due.toMillis <;> rfl
  have hresult {r : Except Fault (List Exercise)} : (ofExcept r a s).result = r := by
    cases r <;> rfl
  have hnodup : (((byId es).map fun e : Exercise =>
      (⟨e.id, e.name, e.due.toMillis⟩ : ReadExercise)).map (·.id)).Nodup := by
    rw [List.map_map]
    exact ((perm_byId es).map _).nodup_iff.mpr hids
  rw [all, (bind_of_gives hexercises).1, (bind_of_gives hquestions').1, hresult,
    drain_fill hnodup, hquestions]
  change List.mapM (checkExercise questions) _ = _
  rw [List.mapM_map]
  exact mapM_congr hcheck

theorem result_count (ha : a.fault? = none) (hs : s.Complete) (h : Shelved es s) :
    (count a s).result = .ok es.length := by
  obtain ⟨t, ht⟩ := Option.isSome_iff_exists.mp (hs .exercise)
  have hlength : t.rows.length = es.length := by
    rw [← rows_of_table ht, h.exercises, List.length_map]
  refine (gives_read.mpr ⟨ha, ?_, rfl⟩).1
  rw [require_eq_ok.mpr ht, ← hlength]
  rfl

end Exercises

theorem Book.result_catalogue (a : Access) (s : Store) :
    (catalogue a s).result = (Exercises.all a s).result := by
  rw [catalogue]
  cases h : (Exercises.all a s).result with
  | ok es =>
      rw [(bind_of_gives ⟨h, rfl⟩).1]
      rfl
  | error e => exact (bind_of_error h).1

namespace Ledger

def added? : Request × Answer → Option Exercise
  | (.register e, .registration (.added _)) => some e
  | _ => none

def added (l : Ledger) : List Exercise :=
  l.filterMap added?

def Added (l : Ledger) (id : Int) : Prop :=
  ∃ e, (Request.register e, Answer.registration (.added id)) ∈ l

/-- These are the exercises that were added, all of them, each once and by id, but for the parts of
milliseconds in their due dates. -/
structure IsCatalogue (l : Ledger) (es : List Exercise) : Prop where
  ascending : es.Pairwise fun a b => a.id < b.id
  original : ∃ added, added.Perm l.added ∧ List.Forall₂ (fun e c => c.IsCutOf e) added es

end Ledger

theorem Request.Effect.exercises {s s' : Store} {r : Request} {y : Answer} (h : Effect s r y s') :
    (Ledger.added? (r, y) = none ∧ s'.rows .exercise = s.rows .exercise ∧
        s'.rows .question = s.rows .question) ∨
      ∃ e, r = .register e ∧ y = .registration (.added e.id) ∧ Book.Registered e s s' := by
  cases h with
  | enrolled _ he => exact .inl ⟨rfl, he.rows_of_ne (by decide), he.rows_of_ne (by decide)⟩
  | submitted _ _ he =>
      exact .inl ⟨rfl, he.rows_of_ne (by decide) (by decide) (by decide),
        he.rows_of_ne (by decide) (by decide) (by decide)⟩
  | registered he => exact .inr ⟨_, rfl, rfl, he⟩
  | known => exact .inl ⟨rfl, rfl, rfl⟩
  | asked hq =>
      refine .inl ⟨?_, rfl, rfl⟩
      cases r <;> first | rfl | cases hq

namespace History

theorem shelved_store (h : History) : Exercises.Shelved h.ledger.added h.store := by
  refine ledger_induction (P := fun s l => Exercises.Shelved l.added s) ⟨rfl, rfl⟩ ?_ ?_ h
  · intro s s' l hs ih
    exact ⟨(hs.rows _).trans ih.exercises, (hs.rows _).trans ih.questions⟩
  · intro s s' l r y hs he ih
    rw [Ledger.added, List.filterMap_append]
    rcases he.exercises with ⟨hnone, hexercise, hquestion⟩ | ⟨e, rfl, rfl, hreg⟩
    · rw [List.filterMap_cons_none hnone, List.filterMap_nil, List.append_nil]
      exact ⟨hexercise.trans ih.exercises, hquestion.trans ih.questions⟩
    · change Exercises.Shelved (l.added ++ [e]) s'
      constructor
      · rw [hreg.rows_exercise, ih.exercises, List.map_append, List.map_singleton]
      · rw [hreg.rows_question, ih.questions, allQuestions_append_singleton, List.map_append,
          List.map_map]
        rfl

theorem nodup_added (h : History) : (h.ledger.added.map (·.id)).Nodup := by
  have hids := h.integrity_store.exerciseIds
  rw [h.shelved_store.exercises, List.map_map] at hids
  exact hids

theorem added_iff (h : History) (id : Int) :
    h.ledger.Added id ↔ ∃ r ∈ h.store.rows .exercise, r.id = id := by
  refine ledger_induction
    (P := fun s l => l.Added id ↔ ∃ r ∈ s.rows .exercise, r.id = id) ?_ ?_ ?_ h
  · constructor
    · rintro ⟨e, he⟩
      cases he
    · rintro ⟨r, hr, -⟩
      cases hr
  · intro s s' l hs ih
    rw [ih, hs.rows]
  · intro s s' l r y hs he ih
    have happend : Ledger.Added (l ++ [(r, y)]) id ↔
        l.Added id ∨ ∃ e, r = .register e ∧ y = .registration (.added id) := by
      simp only [Ledger.Added, List.mem_append, exists_or, List.mem_singleton, Prod.mk.injEq,
        eq_comm]
    rw [happend, ih]
    rcases he.exercises with ⟨hnone, hexercise, -⟩ | ⟨e, rfl, rfl, hreg⟩
    · rw [hexercise]
      refine or_iff_left ?_
      rintro ⟨e, rfl, rfl⟩
      cases hnone
    · rw [hreg.rows_exercise]
      simp [or_and_right, exists_or, Exercises.rowOf]

theorem register_eq {h : History} (hh : h.Unhindered) (e : Exercise) :
    (h.ledger.Added e.id → (Book.register e .readWrite h.store).result = .ok .alreadyExists) ∧
      (¬ h.ledger.Added e.id →
        (Book.register e .readWrite h.store).result = .ok (.added e.id)) := by
  rw [h.added_iff]
  constructor
  · intro hknown
    exact (Book.gives_register_of_known rfl (h.complete_store .exercise) hknown).1
  · intro hnone
    have hs := lenient_store hh
    have hnew : ∀ r ∈ h.store.rows .exercise, r.id ≠ e.id := fun r hr hid => hnone ⟨r, hr, hid⟩
    obtain ⟨s', hs'⟩ := Book.gives_register (hs .exercise) (hs .question)
      (h.complete_store .exercise) (h.complete_store .question) hnew
      fun x _ => Exercises.apart_of_integrity h.integrity_store hnew x
    exact hs'.1

theorem result_catalogue {h : History} {a : Access} (ha : a.fault? = none) :
    (Book.catalogue a h.store).result =
      (Exercises.byId h.ledger.added).mapM Exercise.restored := by
  rw [Book.result_catalogue]
  exact Exercises.result_all ha h.complete_store h.nodup_added h.shelved_store

theorem added_prefix_after (h : History) (moves : List Move) :
    h.ledger.added <+: (h.after moves).ledger.added :=
  (h.ledger_prefix_after moves).filterMap _

theorem exists_isCatalogue {h : History}
    (hdue : ∀ e ∈ h.ledger.added, (Instant.ofMillis? e.due.toMillis).isSome) :
    ∃ es, (Exercises.byId h.ledger.added).mapM Exercise.restored = .ok es ∧
      h.ledger.IsCatalogue es := by
  cases hes : (Exercises.byId h.ledger.added).mapM Exercise.restored with
  | error fault =>
      obtain ⟨e, he, hfault⟩ := exists_of_mapM_eq_error hes
      obtain ⟨due, hsome⟩ := Option.isSome_iff_exists.mp
        (hdue e ((Exercises.perm_byId _).mem_iff.mp he))
      rw [Exercise.restored, Instant.ofStored, hsome] at hfault
      cases hfault
  | ok es =>
      have hcut : List.Forall₂ (fun e c => c.IsCutOf e) (Exercises.byId h.ledger.added) es :=
        (forall₂_of_mapM_eq_ok hes).imp fun _ _ => Exercise.isCutOf_of_restored
      have hascending := pairwise_of_forall₂ (hcut.imp fun _ _ hc => hc.id)
        (Exercises.pairwise_byId h.nodup_added)
      exact ⟨es, rfl, hascending, _, Exercises.perm_byId _, hcut⟩

/-- At every point of a history, an exercise is added unless its id was added before, and the
catalogue is what was added so far; nothing that comes after takes any of it away or changes it. -/
theorem catalogue_store (h : History) (moves : List Move)
    (hdue : ∀ e ∈ (h.after moves).ledger.added, (Instant.ofMillis? e.due.toMillis).isSome) :
    (h.Unhindered → ∀ e : Exercise,
      (h.ledger.Added e.id → (Book.register e .readWrite h.store).result = .ok .alreadyExists) ∧
      (¬ h.ledger.Added e.id →
        (Book.register e .readWrite h.store).result = .ok (.added e.id))) ∧
    ∃ es es', h.ledger.IsCatalogue es ∧ es ⊆ es' ∧ ∀ a : Access, a.fault? = none →
      (Book.catalogue a h.store).result = .ok es ∧
      (Book.catalogueSize a h.store).result = .ok es.length ∧
      (Book.catalogue a (h.after moves).store).result = .ok es' := by
  refine ⟨fun hh e => register_eq hh e, ?_⟩
  have hadded := (h.added_prefix_after moves).subset
  obtain ⟨es, hes, hcatalogue⟩ := exists_isCatalogue (h := h) fun e he => hdue e (hadded he)
  obtain ⟨es', hes', -⟩ := exists_isCatalogue hdue
  refine ⟨es, es', hcatalogue, ?_, ?_⟩
  · intro c hc
    obtain ⟨e, he, hrestored⟩ := (mem_of_mapM_eq_ok hes).mp hc
    rw [(Exercises.perm_byId _).mem_iff] at he
    exact (mem_of_mapM_eq_ok hes').mpr
      ⟨e, (Exercises.perm_byId _).mem_iff.mpr (hadded he), hrestored⟩
  · intro a ha
    have hlength : es.length = h.ledger.added.length := by
      rw [← (forall₂_of_mapM_eq_ok hes).length_eq, (Exercises.perm_byId _).length_eq]
    refine ⟨(result_catalogue ha).trans hes, ?_, (result_catalogue ha).trans hes'⟩
    rw [hlength]
    exact Exercises.result_count ha h.complete_store h.shelved_store

/-- Two exercises are added, the second with the smaller id, and one is turned away because it comes
again. -/
def twoExercises : History :=
  let late := Instant.inFirstHour 60 1500000
  let register (id : Int) (name : String) (questions : List Question) : Move :=
    .request .readWrite (.register ⟨id, name, late, questions⟩)
  [register 7 "Sums" [⟨"1 + 1", "", 1⟩, ⟨"1 + 2", "twice", 2⟩], register (-3) "None" [],
    register 7 "Other" []].foldl .next .fresh

theorem catalogue_store_twoExercises :
    (∀ e ∈ (twoExercises.after []).ledger.added, (Instant.ofMillis? e.due.toMillis).isSome) ∧
      twoExercises.Unhindered ∧ ∃ es, twoExercises.ledger.IsCatalogue es ∧
        (Book.catalogue .readWrite twoExercises.store).result = .ok es ∧
        es.map (·.id) = [-3, 7] := by
  have hdue : ∀ e ∈ (twoExercises.after []).ledger.added,
      (Instant.ofMillis? e.due.toMillis).isSome := by decide +kernel
  obtain ⟨-, es, es', hes, -, hcatalogue⟩ := twoExercises.catalogue_store [] hdue
  obtain ⟨hresult, -⟩ := hcatalogue .readWrite rfl
  have hids : (Book.catalogue .readWrite twoExercises.store).result.toOption.map
      (·.map (·.id)) = some [-3, 7] := by decide +kernel
  rw [hresult] at hids
  exact ⟨hdue, ⟨⟨⟨trivial, rfl⟩, rfl⟩, rfl⟩, es, hes, hresult, Option.some.inj hids⟩

end History

end Markbook
