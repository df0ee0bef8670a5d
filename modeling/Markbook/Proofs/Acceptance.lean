import Markbook.Proofs.Keys
import Markbook.Proofs.Ledger

namespace Markbook

open Store Work

namespace Store

namespace Table

variable {ρ : Type} {σ : Schema ρ} {t : Table ρ} {r : ρ}

/-- Nothing is refused but what the schema forbids. -/
structure Lenient (t : Table ρ) : Prop where
  guards : t.guards = []
  indexes : t.indexes = []

theorem Lenient.checkGuards (h : t.Lenient) (change : Change) (r : ρ) :
    t.checkGuards σ change r = .ok () := by
  simp [Table.checkGuards, h.guards]

theorem Lenient.insert (h : t.Lenient) (generated : Bool) (hr : ∀ o ∈ t.rows, σ.Apart r o) :
    t.insert σ generated r = .ok { t with rows := t.rows ++ [r] } := by
  rw [insert_of_apart h.indexes generated hr, h.checkGuards]
  rfl

theorem Lenient.update (h : t.Lenient) {selected : ρ → Bool} {f : ρ → ρ}
    (hf : ∀ r o, σ.Apart (f r) o ↔ σ.Apart r o) (hrows : t.rows.Pairwise σ.Apart) :
    t.update σ selected (fun r => .ok (f r)) =
      .ok ((t.rows.filter selected).length,
        { t with rows := t.rows.map fun r => if selected r then f r else r }) := by
  rw [update_of_apart h.indexes hf hrows, forM_eq_ok.mpr fun r _ => h.checkGuards .update (f r)]
  rfl

theorem Lenient.upsert (h : t.Lenient) (key : ρ → Int) {f : ρ → ρ}
    (hf : ∀ r o, σ.Apart (f r) o ↔ σ.Apart r o) (hrows : t.rows.Pairwise σ.Apart)
    (hr : (∀ o ∈ t.rows, key o ≠ key r) → ∀ o ∈ t.rows, σ.Apart r o) :
    ∃ rows, t.upsert σ key r f = .ok { t with rows } := by
  refine ⟨upserted key r f t.rows, ?_⟩
  rw [upsert_of_apart h.indexes key hf hrows hr, h.checkGuards,
    forM_eq_ok.mpr fun x _ => h.checkGuards .update (f x)]
  rfl

theorem Lenient.delete (h : t.Lenient) (selected : ρ → Bool) :
    t.delete σ selected = .ok ((t.rows.filter selected).length,
      { t with rows := t.rows.filter (!selected ·) }) := by
  rw [Table.delete, forM_eq_ok.mpr fun r _ => h.checkGuards .delete r]
  rfl

end Table

def Lenient (s : Store) : Prop :=
  ∀ t x, s.table t = some x → x.Lenient

def LenientIn (s : Store) (t : Relation) : Prop :=
  ∀ x, s.table t = some x → x.Lenient

variable {s : Store} {t u : Relation}

theorem lenient_fresh : Lenient .fresh := by
  intro t x hx
  cases t <;> cases hx <;> exact ⟨rfl, rfl⟩

theorem LenientIn.withRows (h : s.LenientIn t) (rows : List t.Row) :
    (s.withRows t rows).LenientIn t := by
  intro x hx
  rw [Store.withRows, table_setTable_self] at hx
  obtain ⟨y, hy, rfl⟩ := Option.map_eq_some_iff.mp hx
  exact ⟨(h y hy).guards, (h y hy).indexes⟩

theorem LenientIn.withRows_of_ne (h : s.LenientIn u) (hu : u ≠ t) (rows : List t.Row) :
    (s.withRows t rows).LenientIn u := by
  intro x hx
  rw [table_withRows_of_ne hu] at hx
  exact h x hx

theorem Lenient.withRows (h : s.Lenient) (t : Relation) (rows : List t.Row) :
    (s.withRows t rows).Lenient := by
  intro u
  by_cases hu : u = t
  · subst u
    exact LenientIn.withRows (h t) rows
  · exact LenientIn.withRows_of_ne (h u) hu rows

theorem LenientIn.gives_write {α : Type} (h : s.LenientIn t) (ht : (s.table t).isSome)
    {f : Table t.Row → Except StoreError (α × Table t.Row)} {y : α} {rows : List t.Row}
    (hf : ∀ x : Table t.Row, x.Lenient → x.rows = s.rows t → f x = .ok (y, { x with rows })) :
    Gives (write t f) .readWrite s y (s.withRows t rows) := by
  obtain ⟨x, hx⟩ := Option.isSome_iff_exists.mp ht
  refine Work.gives_write.mpr ⟨rfl, rfl, x, _, hx, hf x (h x hx) (rows_of_table hx).symm, ?_⟩
  rw [withRows_of_table hx]

theorem LenientIn.gives_insertion (h : s.LenientIn t) (ht : (s.table t).isSome) {σ : Schema t.Row}
    {r : t.Row} (hr : ∀ o ∈ s.rows t, σ.Apart r o) :
    Gives (write t fun x => do
      let x' ← x.insert σ false r
      return ((), x')) .readWrite s () (s.withRows t (s.rows t ++ [r])) := by
  refine h.gives_write ht ?_
  intro x hx hrows
  rw [hx.insert false (by rwa [hrows]), hrows]
  rfl

theorem LenientIn.gives_generation (h : s.LenientIn t) (ht : (s.table t).isSome) {σ : Schema t.Row}
    (key : t.Row → Int) (row : Int → t.Row)
    (hr : ∀ o ∈ s.rows t, σ.Apart (row (nextAfter ((s.rows t).map key))) o) :
    Gives (write t fun x => do
      let id := x.nextId key
      let x' ← x.insert σ true (row id)
      return (id, x')) .readWrite s (nextAfter ((s.rows t).map key))
      (s.withRows t (s.rows t ++ [row (nextAfter ((s.rows t).map key))])) := by
  refine h.gives_write ht ?_
  intro x hx hrows
  have hid : x.nextId key = nextAfter ((s.rows t).map key) := by
    rw [← hrows]
    rfl
  dsimp only
  rw [hid, hx.insert true (by rwa [hrows]), hrows]
  rfl

theorem LenientIn.gives_forM {ι : Type} {σ : Schema t.Row} {f : ι → Work Unit} (row : ι → t.Row)
    (hf : ∀ x s, LenientIn s t → (s.table t).isSome → (∀ o ∈ s.rows t, σ.Apart (row x) o) →
      Gives (f x) .readWrite s () (s.withRows t (s.rows t ++ [row x])))
    (h : s.LenientIn t) (ht : (s.table t).isSome) {xs : List ι}
    (hold : ∀ x ∈ xs, ∀ o ∈ s.rows t, σ.Apart (row x) o)
    (hnew : xs.Pairwise fun x y => σ.Apart (row y) (row x)) :
    Gives (xs.forM f) .readWrite s () (s.withRows t (s.rows t ++ xs.map row)) := by
  induction xs generalizing s with
  | nil => exact gives_forM_nil.mpr (by simp [withRows_rows])
  | cons x xs ih =>
      obtain ⟨hx, hxs⟩ := List.pairwise_cons.mp hnew
      have hfirst := hf x s h ht (hold x List.mem_cons_self)
      have hrows := rows_withRows_self ht (s.rows t ++ [row x])
      have hold' : ∀ y ∈ xs, ∀ o ∈ s.rows t ++ [row x], σ.Apart (row y) o := by
        intro y hy o ho
        rcases List.mem_append.mp ho with ho | ho
        · exact hold y (List.mem_cons_of_mem x hy) o ho
        · exact List.mem_singleton.mp ho ▸ hx y hy
      have hrest := ih (s := s.withRows t (s.rows t ++ [row x])) (h.withRows _)
        (by rwa [isSome_table_withRows]) (by rwa [hrows]) hxs
      rw [hrows, withRows_withRows, List.append_assoc] at hrest
      exact gives_forM_cons.mpr ⟨_, hfirst, hrest⟩

end Store

namespace Exercises

variable {s : Store} {e : Exercise}

theorem gives_insert (hs : s.LenientIn .exercise) (ht : (s.table .exercise).isSome)
    (hnew : ∀ r ∈ s.rows .exercise, r.id ≠ e.id) :
    Gives (insert e) .readWrite s () (s.withRows .exercise (s.rows .exercise ++ [rowOf e])) := by
  refine hs.gives_insertion ht ?_
  intro o ho
  exact apart_exercise.mpr (hnew o ho).symm

theorem gives_addQuestions (id : Int) (questions : List Question) (hs : s.LenientIn .question)
    (ht : (s.table .question).isSome)
    (hold : ∀ x ∈ numbered questions, ∀ o ∈ s.rows .question,
      Relation.questionSchema.Apart (questionRowOf id x) o) :
    Gives (addQuestions id questions) .readWrite s ()
      (s.withRows .question
        (s.rows .question ++ (numbered questions).map (questionRowOf id))) := by
  refine hs.gives_forM (t := .question) (σ := Relation.questionSchema) (questionRowOf id) ?_ ht
    hold ?_
  · rintro ⟨number, q⟩ s hs ht hold
    exact hs.gives_insertion ht hold
  · refine (pairwise_numbered questions).imp ?_
    intro x y hxy
    exact apart_question.mpr (.inr (by simpa [questionRowOf] using hxy.ne'))

theorem apart_of_integrity (hs : s.Integrity) (hnew : ∀ r ∈ s.rows .exercise, r.id ≠ e.id)
    (x : Int × Question) :
    ∀ o ∈ s.rows .question, Relation.questionSchema.Apart (questionRowOf e.id x) o := by
  intro o ho
  obtain ⟨r, hr, hid⟩ := hs.questionExercise o ho
  refine apart_question.mpr (.inl ?_)
  simpa [questionRowOf, hid] using (hnew r hr).symm

end Exercises

namespace Users

variable {s : Store}

theorem pairwise_apart {rows : List UserRow} (hids : (rows.map (·.id)).Nodup)
    (hnames : (rows.map (·.username)).Nodup) : rows.Pairwise Relation.userSchema.Apart := by
  refine ((List.pairwise_map.mp hids).and (List.pairwise_map.mp hnames)).imp ?_
  rintro a b ⟨hid, hname⟩
  exact apart_user.mpr ⟨hid, fun _ => hname⟩

theorem gives_update (id : Int) {f : UserRow → UserRow} (hs : s.LenientIn .user)
    (ht : (s.table .user).isSome) (hf : ∀ r, (f r).id = r.id ∧ (f r).username = r.username)
    (hrows : (s.rows .user).Pairwise Relation.userSchema.Apart) :
    Gives (update id f) .readWrite s ()
      (s.withRows .user ((s.rows .user).map fun r => if r.id == id then f r else r)) := by
  refine hs.gives_write ht ?_
  intro x hx hx'
  rw [hx.update (apart_user_map hf) (by rwa [hx']), hx']
  rfl

theorem gives_insert {u : User} (password : Option String) (hs : s.LenientIn .user)
    (ht : (s.table .user).isSome) (hnew : ∀ r ∈ s.rows .user, r.username ≠ some u.username) :
    ∃ id rows, Gives (insert u password) .readWrite s id (s.withRows .user rows) := by
  refine ⟨_, _, hs.gives_generation (t := .user) ht (·.id)
    (⟨·, some u.username, some u.firstname, some u.lastname, password⟩) ?_⟩
  intro o ho
  have hlt := lt_nextAfter (List.mem_map_of_mem (f := (·.id)) ho)
  exact apart_user.mpr ⟨hlt.ne', fun _ => (hnew o ho).symm⟩

theorem gives_settle {u : User} {p : Option String → Option String} (hs : s.LenientIn .user)
    (hrows : (s.rows .user).Pairwise Relation.userSchema.Apart) (ht : (s.table .user).isSome) :
    ∃ id rows, Gives (settle u p) .readWrite s id (s.withRows .user rows) := by
  have hfound : Gives (idOf u.username) .readWrite s
      (((s.rows .user).find? (hasUsername u.username)).map (·.id)) s :=
    gives_idOf.mpr ⟨rfl, ht, rfl, rfl⟩
  cases hr : (s.rows .user).find? (hasUsername u.username) with
  | some r =>
      rw [hr] at hfound
      have hupdate := gives_update r.id hs ht (f := renewed u p) (fun _ => ⟨rfl, rfl⟩) hrows
      exact ⟨r.id, _, gives_bind.mpr ⟨_, _, hfound,
        gives_bind.mpr ⟨(), _, hupdate, gives_pure.mpr ⟨rfl, rfl⟩⟩⟩⟩
  | none =>
      rw [hr] at hfound
      obtain ⟨id, rows, hinsert⟩ := gives_insert (u := u) (p none) hs ht (by
        intro r hmem hname
        exact List.find?_eq_none.mp hr r hmem (hasUsername_iff.mpr hname))
      exact ⟨id, rows, gives_bind.mpr ⟨_, _, hfound, hinsert⟩⟩

end Users

namespace Submissions

variable {s : Store}

theorem gives_insert {user exercise ms : Int} (hs : s.LenientIn .submission)
    (ht : (s.table .submission).isSome) :
    ∃ id rows, Gives (insert user exercise ms) .readWrite s id (s.withRows .submission rows) := by
  refine ⟨_, _, hs.gives_generation (t := .submission) ht (·.id)
    (⟨·, .int user, .int exercise, .int ms⟩) ?_⟩
  intro o ho
  exact apart_submission.mpr (lt_nextAfter (List.mem_map_of_mem (f := (·.id)) ho)).ne'

theorem gives_put {id user exercise ms : Int} (hs : s.LenientIn .submission)
    (ht : (s.table .submission).isSome) (hids : ((s.rows .submission).map (·.id)).Nodup) :
    ∃ rows, Gives (put id user exercise ms) .readWrite s () (s.withRows .submission rows) := by
  obtain ⟨x, hx⟩ := Option.isSome_iff_exists.mp ht
  rw [rows_of_table hx] at hids
  obtain ⟨rows, hrows⟩ := (hs x hx).upsert (σ := Relation.submissionSchema)
    (·.id) (r := ⟨id, .int user, .int exercise, .int ms⟩)
    (f := fun r => { r with user := .int user, exercise := .int exercise, time := .int ms })
    (apart_submission_map fun _ => rfl)
    ((List.pairwise_map.mp hids).imp apart_submission.mpr)
    (fun hne o ho => apart_submission.mpr (hne o ho).symm)
  refine ⟨rows, gives_write.mpr ⟨rfl, rfl, x, _, hx, ?_, (withRows_of_table hx rows).symm⟩⟩
  rw [hrows]
  rfl

theorem gives_clearGrades (id : Int) (hs : s.LenientIn .grade) (ht : (s.table .grade).isSome) :
    ∃ n, Gives (clearGrades id) .readWrite s n
      (s.withRows .grade ((s.rows .grade).filter (!belongsTo id ·))) := by
  refine ⟨((s.rows .grade).filter (belongsTo id)).length, hs.gives_write ht ?_⟩
  intro x hx hx'
  rw [hx.delete, hx']

theorem gives_addGrades (id : Int) (grades : List Float) (hs : s.LenientIn .grade)
    (ht : (s.table .grade).isSome) (hold : ∀ g ∈ s.rows .grade, ¬ belongsTo id g) :
    Gives (addGrades id grades) .readWrite s ()
      (s.withRows .grade (s.rows .grade ++ (numbered grades).map (gradeRowOf id))) := by
  refine hs.gives_forM (t := .grade) (σ := Relation.gradeSchema) (gradeRowOf id) ?_ ht ?_ ?_
  · rintro ⟨number, grade⟩ s hs ht hold
    exact hs.gives_insertion ht hold
  · intro x _ o ho
    exact apart_gradeRowOf (hold o ho) x
  · exact (pairwise_numbered grades).imp fun hxy => apart_gradeRowOf_of_lt id hxy

end Submissions

namespace Book

variable {s : Store}

theorem gives_register {e : Exercise} (hexercise : s.LenientIn .exercise)
    (hquestion : s.LenientIn .question) (het : (s.table .exercise).isSome)
    (hqt : (s.table .question).isSome) (hnew : ∀ r ∈ s.rows .exercise, r.id ≠ e.id)
    (hfree : ∀ x ∈ numbered e.questions, ∀ o ∈ s.rows .question,
      Relation.questionSchema.Apart (Exercises.questionRowOf e.id x) o) :
    ∃ s', Gives (register e) .readWrite s (.added e.id) s' := by
  have hknown : (s.rows .exercise).any (·.id == e.id) = false := by
    simpa using hnew
  have hinsert := Exercises.gives_insert hexercise het hnew
  have hquestions := Exercises.gives_addQuestions e.id e.questions
    (hquestion.withRows_of_ne (t := .exercise) (by decide)
      (s.rows .exercise ++ [Exercises.rowOf e]))
    (by rwa [isSome_table_withRows])
    (by rwa [rows_withRows_of_ne (by decide)])
  have henter : Gives (enter e) .readWrite s (.added e.id) _ :=
    gives_bind.mpr ⟨false, s, Exercises.gives_isRegistered.mpr ⟨rfl, het, hknown, rfl⟩,
      gives_bind.mpr ⟨.ok (), _, gives_attempt.mpr hinsert,
        gives_bind.mpr ⟨(), _, gives_mapFault.mpr hquestions, gives_pure.mpr ⟨rfl, rfl⟩⟩⟩⟩
  refine ⟨_, gives_bind.mpr ⟨_, _, gives_transaction.mpr ⟨by decide, henter⟩,
    gives_bind.mpr ⟨(), _, gives_report.mpr rfl, gives_pure.mpr ⟨rfl, rfl⟩⟩⟩⟩

theorem gives_register_of_known {e : Exercise} {a : Access} (ha : a.fault? = none)
    (ht : (s.table .exercise).isSome) (hknown : ∃ r ∈ s.rows .exercise, r.id = e.id) :
    Gives (register e) a s .alreadyExists s := by
  have hany : (s.rows .exercise).any (·.id == e.id) = true := by
    simpa using hknown
  have hopen : a ≠ .closed := by
    rintro rfl
    cases ha
  have henter : Gives (enter e) a s .alreadyExists s :=
    gives_bind.mpr ⟨true, s, Exercises.gives_isRegistered.mpr ⟨ha, ht, hany, rfl⟩,
      gives_bind.mpr ⟨(), s, gives_report.mpr rfl, gives_pure.mpr ⟨rfl, rfl⟩⟩⟩
  exact gives_bind.mpr ⟨_, _, gives_transaction.mpr ⟨hopen, henter⟩, gives_pure.mpr ⟨rfl, rfl⟩⟩

theorem exists_gives_grading {user id : Int} {grades : List Float} (hs : s.LenientIn .grade)
    (ht : (s.table .grade).isSome) :
    ∃ r s', Gives (do
      let replaced ← Submissions.clearGrades id
      Submissions.addGrades id grades
      return (⟨user, id, replaced⟩ : Stored)) .readWrite s r s' := by
  obtain ⟨n, hclear⟩ := Submissions.gives_clearGrades id hs ht
  have hold : ∀ g ∈ (s.withRows .grade ((s.rows .grade).filter
      (!Submissions.belongsTo id ·))).rows .grade, ¬ Submissions.belongsTo id g := by
    intro g hg
    rw [rows_withRows_self ht] at hg
    simpa using (List.mem_filter.mp hg).2
  have hadd := Submissions.gives_addGrades id grades (hs.withRows _)
    (by rwa [isSome_table_withRows]) hold
  exact exists_gives_bind hclear (exists_gives_bind hadd ⟨_, _, gives_pure.mpr ⟨rfl, rfl⟩⟩)

theorem exists_gives_record {x : Submission} (hs : s.Lenient)
    (hu : (s.rows .user).Pairwise Relation.userSchema.Apart)
    (hids : ((s.rows .submission).map (·.id)).Nodup) (hc : s.Complete) :
    ∃ r s', Gives (record x) .readWrite s r s' := by
  obtain ⟨user, users, huser⟩ := Users.gives_settle (u := x.user) (p := id) (hs .user) hu (hc .user)
  have hs₁ := hs.withRows .user users
  have hc₁ := hc.withRows .user users
  rw [record, Users.identify_eq_settle]
  refine exists_gives_bind huser ?_
  dsimp only
  split
  next =>
      obtain ⟨rows, hput⟩ := Submissions.gives_put (hs₁ .submission) (hc₁ .submission)
        (by rwa [rows_withRows_of_ne (by decide)])
      refine exists_gives_bind hput (exists_gives_bind (gives_pure.mpr ⟨rfl, rfl⟩) ?_)
      exact exists_gives_grading (hs₁.withRows .submission rows .grade)
        (hc₁.withRows .submission rows .grade)
  next =>
      obtain ⟨id, rows, hinsert⟩ := Submissions.gives_insert (hs₁ .submission) (hc₁ .submission)
      refine exists_gives_bind hinsert ?_
      exact exists_gives_grading (hs₁.withRows .submission rows .grade)
        (hc₁.withRows .submission rows .grade)

theorem exists_gives_submit {x : Submission} (hs : s.Lenient)
    (hu : (s.rows .user).Pairwise Relation.userSchema.Apart)
    (hids : ((s.rows .submission).map (·.id)).Nodup) (hc : s.Complete)
    (hname : x.user.username ≠ "") (hgrades : x.grades.length = x.exercise.size) :
    ∃ y s', Gives (submit x) .readWrite s y s' := by
  obtain ⟨r, s', hrecord⟩ := exists_gives_record (x := x) hs hu hids hc
  rw [submit_eq]
  refine exists_gives_bind (x := ()) (gives_ofExcept.mpr ⟨checkGrades_eq_ok.mpr hgrades, rfl⟩) ?_
  refine exists_gives_bind (x := ()) (gives_ofExcept.mpr ⟨checkName_eq_ok.mpr hname, rfl⟩) ?_
  refine exists_gives_bind (gives_transaction.mpr ⟨by decide, hrecord⟩) ?_
  dsimp only
  split
  · exact exists_gives_bind (x := ()) (gives_report.mpr rfl) ⟨_, _, gives_pure.mpr ⟨rfl, rfl⟩⟩
  · exact exists_gives_bind (x := ()) (gives_report.mpr rfl) ⟨_, _, gives_pure.mpr ⟨rfl, rfl⟩⟩

theorem store_reopening (hs : s.Complete) (a : Access) : (reopening a s).store = s := by
  have hcreate (t : Relation) : (create t a s).store = s := by
    obtain ⟨x, hx⟩ := Option.isSome_iff_exists.mp (hs t)
    rw [create, hx]
    cases a.fault? <;> rfl
  have hforM (ts : List Relation) : (ts.forM (fun t => do
      report (.ensuringTable t.name)
      create t) a s).store = s := by
    induction ts with
    | nil => rfl
    | cons t ts ih => exact store_bind (store_bind rfl fun _ => hcreate t) fun _ => ih
  refine store_bind ?_ fun _ => rfl
  cases hr : (createTables a s).result with
  | ok v =>
      obtain ⟨-, -, hstore⟩ := gives_transaction.mp ⟨hr, rfl⟩
      exact hstore.symm.trans (hforM _)
  | error e => exact restores_transaction _ a s e hr

end Book

def Move.hinders : Move → Bool
  | refuse .. => true
  | _ => false

namespace History

/-- Nobody has ever chosen what the store refuses. -/
def Unhindered : History → Prop
  | fresh => True
  | next h m => h.Unhindered ∧ m.hinders = false

theorem lenient_store {h : History} (hh : h.Unhindered) : h.store.Lenient := by
  induction h with
  | fresh => exact lenient_fresh
  | next h m ih =>
      obtain ⟨hprev, hm⟩ := hh
      have hs := ih hprev
      cases m with
      | reopen a =>
          change (Book.reopening a h.store).store.Lenient
          rwa [Book.store_reopening h.complete_store]
      | refuse a t ht => cases hm
      | request a r =>
          change (r.run a h.store).store.Lenient
          cases hr : (r.run a h.store).result with
          | error e => rwa [Request.restores_run r a h.store e hr]
          | ok y =>
              have he := Request.effect_of_gives ⟨hr, rfl⟩
              generalize (r.run a h.store).store = s' at he ⊢
              cases he with
              | enrolled _ he => exact he.store_eq ▸ hs.withRows _ _
              | registered he => exact he.store_eq ▸ (hs.withRows _ _).withRows _ _
              | known => exact hs
              | submitted _ _ he =>
                  exact he.store_eq ▸ ((hs.withRows _ _).withRows _ _).withRows _ _
              | asked => exact hs

end History

end Markbook
