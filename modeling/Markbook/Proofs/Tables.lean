import Markbook.Proofs.History
import Markbook.Proofs.Reachable

namespace Markbook

open Store Work

variable {α : Type} {P : Store → Prop} {a : Access} {s s' : Store}

namespace Work

theorem Keeps.map {β : Type} {w : Work α} {f : α → β} (h : Keeps P w) : Keeps P (f <$> w) :=
  h.bind fun _ => leavesStore_pure.keeps

theorem Keeps.forM {ι : Type} {f : ι → Work Unit} (hf : ∀ x, Keeps P (f x)) (xs : List ι) :
    Keeps P (xs.forM f) := by
  induction xs with
  | nil => exact leavesStore_pure.keeps
  | cons x xs ih => exact (hf x).bind fun _ => ih

theorem Keeps.mapM {ι β : Type} {f : ι → Work β} {xs : List ι} (hf : ∀ x ∈ xs, Keeps P (f x)) :
    Keeps P (xs.mapM f) := by
  have hloop (ys : List β) : Keeps P (List.mapM.loop f xs ys) := by
    induction xs generalizing ys with
    | nil => exact leavesStore_pure.keeps
    | cons x xs ih =>
        exact (hf x List.mem_cons_self).bind fun y =>
          ih (fun x' hx' => hf x' (List.mem_cons_of_mem x hx')) (y :: ys)
  exact hloop []

theorem Keeps.attempt {w : Work α} (h : Keeps P w) : Keeps P w.attempt :=
  h

theorem keeps_undone (w : Work α) : Keeps P w.undone :=
  fun _ _ h => h

theorem keeps_write {t : Relation} {f : Table t.Row → Except StoreError (α × Table t.Row)} :
    Keeps Complete (write t f) := by
  intro a s hs
  cases h : (write t f a s).result with
  | error e => rwa [restores_write a s e h]
  | ok y =>
      obtain ⟨-, -, x, x', -, -, hstore⟩ := gives_write.mp ⟨h, rfl⟩
      rw [← hstore]
      intro u
      by_cases hu : u = t
      · subst u
        rw [table_setTable_self]
        rfl
      · rw [table_setTable_of_ne s hu]
        exact hs u

theorem SparesRows.keeps_complete {w : Work α} (h : SparesRows w) : Keeps Complete w :=
  fun a s hs t => (h a s).tables t (hs t)

theorem gives_create {t : Relation} {u : Unit} :
    Gives (create t) a s u s' ↔
      a.fault? = none ∧ ((s.table t).isSome ∧ s = s' ∨
        s.table t = none ∧ a.refusal? = none ∧ s.setTable t (some .empty) = s') := by
  rw [Gives, create]
  cases a.fault? with
  | some e => simp
  | none =>
      cases s.table t with
      | some x => simp
      | none => cases a.refusal? <;> simp

end Work

namespace Book

def ensureTable (t : Relation) : Work Unit := do
  report (.ensuringTable t.name)
  create t

theorem gives_createTables {u : Unit} :
    Gives createTables a s u s' ↔ a ≠ .closed ∧ Gives (Relation.all.forM ensureTable) a s u s' :=
  gives_transaction

theorem gives_ensureTable {t : Relation} {u : Unit} :
    Gives (ensureTable t) a s u s' ↔ Gives (create t) a s u s' := by
  rw [ensureTable]
  simp only [gives_bind, gives_report]
  constructor
  · rintro ⟨-, s₁, rfl, h⟩
    exact h
  · intro h
    exact ⟨(), s, rfl, h⟩

theorem sparesRows_ensureTable (t : Relation) : SparesRows (ensureTable t) :=
  leavesStore_report.sparesRows.bind fun _ => sparesRows_create t

theorem isSome_table_of_gives {ts : List Relation} {u : Unit}
    (h : Gives (ts.forM ensureTable) a s u s') : ∀ t ∈ ts, (s'.table t).isSome := by
  induction ts generalizing s with
  | nil => simp
  | cons t ts ih =>
      obtain ⟨s₁, ht, hts⟩ := gives_forM_cons.mp h
      have hmade : (s₁.table t).isSome := by
        obtain ⟨-, ⟨hsome, rfl⟩ | ⟨-, -, rfl⟩⟩ := gives_create.mp (gives_ensureTable.mp ht)
        · exact hsome
        · rw [table_setTable_self]
          rfl
      have hkept := SparesRows.forM sparesRows_ensureTable ts a s₁
      rw [hts.2] at hkept
      intro t' ht'
      rcases List.mem_cons.mp ht' with rfl | ht'
      · exact hkept.tables t' hmade
      · exact ih hts t' ht'

theorem complete_of_gives_createTables {u : Unit} (h : Gives createTables a s u s') :
    s'.Complete := by
  intro t
  refine isSome_table_of_gives (gives_createTables.mp h).2 t ?_
  cases t <;> decide

theorem allows_of_gives_createTables {u : Unit} (h : Gives createTables a s u s') :
    a.fault? = none ∧ (s = .bare → a.refusal? = none) := by
  obtain ⟨s₁, huser, -⟩ := gives_forM_cons.mp (gives_createTables.mp h).2
  obtain ⟨ha, ⟨hsome, -⟩ | ⟨-, hrefusal, -⟩⟩ := gives_create.mp (gives_ensureTable.mp huser)
  · refine ⟨ha, ?_⟩
    rintro rfl
    cases hsome
  · exact ⟨ha, fun _ => hrefusal⟩

theorem gives_createTables_of_complete (ha : a.fault? = none) (hs : s.Complete) :
    Gives createTables a s () s := by
  have hopen : a ≠ .closed := by
    rintro rfl
    cases ha
  have hforM (ts : List Relation) : Gives (ts.forM ensureTable) a s () s := by
    induction ts with
    | nil => exact gives_forM_nil.mpr rfl
    | cons t ts ih =>
        have ht : Gives (create t) a s () s := gives_create.mpr ⟨ha, .inl ⟨hs t, rfl⟩⟩
        exact gives_forM_cons.mpr ⟨s, gives_ensureTable.mpr ht, ih⟩
  exact gives_createTables.mpr ⟨hopen, hforM _⟩

theorem keeps_complete_reopening : Keeps Complete reopening :=
  sparesRows_reopening.keeps_complete

end Book

theorem Request.keeps_complete (r : Request) : Keeps Complete r.run :=
  fun a s hs => (Move.effect_request a r s).complete hs

namespace Task

def dropsTable : Task → Bool
  | dropTable _ => true
  | _ => false

theorem keeps_complete {t : Task} (h : t.dropsTable = false) : Keeps Complete t.run := by
  cases t with
  | userId | findUser | passwordOf | isRegistered => exact leavesStore_read.keeps.map
  | userCount | questionCount | catalogueSize | gradeCount =>
      exact (leavesStore_read.keeps.bind fun _ => leavesStore_pure.keeps).map
  | insertUser | setCredentials | rename | insertExercise | insertSubmission | putSubmission
  | insertRow => exact keeps_write.map
  | clearGrades | updateRows | deleteRows =>
      exact (keeps_write.bind fun _ => leavesStore_pure.keeps).map
  | addQuestions | addGrades => exact (Keeps.forM (fun _ => keeps_write) _).map
  | enrolUser u password =>
      refine Keeps.map (leavesStore_read.keeps.bind ?_)
      rintro (_ | id)
      · exact keeps_write
      · exact keeps_write.bind fun _ => leavesStore_pure.keeps
  | identifyUser u =>
      refine Keeps.map (leavesStore_read.keeps.bind ?_)
      rintro (_ | id)
      · exact keeps_write
      · exact keeps_write.bind fun _ => leavesStore_pure.keeps
  | allExercises =>
      exact Keeps.map (leavesStore_read.keeps.bind fun _ => leavesStore_read.keeps.bind fun _ =>
        leavesStore_ofExcept.keeps)
  | dump =>
      refine Keeps.map (LeavesStore.keeps ?_)
      intro a s
      cases a <;> rfl
  | addIndex | addGuard | removeGuard => exact (sparesRows_of_isRefusal rfl).keeps_complete
  | dropTable => cases h

theorem keeps_complete_runAlone {t : Task} (h : t.dropsTable = false) :
    Keeps Complete t.runAlone :=
  leavesStore_connected.keeps.bind fun _ => keeps_complete h

theorem keeps_complete_runAll {tasks : List Task} (h : ∀ t ∈ tasks, t.dropsTable = false)
    (commit : Bool) : Keeps Complete (runAll tasks commit) := by
  have hresults : Keeps Complete (Answer.many <$> tasks.mapM fun t => t.run.attempt) :=
    (Keeps.mapM fun t ht => (keeps_complete (h t ht)).attempt).map
  refine leavesStore_connected.keeps.bind fun _ => ?_
  dsimp only
  split
  · exact hresults
  · exact keeps_undone _

end Task

end Markbook
