import Markbook.Book
import Markbook.Proofs.Execution
import Markbook.Proofs.Rows
import Markbook.Task

namespace Markbook

open Store Work

namespace Store

/-- `s'` has the rows of `s`, and all of its tables. -/
structure SameRows (s s' : Store) : Prop where
  rows : ∀ t, s'.rows t = s.rows t
  tables : ∀ t, (s.table t).isSome → (s'.table t).isSome

variable {s s' s₁ : Store}

theorem SameRows.refl (s : Store) : SameRows s s :=
  ⟨fun _ => rfl, fun _ h => h⟩

theorem SameRows.trans (h : SameRows s s₁) (h' : SameRows s₁ s') : SameRows s s' :=
  ⟨fun t => (h'.rows t).trans (h.rows t), fun t ht => h'.tables t (h.tables t ht)⟩

theorem sameRows_setTable {t : Relation} {x : Table t.Row} (h : x.rows = s.rows t) :
    SameRows s (s.setTable t (some x)) := by
  constructor
  · intro u
    by_cases hu : u = t
    · subst u
      rw [rows_of_table (table_setTable_self s t (some x)), h]
    · rw [rows, table_setTable_of_ne s hu, rows]
  · intro u hu
    by_cases hut : u = t
    · subst u
      rw [table_setTable_self]
      rfl
    · rwa [table_setTable_of_ne s hut]

end Store

namespace Work

variable {α β : Type}

def SparesRows (w : Work α) : Prop :=
  ∀ a s, SameRows s (w a s).store

theorem LeavesStore.sparesRows {w : Work α} (h : LeavesStore w) : SparesRows w := by
  intro a s
  rw [h a s]
  exact .refl s

theorem SparesRows.bind {w : Work α} {f : α → Work β} (hw : SparesRows w)
    (hf : ∀ x, SparesRows (f x)) : SparesRows (w >>= f) := by
  intro a s
  cases h : (w a s).result with
  | ok x =>
      rw [(bind_of_gives ⟨h, rfl⟩).2]
      exact (hw a s).trans (hf x a _)
  | error e =>
      rw [(bind_of_error h).2]
      exact hw a s

theorem SparesRows.map {w : Work α} {f : α → β} (hw : SparesRows w) : SparesRows (f <$> w) :=
  hw.bind fun _ => leavesStore_pure.sparesRows

theorem SparesRows.forM {ι : Type} {f : ι → Work Unit} (hf : ∀ x, SparesRows (f x)) (xs : List ι) :
    SparesRows (xs.forM f) := by
  induction xs with
  | nil => exact leavesStore_pure.sparesRows
  | cons x xs ih => exact (hf x).bind fun _ => ih

theorem SparesRows.transaction {w : Work α} (hw : SparesRows w) :
    SparesRows (Work.transaction w) := by
  intro a s
  cases h : (Work.transaction w a s).result with
  | ok x =>
      obtain ⟨-, hg⟩ := (gives_transaction.mp ⟨h, rfl⟩).2
      rw [← hg]
      exact hw a s
  | error e =>
      rw [restores_transaction w a s e h]
      exact .refl s

theorem sparesRows_write {t : Relation} {f : Table t.Row → Except StoreError (α × Table t.Row)}
    (hf : ∀ x y x', f x = .ok (y, x') → x'.rows = x.rows) : SparesRows (write t f) := by
  intro a s
  cases h : (write t f a s).result with
  | ok y =>
      obtain ⟨-, -, x, x', hx, hfx, hs⟩ := gives_write.mp ⟨h, rfl⟩
      rw [← hs]
      exact sameRows_setTable ((hf x y x' hfx).trans (rows_of_table hx).symm)
  | error e =>
      rw [restores_write a s e h]
      exact .refl s

theorem sparesRows_create (t : Relation) : SparesRows (create t) := by
  intro a s
  rw [create]
  split
  · exact .refl s
  · exact .refl s
  · exact .refl s
  next ht _ => exact sameRows_setTable (by simp [rows, ht, Table.empty])

end Work

theorem Book.sparesRows_createTables : SparesRows createTables :=
  SparesRows.transaction <| SparesRows.forM (fun t =>
    leavesStore_report.sparesRows.bind fun _ => sparesRows_create t) _

def Book.reopening : Work Answer := do
  createTables
  return .done

theorem Book.sparesRows_reopening : SparesRows reopening :=
  sparesRows_createTables.bind fun _ => leavesStore_pure.sparesRows

namespace Task

def isRefusal : Task → Bool
  | addIndex .. | addGuard .. | removeGuard .. => true
  | _ => false

theorem sparesRows_of_isRefusal {t : Task} (h : t.isRefusal) : SparesRows t.run := by
  cases t with
  | addIndex t column =>
      refine SparesRows.map (leavesStore_read.sparesRows.bind fun _ =>
        leavesStore_read.sparesRows.bind fun _ => sparesRows_write ?_)
      intro x y x' hx
      split at hx
      · cases hx
      · split at hx <;> cases hx
        rfl
  | addGuard t change reason only =>
      refine SparesRows.map (leavesStore_read.sparesRows.bind fun _ =>
        leavesStore_read.sparesRows.bind fun _ => sparesRows_write ?_)
      intro x y x' hx
      simp only [bind_eq_ok, pure_eq_ok, Prod.mk.injEq] at hx
      obtain ⟨_, -, -, rfl⟩ := hx
      rfl
  | removeGuard t change =>
      refine SparesRows.map (leavesStore_read.sparesRows.bind fun _ => sparesRows_write ?_)
      intro x y x' hx
      cases hx
      rfl
  | _ => cases h

end Task

end Markbook
