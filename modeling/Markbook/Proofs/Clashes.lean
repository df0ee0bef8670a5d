import Markbook.Connection
import Markbook.Proofs.Catalogue

namespace Markbook

open Store Work

section

variable {ε α β : Type} {P : ε → Prop} {x : Except ε α}

/-- Every error is one of which `P` holds. -/
def FailsAs (P : ε → Prop) (x : Except ε α) : Prop :=
  ∀ e, x = .error e → P e

theorem failsAs_ok {y : α} : FailsAs P (.ok y) := by
  intro e he
  cases he

theorem failsAs_error {e : ε} (h : P e) : FailsAs P (.error e : Except ε α) := by
  intro e' he
  cases he
  exact h

theorem FailsAs.bind {f : α → Except ε β} (hx : FailsAs P x)
    (hf : ∀ y, x = .ok y → FailsAs P (f y)) : FailsAs P (x >>= f) := by
  cases x with
  | ok y => exact hf y rfl
  | error e => exact failsAs_error (hx e rfl)

theorem FailsAs.mapM {f : α → Except ε β} {xs : List α} (hf : ∀ x ∈ xs, FailsAs P (f x)) :
    FailsAs P (xs.mapM f) := by
  intro e he
  obtain ⟨x, hx, hfx⟩ := exists_of_mapM_eq_error he
  exact hf x hx e hfx

theorem FailsAs.forM {f : α → Except ε Unit} {xs : List α} (hf : ∀ x ∈ xs, FailsAs P (f x)) :
    FailsAs P (xs.forM f) := by
  induction xs with
  | nil => exact failsAs_ok
  | cons x xs ih =>
      exact (hf x List.mem_cons_self).bind fun _ _ =>
        ih fun y hy => hf y (List.mem_cons_of_mem x hy)

theorem FailsAs.mapError {ε' : Type} {Q : ε' → Prop} {g : ε → ε'} (hx : FailsAs P x)
    (hg : ∀ e, P e → Q (g e)) : FailsAs Q (x.mapError g) := by
  cases x with
  | ok y => exact failsAs_ok
  | error e => exact failsAs_error (hg e (hx e rfl))

end

def StoreError.isTaken : StoreError → Bool
  | taken _ => true
  | _ => false

def Fault.isTaken : Fault → Bool
  | alreadyExists _ => true
  | _ => false

namespace Store

variable {s : Store} {t : Relation} {α ρ : Type} {σ : Schema ρ} {x : Table ρ}

end Store

namespace Work

variable {α β : Type} {a : Access} {s : Store}

/-- On this store, the work does not fail because a key is taken. -/
def MeetsNoKey (w : Work α) (a : Access) (s : Store) : Prop :=
  FailsAs (·.isTaken = false) (w a s).result

theorem MeetsNoKey.bind {w : Work α} {f : α → Work β} (hw : w.MeetsNoKey a s)
    (hf : ∀ x s₁, Gives w a s x s₁ → (f x).MeetsNoKey a s₁) : (w >>= f).MeetsNoKey a s := by
  intro e he
  cases h : (w a s).result with
  | ok x => exact hf x _ ⟨h, rfl⟩ e ((bind_of_gives ⟨h, rfl⟩).1.symm.trans he)
  | error e' =>
      rw [(bind_of_error h).1] at he
      exact hw e (h.trans (congrArg _ (Except.error.inj he)))

theorem meetsNoKey_of_succeeds {w : Work α} (h : Succeeds w) : w.MeetsNoKey a s := by
  intro e he
  obtain ⟨x, hx⟩ := h a s
  rw [hx] at he
  cases he

theorem meetsNoKey_pure {x : α} : (pure x : Work α).MeetsNoKey a s :=
  meetsNoKey_of_succeeds succeeds_pure

theorem meetsNoKey_connected : connected.MeetsNoKey a s := by
  rw [MeetsNoKey, connected]
  split
  · exact failsAs_error rfl
  · exact failsAs_ok

theorem MeetsNoKey.map {w : Work α} {f : α → β} (hw : w.MeetsNoKey a s) :
    (f <$> w).MeetsNoKey a s :=
  hw.bind fun _ _ _ => meetsNoKey_pure

theorem MeetsNoKey.atomically {w : Work α} (hw : w.MeetsNoKey a s) :
    (Work.atomically w).MeetsNoKey a s := by
  rw [MeetsNoKey, Work.atomically]
  split <;> exact hw

theorem MeetsNoKey.transaction {w : Work α} (hw : w.MeetsNoKey a s) :
    (Work.transaction w).MeetsNoKey a s := by
  refine meetsNoKey_connected.bind fun _ s₁ hs₁ => ?_
  obtain ⟨-, rfl⟩ := gives_connected.mp hs₁
  exact hw.atomically

end Work

namespace Users

variable {a : Access} {s : Store} {u : User}

end Users

namespace Submissions

variable {a : Access} {s : Store}

end Submissions

namespace Exercises

variable {a : Access} {s : Store}

end Exercises

namespace Book

variable {a : Access} {s : Store}

theorem register_eq_database {e : Exercise} {clash : Clash}
    (hknown : (Exercises.isRegistered e.id a s).result = .ok false)
    (hinsert : (Exercises.insert e a s).result = .ok ())
    (hquestions : (Exercises.addQuestions e.id e.questions a
      (Exercises.insert e a s).store).result = .error (.alreadyExists clash)) :
    (register e a s).result = .error (.database (.taken clash)) := by
  have hfound : Gives (Exercises.isRegistered e.id) a s false s := ⟨hknown, leavesStore_read a s⟩
  have hfault : (mapFault leftOver (Exercises.addQuestions e.id e.questions) a
      (Exercises.insert e a s).store).result = .error (.database (.taken clash)) := by
    rw [mapFault, hquestions]
    rfl
  have henter : (enter e a s).result = .error (.database (.taken clash)) := by
    rw [enter, (bind_of_gives hfound).1]
    exact (bind_of_gives (gives_attempt.mpr ⟨hinsert, rfl⟩)).1.trans (bind_of_error hfault).1
  have hopen : a ≠ .closed := by
    rintro rfl
    cases hknown
  have hunit : (transaction (enter e) a s).result = .error (.database (.taken clash)) := by
    rw [transaction, (bind_of_gives (x := ()) (gives_connected.mpr ⟨hopen, rfl⟩)).1, atomically,
      henter]
  exact (bind_of_error hunit).1

end Book

namespace Connection

end Connection

namespace Request

/-- Nameless users, grades without a submission or without any key, and a question without an
exercise. -/
def leftovers : Store :=
  { Store.fresh with
    users := some ⟨[⟨-2, none, none, none, none⟩, ⟨4, none, none, none, none⟩], [], []⟩
    questions := some ⟨[⟨.int 7, .int 2, none, none, .null⟩], [], []⟩
    grades :=
      some ⟨[⟨.int 1, .int 1, .null⟩, ⟨.null, .null, .null⟩, ⟨.null, .null, .null⟩], [], []⟩ }

end Request

end Markbook
