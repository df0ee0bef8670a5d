import Markbook.Proofs.Integrity
import Markbook.Proofs.Sparing

namespace Markbook

open Store Work

/-- What can be done to a store: a request, another making of its tables when it is opened, and a
choice of what it refuses. -/
inductive Move
  | request (a : Access) (r : Request)
  | reopen (a : Access)
  | refuse (a : Access) (t : Task) (h : t.isRefusal)

namespace Move

def run : Move → Store → Outcome Answer
  | request a r, s => r.run a s
  | reopen a, s => Book.reopening a s
  | refuse a t _, s => t.run a s

def stored? : Move → Except Fault Answer → Option (Int × Submission)
  | request _ (.submit x), .ok (.storedSubmission y) => some (y.id, x)
  | _, _ => none

def enrolled? : Move → Except Fault Answer → Option (String × String)
  | request _ (.storeUser u password), .ok _ => some (u.username, password)
  | _, _ => none

end Move

/-- Moves one after the other, from a fresh store on. -/
inductive History
  | fresh
  | next (h : History) (m : Move)

namespace History

def store : History → Store
  | fresh => .fresh
  | next h m => (m.run h.store).store

def versions : History → List (Int × Submission)
  | fresh => []
  | next h m => (m.stored? (m.run h.store).result).toList ++ h.versions

def enrolments : History → List (String × String)
  | fresh => []
  | next h m => (m.enrolled? (m.run h.store).result).toList ++ h.enrolments

def current? (h : History) (id : Int) : Option Submission :=
  h.versions.lookup id

def lastPassword? (h : History) (username : String) : Option String :=
  h.enrolments.lookup username

end History

/-- All that a move can do to a store, with what it has stored. -/
inductive Move.Effect (s : Store) :
    Option (Int × Submission) → Option (String × String) → Store → Prop
  | sparing {s' : Store} (h : SameRows s s') : Effect s none none s'
  | enrolled {u : User} {password : String} {id : Int} {users : List UserRow} {s' : Store}
      (h : Book.Enrolled u password id users s s') : Effect s none (some (u.username, password)) s'
  | registered {e : Exercise} {s' : Store} (h : Book.Registered e s s') : Effect s none none s'
  | submitted {x : Submission} {r : Book.Stored} {users : List UserRow} {s' : Store}
      (h : Book.Recorded x r users s s') : Effect s (some (r.submission, x)) none s'

namespace Move

theorem effect_request (a : Access) (r : Request) (s : Store) :
    Effect s ((request a r).stored? (r.run a s).result) ((request a r).enrolled? (r.run a s).result)
      (r.run a s).store := by
  cases hr : (r.run a s).result with
  | error e =>
      rw [Request.restores_run r a s e hr]
      cases r <;> exact .sparing (.refl s)
  | ok y =>
      have he := Request.effect_of_gives ⟨hr, rfl⟩
      generalize (r.run a s).store = s' at he
      cases he with
      | enrolled _ h => exact .enrolled h
      | registered h => exact .registered h
      | known => exact .sparing (.refl s)
      | submitted _ _ h => exact .submitted h
      | asked hq => cases r <;> first | exact .sparing (.refl s) | cases hq

theorem effect_run (m : Move) (s : Store) :
    Effect s (m.stored? (m.run s).result) (m.enrolled? (m.run s).result) (m.run s).store := by
  cases m with
  | request a r => exact effect_request a r s
  | reopen a => exact .sparing (Book.sparesRows_reopening a s)
  | refuse a t h => exact .sparing (Task.sparesRows_of_isRefusal h a s)

theorem Effect.complete {s s' : Store} {version : Option (Int × Submission)}
    {enrolment : Option (String × String)} (h : Effect s version enrolment s') (hs : s.Complete) :
    s'.Complete := by
  cases h with
  | sparing h => exact fun t => h.tables t (hs t)
  | enrolled h => exact h.store_eq ▸ hs.withRows _ _
  | registered h => exact h.store_eq ▸ (hs.withRows _ _).withRows _ _
  | submitted h => exact h.store_eq ▸ ((hs.withRows _ _).withRows _ _).withRows _ _

end Move

namespace History

theorem exists_effect_next (h : History) (m : Move) :
    ∃ version enrolment, Move.Effect h.store version enrolment (h.next m).store ∧
      (h.next m).versions = version.toList ++ h.versions ∧
      (h.next m).enrolments = enrolment.toList ++ h.enrolments :=
  ⟨_, _, m.effect_run h.store, rfl, rfl⟩

theorem lookup_push {α β : Type} [DecidableEq α] (x : α × β) (xs : List (α × β)) (k : α) :
    ((some x).toList ++ xs).lookup k = if k = x.1 then some x.2 else xs.lookup k := by
  obtain ⟨j, y⟩ := x
  by_cases hk : k = j
  · simp [hk]
  · simp [List.lookup_cons, hk, beq_eq_false_iff_ne.mpr hk]

theorem complete_store (h : History) : h.store.Complete := by
  induction h with
  | fresh =>
      intro t
      cases t <;> rfl
  | next h m ih => exact (m.effect_run h.store).complete ih

theorem integrity_store (h : History) : h.store.Integrity := by
  induction h with
  | fresh => exact Sound.nil
  | next h m ih =>
      cases m with
      | request a r => exact ih.run r a
      | reopen a => exact ih.of_rows_eq (Book.sparesRows_reopening a h.store).rows
      | refuse a t ht => exact ih.of_rows_eq (Task.sparesRows_of_isRefusal ht a h.store).rows

end History

end Markbook
