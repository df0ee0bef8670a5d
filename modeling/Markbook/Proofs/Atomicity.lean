import Markbook.Proofs.Effects
import Markbook.Proofs.Instants
import Markbook.Task

namespace Markbook.Request

open Store Work

theorem restores_storeUser (u : User) (password : String) :
    Restores (Book.storeUser u password) := by
  rw [Book.storeUser_eq]
  exact .bind_of_leavesStore leavesStore_ofExcept fun _ =>
    (restores_transaction _).bind_of_succeeds fun _ => succeeds_report.bind fun _ => succeeds_pure

theorem restores_register (e : Exercise) : Restores (Book.register e) := by
  refine (restores_transaction _).bind_of_succeeds ?_
  intro registration
  dsimp only
  split
  · exact succeeds_report.bind fun _ => succeeds_pure
  · exact succeeds_pure

theorem restores_submit (x : Submission) : Restores (Book.submit x) := by
  rw [Book.submit_eq]
  refine .bind_of_leavesStore leavesStore_ofExcept fun _ => ?_
  refine .bind_of_leavesStore leavesStore_ofExcept fun _ => ?_
  refine (restores_transaction _).bind_of_succeeds ?_
  intro stored
  dsimp only
  split
  · exact succeeds_report.bind fun _ => succeeds_pure
  · exact succeeds_report.bind fun _ => succeeds_pure

theorem restores_run (r : Request) : Restores r.run := by
  by_cases hq : r.isQuery
  · exact (leavesStore_of_isQuery hq).restores
  · cases r with
    | storeUser u password => exact (restores_storeUser u password).map
    | register e => exact (restores_register e).map
    | submit x => exact (restores_submit x).map
    | _ => exact absurd rfl hq

/-- Whether a result says that nothing was written because something stood in the way. -/
def declines : Except Fault Answer → Bool
  | .error _ => true
  | .ok (.registration .alreadyExists) => true
  | .ok _ => false

/-- What the result tells of the value of the caller is what the call left of it: a value is given
its ids if and only if it was stored. -/
theorem left_eq_after (r : Request) (a : Access) (s : Store) :
    r.left a s = r.after (r.run a s).result := by
  cases r with
  | storeUser u password =>
      have hrun : ((storeUser u password).run a s).result =
          (Book.storeUser u password a s).result.map .storedUser := result_map
      rw [hrun, left]
      cases hr : (Book.storeUser u password a s).result with
      | error e =>
          rw [Lent.left_of_error (Book.spares_storing password u) hr]
          rfl
      | ok v =>
          rw [Lent.left_of_ok hr]
          rfl
  | submit x =>
      have hrun : ((submit x).run a s).result =
          (Book.submit x a s).result.map .storedSubmission := result_map
      rw [hrun, left]
      cases hr : (Book.submit x a s).result with
      | error e =>
          rw [Lent.left_of_error (Book.spares_submitting x) hr]
          rfl
      | ok y =>
          rw [Lent.left_of_ok hr]
          rfl
  | _ => rfl

/-- A declined request leaves all tables as they were, whatever they held, whatever the connection
allows and whichever step failed, and it leaves the value of the caller as it was, with its ids. -/
theorem unchanged_of_declines (r : Request) (a : Access) (s : Store)
    (h : declines (r.run a s).result) :
    (r.run a s).store = s ∧ r.left a s = r ∧ r.after (r.run a s).result = r := by
  have hafter : (r.run a s).store = s ∧ r.after (r.run a s).result = r := by
    cases hr : (r.run a s).result with
    | error e =>
        refine ⟨restores_run r a s e hr, ?_⟩
        cases r <;> rfl
    | ok y =>
        have he := effect_of_gives ⟨hr, rfl⟩
        rw [hr] at h
        generalize (r.run a s).store = s' at he
        cases he with
        | enrolled | registered | submitted => cases h
        | known => exact ⟨rfl, rfl⟩
        | asked hq =>
            refine ⟨rfl, ?_⟩
            cases r <;> first | rfl | cases hq
  exact ⟨hafter.1, (left_eq_after r a s).trans hafter.2, hafter.2⟩

def twoGrades : Submission where
  id := noId
  user := ⟨noId, "ann", "Ann", "Lee"⟩
  exercise :=
    ⟨7, "Sums", .inFirstHour 0 0, [⟨"1 + 1", "", 1⟩, ⟨"1 + 2", "", 2⟩]⟩
  time := .inFirstHour 60 0
  grades := [1.0, 0.5]

def refusingSecond : Store :=
  ((Task.addGuard .grade .insert "no second grade" (some ("QuestionId", .int 2))).run
    .readWrite .fresh).store

/-- When the second grade is refused, a user, a submission and a grade have been written already. -/
theorem unchanged_of_refused_grade :
    ((submit twoGrades).run .readWrite refusingSecond).result =
        .error (.database (.refused "no second grade")) ∧
      Relation.all.map
          (fun t => ((Book.record twoGrades .readWrite refusingSecond).store.rows t).length) =
        [1, 0, 0, 1, 1] ∧
      ((submit twoGrades).run .readWrite refusingSecond).store = refusingSecond ∧
      (submit twoGrades).left .readWrite refusingSecond = submit twoGrades ∧
      (submit twoGrades).after ((submit twoGrades).run .readWrite refusingSecond).result =
        submit twoGrades :=
  ⟨by rfl, by decide +kernel, unchanged_of_declines _ .readWrite refusingSecond (by decide +kernel)⟩

end Markbook.Request
