import Markbook.Book

namespace Markbook

namespace Lent

variable {σ α β : Type} {w : Work α} {f : α → Lent σ β} {v v' : σ}

theorem returning_work_bind (w : Work α) (f : α → Lent σ β) (v : σ) :
    (work w >>= f).returning v = w >>= fun x => (f x).returning v := by
  funext a s
  change returning (andThen (work w) f) v a s = Work.andThen w (fun x => (f x).returning v) a s
  rw [returning, andThen, work, Work.andThen]
  rcases w a s with ⟨_ | x, s', log⟩
  · rfl
  · rfl

theorem returning_value_bind (f : σ → Lent σ β) (v : σ) :
    (value >>= f).returning v = (f v).returning v := rfl

theorem returning_assign_bind (f : Unit → Lent σ β) (v v' : σ) :
    (assign v' >>= f).returning v = (f ()).returning v' := rfl

theorem returning_pure (x : α) (v : σ) : (pure x : Lent σ α).returning v = pure v := rfl

/-- Where the work fails, the value comes back as it was lent. -/
def Spares (w : Lent σ α) (v : σ) : Prop :=
  ∀ a s e, (w v a s).1.result = .error e → w.left v a s = v

theorem spares_work_bind (h : ∀ x, (f x).Spares v) : (work w >>= f).Spares v := by
  intro a s e he
  change (andThen (work w) f v a s).1.result = .error e at he
  change (andThen (work w) f v a s).2 = v
  rw [andThen, work] at he ⊢
  generalize w a s = o at he ⊢
  rcases o with ⟨_ | x, s', log⟩
  · rfl
  · exact h x a s' e he

theorem spares_value_bind {f : σ → Lent σ β} (h : (f v).Spares v) : (value >>= f).Spares v := h

theorem spares_assign_pure (v' : σ) (x : α) :
    (do
      assign v'
      return x : Lent σ α).Spares v := by
  intro a s e he
  cases he

theorem left_of_error {w : Lent σ α} (h : w.Spares v) {a : Access} {s : Store} {e : Fault}
    (he : (w.returning v a s).result = .error e) : w.left v a s = v := by
  have he : (w v a s).1.result.map (fun _ => (w v a s).2) = .error e := he
  cases hr : (w v a s).1.result with
  | error e' => exact h a s e' hr
  | ok x =>
      rw [hr] at he
      cases he

theorem left_of_ok {w : Lent σ α} {a : Access} {s : Store}
    (h : (w.returning v a s).result = .ok v') : w.left v a s = v' := by
  have h : (w v a s).1.result.map (fun _ => (w v a s).2) = .ok v' := h
  cases hr : (w v a s).1.result with
  | error e =>
      rw [hr] at h
      cases h
  | ok x =>
      rw [hr] at h
      exact Except.ok.inj h

end Lent

namespace Book

open Lent

theorem storeUser_eq (u : User) (password : String) :
    storeUser u password = (do
      .ofExcept (checkName u)
      let id ← .transaction (Users.enrol u password)
      .report (.storedUser u.username id)
      return { u with id }) := by
  rw [storeUser, storing, returning_value_bind]
  simp only [returning_work_bind, returning_assign_bind, returning_pure]

theorem spares_storing (password : String) (u : User) : (storing password).Spares u :=
  spares_value_bind <| spares_work_bind fun _ => spares_work_bind fun _ => spares_work_bind fun _ =>
    spares_assign_pure _ _

theorem submit_eq (x : Submission) :
    submit x = (do
      .ofExcept x.checkGrades
      .ofExcept (checkName x.user)
      let stored ← .transaction (record x)
      if stored.replaced > 0 then
        .report (.regraded stored.submission stored.replaced)
      else
        .report (.storedSubmission stored.submission x.user.username x.exercise.id)
      return { x with id := stored.submission, user := { x.user with id := stored.user } }) := by
  rw [submit, submitting, returning_value_bind]
  simp only [returning_work_bind, returning_assign_bind, returning_pure]
  refine bind_congr fun _ => bind_congr fun _ => bind_congr fun stored => ?_
  split <;> rfl

theorem spares_submitting (x : Submission) : submitting.Spares x :=
  spares_value_bind <| spares_work_bind fun _ => spares_work_bind fun _ => spares_work_bind fun _ =>
    spares_work_bind fun _ => spares_assign_pure _ _

end Book

end Markbook
