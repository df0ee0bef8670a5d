import Markbook.Proofs.Standing

namespace Markbook

open Store Work

namespace Work

variable {α β : Type} {a : Access} {s s₁ : Store} {w : Work α} {f : α → Work β}

def Silent (w : Work α) : Prop :=
  ∀ a s, (w a s).log = []

theorem log_bind_of_gives {x : α} (h : Gives w a s x s₁) :
    ((w >>= f) a s).log = (w a s).log ++ (f x a s₁).log := by
  obtain ⟨hx, rfl⟩ := h
  change (andThen w f a s).log = _
  rw [andThen]
  generalize w a s = o at hx ⊢
  rcases o with ⟨result, s₁, log⟩
  subst hx
  rfl

theorem log_bind_of_error {e : Fault} (h : (w a s).result = .error e) :
    ((w >>= f) a s).log = (w a s).log := by
  change (andThen w f a s).log = _
  rw [andThen]
  generalize w a s = o at h ⊢
  rcases o with ⟨result, s₁, log⟩
  subst h
  rfl

theorem silent_pure {x : α} : Silent (pure x) := fun _ _ => rfl

theorem silent_ofExcept {r : Except Fault α} : Silent (ofExcept r) := by
  intro a s
  cases r <;> rfl

theorem silent_connected : Silent connected := by
  intro a s
  by_cases h : a = .closed <;> simp [connected, h]

theorem silent_read {f : Store → Except StoreError α} : Silent (read f) := by
  intro a s
  rw [read]
  cases a.fault? <;> rfl

theorem silent_write {t : Relation} {f : Table t.Row → Except StoreError (α × Table t.Row)} :
    Silent (write t f) := by
  intro a s
  rw [write]
  split
  · rfl
  · rfl
  · rfl
  · split <;> rfl

theorem Silent.bind (hw : Silent w) (hf : ∀ x, Silent (f x)) : Silent (w >>= f) := by
  intro a s
  cases h : (w a s).result with
  | ok x => rw [log_bind_of_gives ⟨h, rfl⟩, hw, hf, List.append_nil]
  | error e => rw [log_bind_of_error h, hw]

theorem Silent.forM {ι : Type} {f : ι → Work Unit} (hf : ∀ x, Silent (f x)) (xs : List ι) :
    Silent (xs.forM f) := by
  induction xs with
  | nil => exact silent_pure
  | cons x xs ih => exact (hf x).bind fun _ => ih

theorem Silent.atomically (hw : Silent w) : Silent (atomically w) := by
  intro a s
  rw [Work.atomically]
  split <;> exact hw a s

theorem Silent.transaction (hw : Silent w) : Silent (transaction w) :=
  silent_connected.bind fun _ => hw.atomically

end Work

theorem Users.silent_identify (u : User) : Silent (identify u) := by
  refine silent_read.bind fun found => ?_
  cases found with
  | none => exact silent_write
  | some id => exact silent_write.bind fun _ => silent_pure

namespace Book

variable {a : Access} {s s' : Store} {x y : Submission}

theorem silent_record (x : Submission) : Silent (record x) := by
  have hgrading (user id : Int) : Silent (do
      let replaced ← Submissions.clearGrades id
      Submissions.addGrades id x.grades
      return (⟨user, id, replaced⟩ : Stored)) :=
    silent_write.bind fun _ => (Silent.forM (fun _ => silent_write) _).bind fun _ => silent_pure
  refine (Users.silent_identify x.user).bind fun user => ?_
  dsimp only
  split
  · exact silent_write.bind fun _ => hgrading user x.id
  · exact silent_write.bind fun id => hgrading user id

def storedReport (x : Submission) (id : Int) (replaced : Nat) : Event :=
  if 0 < replaced then .regraded id replaced
  else .storedSubmission id x.user.username x.exercise.id

theorem log_of_gives_submit (h : Gives (submit x) a s y s') :
    (submit x a s).log = [storedReport x y.id
      ((s.rows .grade).filter (Submissions.belongsTo y.id)).length] := by
  rw [submit_eq] at h ⊢
  obtain ⟨_, _, hgrades, h⟩ := gives_bind.mp h
  rw [log_bind_of_gives hgrades, silent_ofExcept, List.nil_append]
  obtain ⟨-, rfl⟩ := gives_ofExcept.mp hgrades
  obtain ⟨_, _, hname, h⟩ := gives_bind.mp h
  rw [log_bind_of_gives hname, silent_ofExcept, List.nil_append]
  obtain ⟨-, rfl⟩ := gives_ofExcept.mp hname
  obtain ⟨r, s₁, hrecord, h⟩ := gives_bind.mp h
  rw [log_bind_of_gives hrecord, (silent_record x).transaction, List.nil_append]
  obtain ⟨users, hr⟩ := recorded_of_gives (gives_transaction.mp hrecord).2
  dsimp only at h ⊢
  rw [storedReport]
  split at h
  next hpos =>
      obtain ⟨_, s₂, -, h⟩ := gives_bind.mp h
      obtain ⟨rfl, -⟩ := gives_pure.mp h
      rw [if_pos hpos, if_pos (hr.replaced_eq ▸ hpos), ← hr.replaced_eq]
      rfl
  next hzero =>
      obtain ⟨_, s₂, -, h⟩ := gives_bind.mp h
      obtain ⟨rfl, -⟩ := gives_pure.mp h
      rw [if_neg hzero, if_neg (hr.replaced_eq ▸ hzero)]
      rfl

end Book

namespace History

variable {h : History} {a : Access}

def gradesInForce (h : History) (id : Int) : Nat :=
  ((h.current? id).map (·.grades.length)).getD 0

theorem length_grades (h : History) (id : Int) :
    ((h.store.rows .grade).filter (Submissions.belongsTo id)).length = h.gradesInForce id := by
  rw [gradesInForce]
  cases hx : h.current? id with
  | some x =>
      obtain ⟨k, hk⟩ := h.holds_of_current? hx
      rw [hk.grades]
      simp [numbered]
  | none =>
      have hnone : (h.store.rows .grade).filter (Submissions.belongsTo id) = [] := by
        rw [List.filter_eq_nil_iff]
        intro g hg hid
        obtain ⟨r, hr, hsubmission⟩ := h.integrity_store.gradeSubmission g hg
        obtain ⟨x, hcurrent⟩ := h.exists_current? hr
        have hrid : r.id = id := by simpa [Submissions.belongsTo, hsubmission] using hid
        rw [hrid, hx] at hcurrent
        cases hcurrent
      rw [hnone]
      rfl

theorem gives_gradeCount (ha : a.fault? = none) (id : Int) :
    Gives (Book.gradeCount id) a h.store (h.gradesInForce id) h.store := by
  obtain ⟨grades, hgrades⟩ := Option.isSome_iff_exists.mp (h.complete_store .grade)
  refine gives_read.mpr ⟨ha, ?_, rfl⟩
  rw [require_eq_ok.mpr hgrades, ← length_grades, rows_of_table hgrades]
  rfl

/-- The grades that are counted for an id are those of the submission that was last stored under it.
Whoever stores a submission under the id is told how many of them it replaces, if there are any, and
else what was stored. -/
theorem gradeCount_and_report (h : History) (id : Int) :
    (∀ a : Access, a.fault? = none →
      (Book.gradeCount id a h.store).result = .ok (h.gradesInForce id)) ∧
    ∀ (a : Access) (x y : Submission), (Book.submit x a h.store).result = .ok y → y.id = id →
      (Book.submit x a h.store).log.map (fun e => (e.level, e.message)) =
        [(.info, if 0 < h.gradesInForce id then
            "Regraded submission " ++ toString id ++ " (" ++ toString (h.gradesInForce id) ++
              " grades replaced)"
          else "Stored submission " ++ toString id ++ " of " ++ x.user.username ++
            " for exercise " ++ toString x.exercise.id)] := by
  refine ⟨fun a ha => (gives_gradeCount ha id).1, ?_⟩
  rintro a x y hy rfl
  rw [Book.log_of_gives_submit ⟨hy, rfl⟩, length_grades, List.map_singleton, Book.storedReport]
  split <;> rfl

def ungraded : Submission :=
  ⟨1, ann, { sums with questions := [] }, .inFirstHour 90 0, []⟩

def clearedAnew : History :=
  gradedAnew.next (.request .readWrite (.submit ungraded))

/-- The grades of the first submission are replaced by none. Then there is nothing to replace,
though the submission is there. -/
theorem gradeCount_and_report_clearedAnew :
    (Book.gradeCount 1 .readWrite gradedAnew.store).result = .ok 2 ∧
      (Book.submit ungraded .readWrite gradedAnew.store).log.map Event.message =
        ["Regraded submission 1 (2 grades replaced)"] ∧
      (Book.gradeCount 1 .readWrite clearedAnew.store).result = .ok 0 ∧
      (Book.submit ungraded .readWrite clearedAnew.store).log.map Event.message =
        ["Stored submission 1 of ann for exercise 7"] := by
  have hfirst := gradedAnew.gradeCount_and_report 1
  have hthen := clearedAnew.gradeCount_and_report 1
  rw [show gradedAnew.gradesInForce 1 = 2 by decide +kernel] at hfirst
  rw [show clearedAnew.gradesInForce 1 = 0 by decide +kernel] at hthen
  obtain ⟨y, hy, hid⟩ : ∃ y, (Book.submit ungraded .readWrite gradedAnew.store).result = .ok y ∧
      y.id = 1 := exists_ok_of_map (by decide +kernel)
  obtain ⟨z, hz, hid'⟩ : ∃ z, (Book.submit ungraded .readWrite clearedAnew.store).result = .ok z ∧
      z.id = 1 := exists_ok_of_map (by decide +kernel)
  have hreport := congrArg (List.map Prod.snd) (hfirst.2 .readWrite ungraded y hy hid)
  have hreport' := congrArg (List.map Prod.snd) (hthen.2 .readWrite ungraded z hz hid')
  rw [List.map_map] at hreport hreport'
  exact ⟨hfirst.1 .readWrite rfl, hreport, hthen.1 .readWrite rfl, hreport'⟩

end History

end Markbook
