import Markbook.Proofs.Acceptance
import Markbook.Proofs.Grades
import Markbook.Proofs.Lockstep
import Mathlib.Data.List.Pairwise

namespace Markbook

open Store Work

namespace Store

def KeysUnique (s : Store) : Prop :=
  ∀ t, (s.rows t).Pairwise t.schema.Apart

theorem eq_of_not_apart {ρ : Type} {σ : Schema ρ} {rows : List ρ} {a b : ρ}
    (h : rows.Pairwise σ.Apart) (ha : a ∈ rows) (hb : b ∈ rows) (hab : ¬ σ.Apart a b) : a = b := by
  have hsymm : Std.Symm σ.Apart := ⟨fun _ _ h => h.symm⟩
  by_contra hne
  exact hab (h.forall ha hb hne)

end Store

namespace Users

variable {u : User} {k : Int} {rows rows' : List UserRow}

/-- The users before and after `u` was looked up or made known, with the id that `u` has. -/
inductive Identified (u : User) (k : Int) (rows rows' : List UserRow) : Prop
  | renamed (hknown : ∃ r ∈ rows, r.username = some u.username ∧ r.id = k)
      (hrows : rows' = rows.map fun r => if r.username = some u.username then
        { r with firstname := some u.firstname, lastname := some u.lastname } else r)
  | added (hname : ∀ r ∈ rows, r.username ≠ some u.username) (hnew : ∀ r ∈ rows, r.id ≠ k)
      (hrows : rows' =
        rows ++ [⟨k, some u.username, some u.firstname, some u.lastname, none⟩])

theorem id_eq_iff_username_eq (h : rows.Pairwise Relation.userSchema.Apart) {r x : UserRow}
    (hr : r ∈ rows) (hname : r.username = some u.username) (hx : x ∈ rows) :
    x.id = r.id ↔ x.username = some u.username := by
  have heq (hkey : x.id = r.id ∨ x.username = some u.username) : x = r := by
    refine eq_of_not_apart h hx hr ?_
    rw [apart_user]
    rintro ⟨hid, husername⟩
    rcases hkey with hkey | hkey
    · exact hid hkey
    · exact husername (by simp [hkey]) (hkey.trans hname.symm)
  constructor
  · intro hid
    rw [heq (.inl hid), hname]
  · intro husername
    rw [heq (.inr husername)]

theorem Settled.identified (h : Settled u id rows k rows')
    (hrows : rows.Pairwise Relation.userSchema.Apart) : Identified u k rows rows' := by
  cases h with
  | known r hr =>
      have hmem := List.mem_of_find?_eq_some hr
      have hname := hasUsername_iff.mp (List.find?_some hr)
      refine .renamed ⟨r, hmem, hname, rfl⟩ ?_
      -- A user is found by name and renamed by id, which comes to the same where keys are unique.
      apply List.map_congr_left
      intro x hx
      have hiff := id_eq_iff_username_eq hrows hmem hname hx
      by_cases hid : x.id = r.id
      · rw [if_pos (hiff.mp hid), if_pos (by simpa using hid)]
        rfl
      · rw [if_neg (mt hiff.mpr hid), if_neg (by simpa using hid)]
  | new hr =>
      refine .added ?_ ?_ rfl
      · intro r hmem hname
        exact List.find?_eq_none.mp hr r hmem (hasUsername_iff.mpr hname)
      · intro r hmem
        exact (lt_nextAfter (List.mem_map_of_mem (f := (·.id)) hmem)).ne

end Users

namespace Book

variable {x : Submission} {r : Stored} {users : List UserRow} {s s' : Store}

/-- All that is different once `x` is stored under the id `i`, by the user with the id `k`. -/
structure Filed (x : Submission) (i k : Int) (s s' : Store) : Prop where
  ownId : x.id ≠ noId → i = x.id
  newId : x.id = noId → ∀ r ∈ s.rows .submission, r.id ≠ i
  submissions : s'.rows .submission =
    Submissions.setRow ⟨i, .int k, .int x.exercise.id,
      .int (x.time.second * 1000 + (x.time.nano / 1000000 : Nat))⟩ (s.rows .submission)
  grades : s'.rows .grade = (s.rows .grade).filter (fun g => !g.submission.same (.int i)) ++
    x.grades.mapIdx fun n g => ⟨.int i, .int (n + 1), ((keptGrade? g).map Cell.real).getD .null⟩
  users : Users.Identified x.user k (s.rows .user) (s'.rows .user)
  others : ∀ t, t ≠ .user → t ≠ .submission → t ≠ .grade → s'.table t = s.table t
  frame : ∀ t, s'.frame t = s.frame t

theorem Recorded.filed (h : Recorded x r users s s')
    (hs : (s.rows .user).Pairwise Relation.userSchema.Apart) :
    Filed x r.submission r.user s s' where
  ownId hx := h.id_of_isStored (by simpa [Submission.isStored] using hx)
  newId hx := by
    have hnot : ¬ x.isStored := by simp [Submission.isStored, hx]
    intro q hq
    rw [h.id_eq, if_neg hnot]
    exact (lt_nextAfter (List.mem_map_of_mem (f := (·.id)) hq)).ne
  submissions := h.rows_submission
  grades := by
    rw [h.rows_grade, Submissions.regraded, map_numbered]
    simp only [Submissions.gradeRowOf, ofReal_eq]
    rfl
  users := by
    rw [h.rows_user]
    exact h.settled.identified hs
  others t hu hsubmission hg := by
    rw [h.store_eq, table_withRows_of_ne hg, table_withRows_of_ne hsubmission,
      table_withRows_of_ne hu]
  frame t := by rw [h.store_eq, frame_withRows, frame_withRows, frame_withRows]

/-- Whatever rows a store holds, a submission that is stored changes what `Filed` says, and the
caller's value gets both ids and nothing else. Where nothing but keys can be in the way, it is
stored. -/
theorem submit_filed (s : Store) (hs : s.KeysUnique) (x : Submission) :
    (∀ a y s', Gives (submit x) a s y s' →
      ∃ i k, y = { x with id := i, user := { x.user with id := k } } ∧
        submitting.left x a s = y ∧ Filed x i k s s') ∧
    (s.Complete → s.Lenient → x.user.username ≠ "" → x.grades.length = x.exercise.size →
      ∃ y s', Gives (submit x) .readWrite s y s') := by
  constructor
  · intro a y s' h
    obtain ⟨-, -, r, users, hr, rfl⟩ := submitted_of_gives h
    exact ⟨r.submission, r.user, rfl, Lent.left_of_ok h.1, hr.filed (hs .user)⟩
  · intro hc hl hname hgrades
    exact exists_gives_submit hl (hs .user) (nodup_submissionIds.mpr (hs .submission)) hc hname
      hgrades

/-- A submission of a user who is missing, and grades that are there before their submission is. -/
def unswept : Store :=
  let users : List UserRow :=
    [⟨-2, none, none, none, none⟩, ⟨4, some "bob", some "Bob", none, some "secret"⟩]
  let submissions : List SubmissionRow := [⟨8, .int 77, .int 7, .int 5⟩, ⟨3, .int 4, .int 9, .null⟩]
  let grades : List GradeRow :=
    [⟨.int 9, .int 1, .real 2⟩, ⟨.int 3, .int 1, .real 1⟩, ⟨.int 9, .int 6, .null⟩,
      ⟨.null, .null, .null⟩]
  ((Store.fresh.withRows .user users).withRows .submission submissions).withRows .grade grades

def halfGraded : Submission :=
  { Request.twoGrades with time := .inFirstHour 60 1500000, grades := [0.5, 0.0 / 0.0] }

/-- The new id is one that grades were left over under. -/
theorem submit_filed_unswept :
    unswept.KeysUnique ∧ ∃ s', Filed halfGraded 9 5 unswept s' ∧
      s'.rows .submission = [⟨8, .int 77, .int 7, .int 5⟩, ⟨3, .int 4, .int 9, .null⟩,
        ⟨9, .int 5, .int 7, .int 60001⟩] ∧
      s'.rows .grade = [⟨.int 3, .int 1, .real 1⟩, ⟨.null, .null, .null⟩,
        ⟨.int 9, .int 1, .real 0.5⟩, ⟨.int 9, .int 2, .null⟩] := by
  have hs : unswept.KeysUnique := by
    intro t
    cases t <;> decide +kernel
  obtain ⟨heffect, hstored⟩ := submit_filed unswept hs halfGraded
  have hlenient : unswept.Lenient := ((lenient_fresh.withRows _ _).withRows _ _).withRows _ _
  have hcomplete : unswept.Complete := by
    intro t
    cases t <;> rfl
  obtain ⟨y, s', h⟩ := hstored hcomplete hlenient (by decide) rfl
  obtain ⟨i, k, rfl, -, hfiled⟩ := heffect .readWrite y s' h
  have hids : (submit halfGraded .readWrite unswept).result.toOption.map
      (fun y => (y.id, y.user.id)) = some (9, 5) := by decide +kernel
  rw [h.1] at hids
  obtain ⟨rfl, rfl⟩ := Prod.mk.inj (Option.some.inj hids)
  have hhalf : keptGrade? 0.5 = some 0.5 := by
    rw [keptGrade?, if_neg (by decide +kernel), if_neg (by decide +kernel)]
  have hnan : keptGrade? (0.0 / 0.0) = none := by
    rw [keptGrade?, if_pos (by decide +kernel)]
  refine ⟨hs, s', hfiled, ?_, ?_⟩
  · rw [hfiled.submissions]
    rfl
  · rw [hfiled.grades, halfGraded]
    simp only [List.mapIdx_cons, List.mapIdx_nil, hhalf, hnan]
    rfl

end Book

end Markbook
