import Markbook.Proofs.Candidates
import Markbook.Proofs.Footprint

namespace Markbook

open Store Work

namespace Store

variable {s : Store} {username : String} {exercise i : Int} {r : SubmissionRow}

/-- The store without the submission that has the id, and without its grades. -/
def without (s : Store) (i : Int) : Store :=
  (s.withRows .submission ((s.rows .submission).filter (·.id != i))).withRows .grade
    ((s.rows .grade).filter (!Submissions.belongsTo i ·))

/-- A submission that refers to a user refers to one who is there. -/
def UsersPresent (s : Store) : Prop :=
  ∀ r ∈ s.rows .submission, ∀ k, r.user.same (.int k) → ∃ u ∈ s.rows .user, u.id = k

theorem rows_without_submission (ht : (s.table .submission).isSome) :
    (s.without i).rows .submission = (s.rows .submission).filter (·.id != i) := by
  rw [without, rows_withRows_of_ne (by decide), rows_withRows_self ht]

theorem rows_without_grade (ht : (s.table .grade).isSome) :
    (s.without i).rows .grade = (s.rows .grade).filter (!Submissions.belongsTo i ·) := by
  rw [without, rows_withRows_self (by rwa [isSome_table_withRows])]

theorem rows_without_user : (s.without i).rows .user = s.rows .user := by
  rw [without, rows_withRows_of_ne (by decide), rows_withRows_of_ne (by decide)]

theorem isCandidate_without (ht : (s.table .submission).isSome) :
    (s.without i).IsCandidate username exercise r ↔
      s.IsCandidate username exercise r ∧ r.id ≠ i := by
  have hrow : r ∈ (s.without i).rows .submission ↔ r ∈ s.rows .submission ∧ r.id ≠ i := by
    rw [rows_without_submission ht]
    simp
  constructor
  · intro h
    have hr := hrow.mp h.row
    exact ⟨⟨hr.1, h.exercise, rows_without_user ▸ h.user⟩, hr.2⟩
  · rintro ⟨h, hne⟩
    exact ⟨hrow.mpr ⟨h.row, hne⟩, h.exercise, rows_without_user.symm ▸ h.user⟩

theorem IdsUnique.without (h : s.IdsUnique) (ht : (s.table .submission).isSome) :
    (s.without i).IdsUnique where
  users := by
    rw [rows_without_user]
    exact h.users
  submissions := by
    rw [rows_without_submission ht]
    exact h.submissions.sublist (List.filter_sublist.map _)

end Store

namespace Submissions

theorem filter_other_grades {i j : Int} (h : j ≠ i) (rows : List GradeRow) :
    (rows.filter (!belongsTo i ·)).filter (belongsTo j) = rows.filter (belongsTo j) := by
  have hregraded := filter_regraded_of_ne h [] rows
  simpa [regraded, numbered] using hregraded

end Submissions

namespace Book

variable {x : Submission} {stored : Stored} {users : List UserRow} {s s' : Store}
  {username : String} {exercise : Int} {r : SubmissionRow}

theorem Recorded.username_eq (h : Recorded x stored users s s')
    (hids : ((s.rows .user).map (·.id)).Nodup) {u : UserRow} (hu : u ∈ s'.rows .user)
    (hid : u.id = stored.user) : u.username = some x.user.username := by
  rw [h.rows_user] at hu
  obtain ⟨v, hv, hidentity⟩ := List.mem_map.mp h.settled.mem_identities
  obtain ⟨hvid, hvname⟩ := Prod.mk.inj hidentity
  obtain rfl : u = v :=
    List.inj_on_of_nodup_map (h.settled.nodup_ids hids) hu hv (hid.trans hvid.symm)
  exact hvname

theorem Recorded.exists_user_iff (h : Recorded x stored users s s') (hs : s.UsersPresent)
    (hr : r ∈ s.rows .submission) :
    (∃ u ∈ s'.rows .user, u.username = some username ∧ r.user.same (.int u.id)) ↔
      ∃ u ∈ s.rows .user, u.username = some username ∧ r.user.same (.int u.id) := by
  rw [Store.exists_user_iff, Store.exists_user_iff, h.rows_user]
  rcases h.settled.identities with ⟨heq, -⟩ | ⟨heq, hnew, -⟩
  · rw [heq]
  · rw [heq]
    constructor
    · rintro ⟨i, hi, hname, huser⟩
      rcases List.mem_append.mp hi with hi | hi
      · exact ⟨i, hi, hname, huser⟩
      · -- A user who is added has an id that no row referred to.
        rw [List.mem_singleton.mp hi] at huser
        obtain ⟨u, hu, hid⟩ := hs r hr _ huser
        exact absurd hid (hnew u hu)
    · rintro ⟨i, hi, hname, huser⟩
      exact ⟨i, List.mem_append_left _ hi, hname, huser⟩

theorem Recorded.isCandidate_iff (h : Recorded x stored users s s')
    (hids : ((s.rows .user).map (·.id)).Nodup) (hs : s.UsersPresent)
    (hne : username ≠ x.user.username ∨ exercise ≠ x.exercise.id) :
    s'.IsCandidate username exercise r ↔
      s.IsCandidate username exercise r ∧ r.id ≠ stored.submission := by
  constructor
  · intro hr
    have hmem := hr.row
    rw [h.rows_submission] at hmem
    rcases Submissions.mem_setRow.mp hmem with rfl | ⟨hold, hid⟩
    · obtain ⟨u, hu, hname, huser⟩ := hr.user
      have hexercise : x.exercise.id = exercise := by simpa using hr.exercise
      have hid : stored.user = u.id := by simpa using huser
      have hown := h.username_eq hids hu hid.symm
      rcases hne with hne | hne
      · exact absurd (Option.some.inj (hname.symm.trans hown)) hne
      · exact absurd hexercise.symm hne
    · exact ⟨⟨hold, hr.exercise, (h.exists_user_iff hs hold).mp hr.user⟩, hid⟩
  · rintro ⟨hr, hid⟩
    refine ⟨?_, hr.exercise, (h.exists_user_iff hs hr.row).mpr hr.user⟩
    rw [h.rows_submission]
    exact Submissions.mem_setRow.mpr (.inr ⟨hr.row, hid⟩)

theorem Recorded.idsUnique (h : Recorded x stored users s s') (hs : s.IdsUnique) :
    s'.IdsUnique where
  users := by
    rw [h.rows_user]
    exact h.settled.nodup_ids hs.users
  submissions := by
    rw [h.rows_submission]
    exact Submissions.nodup_setRow hs.submissions

theorem Recorded.isSome_table (h : Recorded x stored users s s') (t : Relation) :
    (s'.table t).isSome = (s.table t).isSome := by
  rw [h.store_eq, isSome_table_withRows, isSome_table_withRows, isSome_table_withRows]

theorem Recorded.sameFor_without (h : Recorded x stored users s s')
    (hids : ((s.rows .user).map (·.id)).Nodup) (hs : s.UsersPresent)
    (hne : username ≠ x.user.username ∨ exercise ≠ x.exercise.id) :
    SameFor username exercise (s.without stored.submission) s' where
  tables t := by
    rw [h.isSome_table, Store.without, isSome_table_withRows, isSome_table_withRows]
  candidates r := by rw [h.isCandidate_iff hids hs hne, isCandidate_without h.table]
  grades r hr := by
    have hid := ((isCandidate_without h.table).mp hr).2
    rw [h.rows_grade, Submissions.filter_regraded_of_ne hid, rows_without_grade h.gradeTable,
      Submissions.filter_other_grades hid]

theorem Recorded.sameFor (h : Recorded x stored users s s')
    (hids : ((s.rows .user).map (·.id)).Nodup) (hs : s.UsersPresent)
    (hne : username ≠ x.user.username ∨ exercise ≠ x.exercise.id)
    (hother : ∀ r, s.IsCandidate username exercise r → r.id ≠ stored.submission) :
    SameFor username exercise s s' where
  tables := h.isSome_table
  candidates r := by
    rw [h.isCandidate_iff hids hs hne]
    exact and_iff_left_of_imp (hother r)
  grades r hr := by rw [h.rows_grade, Submissions.filter_regraded_of_ne (hother r hr)]

/-- Storing a submission of one user for one exercise does not show in the rankings of any other
user or exercise, unless it takes the place of a row that was theirs. Then they answer as if that
row had been removed. -/
theorem topSubmission_submit_of_ne (s : Store) (hkeys : s.KeysUnique) (hs : s.UsersPresent)
    (a : Access) (x y : Submission) (s' : Store) (h : Gives (submit x) a s y s')
    (u : User) (e : Exercise)
    (hne : u.username ≠ x.user.username ∨ e.id ≠ x.exercise.id) (ranking : Ranking) (b : Access) :
    ((∀ r, s.IsCandidate u.username e.id r → r.id ≠ y.id) →
      (topSubmission ranking u e b s').result = (topSubmission ranking u e b s).result) ∧
    (topSubmission ranking u e b s').result =
      (topSubmission ranking u e b (s.without y.id)).result := by
  obtain ⟨-, -, stored, users, hr, rfl⟩ := submitted_of_gives h
  have hids : s.IdsUnique :=
    ⟨nodup_userIds (hkeys .user), nodup_submissionIds.mpr (hkeys .submission)⟩
  have hids' := hr.idsUnique hids
  constructor
  · intro hother
    exact (hr.sameFor hids.users hs hne hother).result_topSubmission hids hids' b
  · exact (hr.sameFor_without hids.users hs hne).result_topSubmission (hids.without hr.table) hids' b

def contested : Store :=
  let users : List UserRow :=
    [⟨1, some "ann", none, none, none⟩, ⟨2, some "bob", none, none, none⟩]
  let submissions : List SubmissionRow :=
    [⟨3, .int 1, .int 7, .int 100⟩, ⟨5, .int 1, .int 7, .int 200⟩]
  let grades : List GradeRow := [⟨.int 5, .int 1, .real 1⟩, ⟨.int 3, .int 2, .null⟩]
  ((Store.fresh.withRows .user users).withRows .submission submissions).withRows .grade grades

def takeover : Submission :=
  { Request.twoGrades with id := 5, user := ⟨noId, "bob", "Bob", ""⟩ }

def latestId? (s : Store) : Option Int :=
  (topSubmission .latest History.ann History.sums .readWrite s).result.toOption.join.map (·.id)

theorem topSubmission_submit_of_ne_takeover :
    contested.KeysUnique ∧ contested.UsersPresent ∧
      ∃ y s', Gives (submit takeover) .readWrite contested y s' ∧ latestId? contested = some 5 ∧
        latestId? s' = latestId? (contested.without y.id) ∧ latestId? s' = some 3 := by
  have hkeys : contested.KeysUnique := by
    intro t
    cases t <;> decide +kernel
  have hpresent : contested.UsersPresent := by
    intro r hr k hk
    refine ⟨⟨1, some "ann", none, none, none⟩, .head _, ?_⟩
    rcases List.mem_pair.mp hr with rfl | rfl <;> exact eq_of_beq hk
  have hlenient : contested.Lenient := ((lenient_fresh.withRows _ _).withRows _ _).withRows _ _
  have hcomplete : contested.Complete := by
    intro t
    cases t <;> rfl
  obtain ⟨y, s', h⟩ := exists_gives_submit (x := takeover) hlenient (hkeys .user)
    (nodup_submissionIds.mpr (hkeys .submission)) hcomplete (by decide) rfl
  obtain ⟨-, hanswer⟩ := topSubmission_submit_of_ne contested hkeys hpresent .readWrite takeover y s'
    h History.ann History.sums (.inl (by decide)) .latest .readWrite
  have hlatest : latestId? (submit takeover .readWrite contested).store = some 3 := by
    decide +kernel
  rw [h.2] at hlatest
  refine ⟨hkeys, hpresent, y, s', h, by decide +kernel, ?_, hlatest⟩
  rw [latestId?, hanswer, latestId?]

end Book

end Markbook
