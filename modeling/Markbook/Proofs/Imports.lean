import Markbook.Proofs.Candidates
import Markbook.Proofs.Lockstep

namespace Markbook

open Store Work

namespace Submission

variable {x : Submission} {s s' : Store}

def HasKnownUser (x : Submission) (s : Store) : Prop :=
  ∃ u ∈ s.rows .user, u.username = some x.user.username

theorem hasKnownUser_iff : x.HasKnownUser s ↔
    some x.user.username ∈ ((s.rows .user).map Users.account).map (·.2.1) := by
  simp only [HasKnownUser, List.map_map, List.mem_map]
  rfl

theorem HasKnownUser.of_accounts (hx : x.HasKnownUser s)
    (h : (s'.rows .user).map Users.account = (s.rows .user).map Users.account) :
    x.HasKnownUser s' := by
  rw [hasKnownUser_iff, h, ← hasKnownUser_iff]
  exact hx

end Submission

namespace Store

variable {s s' s'' : Store} {x : Submission}

/-- Two stores with the same guards and unique columns, the same accounts, and the same submissions
and grades. The grades of a submission are in the same order. -/
structure Alike (s s' : Store) : Prop where
  frame : ∀ t, s'.frame t = s.frame t
  accounts : (s'.rows .user).map Users.account = (s.rows .user).map Users.account
  submissions : (s.rows .submission).Perm (s'.rows .submission)
  gradeRows : (s.rows .grade).Perm (s'.rows .grade)
  grades : ∀ id, (s'.rows .grade).filter (Submissions.belongsTo id) =
    (s.rows .grade).filter (Submissions.belongsTo id)

theorem Alike.refl (s : Store) : Alike s s :=
  ⟨fun _ => rfl, rfl, .refl _, .refl _, fun _ => rfl⟩

theorem Alike.trans (h : Alike s s') (h' : Alike s' s'') : Alike s s'' where
  frame t := (h'.frame t).trans (h.frame t)
  accounts := h'.accounts.trans h.accounts
  submissions := h.submissions.trans h'.submissions
  gradeRows := h.gradeRows.trans h'.gradeRows
  grades id := (h'.grades id).trans (h.grades id)

theorem Alike.rankAlike (h : Alike s s') : RankAlike s s' where
  tables t := isSome_of_frame (h.frame t)
  identities i := by
    have hidentity (rows : List UserRow) :
        rows.map Users.identity = (rows.map Users.account).map fun x => (x.1, x.2.1) := by
      rw [List.map_map]
      rfl
    rw [hidentity, hidentity, h.accounts]
  submissions := h.submissions
  grades := h.grades

theorem Alike.agreeOn (h : Alike s s') (hs : s.Tidy) (hs' : s'.Tidy) (hx : x.HasKnownUser s) :
    AgreeOn x s s' :=
  ⟨hs, hs', h.frame, hx, h.accounts, h.submissions.symm.any_eq, h.grades x.id⟩

theorem Tidy.idsUnique (h : s.Tidy) : s.IdsUnique :=
  ⟨nodup_userIds h.users.rows, h.submissionIds⟩

theorem Alike.nodup_userIds (h : Alike s s') (hs : s.IdsUnique) :
    ((s'.rows .user).map (·.id)).Nodup := by
  have hids := congrArg (List.map (·.1)) h.accounts
  rw [List.map_map, List.map_map] at hids
  exact hids ▸ hs.users

theorem Keyed.tidy (h : s.Keyed) : s.Tidy :=
  ⟨h .user, h .submission, fun x hx => (h .grade x hx).indexes⟩

end Store

namespace Submissions

theorem any_setRow_of_ne {id : Int} {r : SubmissionRow} {rows : List SubmissionRow}
    (h : id ≠ r.id) : (setRow r rows).any (·.id == id) = rows.any (·.id == id) := by
  rw [Bool.eq_iff_iff]
  simp only [List.any_eq_true, beq_iff_eq, mem_setRow]
  constructor
  · rintro ⟨x, rfl | ⟨hx, -⟩, hid⟩
    · exact absurd hid.symm h
    · exact ⟨x, hx, hid⟩
  · rintro ⟨x, hx, rfl⟩
    exact ⟨x, .inr ⟨hx, h⟩, rfl⟩

theorem setRow_perm {rows rows' : List SubmissionRow} (h : rows.Perm rows') (r : SubmissionRow) :
    (setRow r rows).Perm (setRow r rows') := by
  rw [setRow, setRow, h.any_eq]
  split
  · exact h.map _
  · exact h.append_right _

theorem setRow_comm {r q : SubmissionRow} {rows : List SubmissionRow} (h : r.id ≠ q.id)
    (hn : (rows.map (·.id)).Nodup) :
    (setRow q (setRow r rows)).Perm (setRow r (setRow q rows)) := by
  have hnodup {r q : SubmissionRow} : (setRow q (setRow r rows)).Nodup :=
    .of_map _ (nodup_setRow (nodup_setRow hn))
  refine (List.perm_ext_iff_of_nodup hnodup hnodup).mpr fun z => ?_
  simp only [mem_setRow]
  constructor
  · rintro (rfl | ⟨rfl | ⟨hz, hr⟩, hq⟩)
    · exact .inr ⟨.inl rfl, h.symm⟩
    · exact .inl rfl
    · exact .inr ⟨.inr ⟨hz, hq⟩, hr⟩
  · rintro (rfl | ⟨rfl | ⟨hz, hq⟩, hr⟩)
    · exact .inr ⟨.inl rfl, h⟩
    · exact .inl rfl
    · exact .inr ⟨.inr ⟨hz, hr⟩, hq⟩

theorem filter_gradeRows_of_ne {id other : Int} (h : id ≠ other) (grades : List Float) :
    ((numbered grades).map (gradeRowOf id)).filter (!belongsTo other ·) =
      (numbered grades).map (gradeRowOf id) := by
  have hnone := filter_gradeRows id other grades
  rw [if_neg h.symm, List.filter_eq_nil_iff] at hnone
  rw [List.filter_eq_self]
  intro g hg
  simpa using hnone g hg

theorem regraded_regraded {id other : Int} (h : id ≠ other) (grades grades' : List Float)
    (rows : List GradeRow) :
    regraded other grades' (regraded id grades rows) =
      rows.filter (fun g => !belongsTo other g && !belongsTo id g) ++
        ((numbered grades).map (gradeRowOf id) ++ (numbered grades').map (gradeRowOf other)) := by
  rw [regraded, regraded, List.filter_append, filter_gradeRows_of_ne h, List.filter_filter,
    List.append_assoc]

theorem regraded_comm {id other : Int} (h : id ≠ other) (grades grades' : List Float)
    (rows : List GradeRow) :
    (regraded other grades' (regraded id grades rows)).Perm
      (regraded id grades (regraded other grades' rows)) := by
  rw [regraded_regraded h, regraded_regraded h.symm]
  simp only [Bool.and_comm]
  exact List.perm_append_comm.append_left _

theorem filter_regraded_comm {id other : Int} (h : id ≠ other) (grades grades' : List Float)
    (rows : List GradeRow) (k : Int) :
    (regraded id grades (regraded other grades' rows)).filter (belongsTo k) =
      (regraded other grades' (regraded id grades rows)).filter (belongsTo k) := by
  by_cases hid : k = id
  · subst k
    rw [filter_regraded_self, filter_regraded_of_ne h, filter_regraded_self]
  · rw [filter_regraded_of_ne hid]
    by_cases hother : k = other
    · subst k
      rw [filter_regraded_self, filter_regraded_self]
    · rw [filter_regraded_of_ne hother, filter_regraded_of_ne hother, filter_regraded_of_ne hid]

end Submissions

namespace Book

variable {s s' s₁ s₂ : Store} {x y : Submission} {r q : Stored} {users users' : List UserRow}
  {a : Access}

theorem Recorded.accounts (h : Recorded x r users s s') (hx : x.HasKnownUser s) :
    (s'.rows .user).map Users.account = (s.rows .user).map Users.account := by
  rw [h.rows_user]
  have hsettled := h.settled
  generalize r.user = k at hsettled
  cases hsettled with
  | known u hu => exact Users.map_account_renewed x.user u.id _
  | new hnone =>
      obtain ⟨u, hu, hname⟩ := hx
      exact absurd (Users.hasUsername_iff.mpr hname) (List.find?_eq_none.mp hnone u hu)

theorem Recorded.frame (h : Recorded x r users s s') (t : Relation) : s'.frame t = s.frame t := by
  rw [h.store_eq, frame_withRows, frame_withRows, frame_withRows]

theorem Recorded.tidy (h : Recorded x r users s s') (hx : x.HasKnownUser s) (hs : s.Tidy) :
    s'.Tidy := by
  have hsubmissions := Submissions.nodup_setRow hs.submissionIds
    (r := ⟨r.submission, .int r.user, .int x.exercise.id, .int x.time.toMillis⟩)
  have husers := h.accounts hx
  rw [h.rows_user] at husers
  rw [h.store_eq]
  exact ((hs.withUsers husers).withSubmissions hsubmissions).withGrades _

theorem Recorded.agreeOn (h : Recorded y r users s s') (hy : y.isStored) (hs : s.Tidy)
    (hknown : y.HasKnownUser s) (hx : x.HasKnownUser s) (hne : x.id ≠ y.id) : AgreeOn x s s' where
  tidy := hs
  tidy' := h.tidy hknown hs
  frame := h.frame
  known := hx
  accounts := h.accounts hknown
  submissions := by
    rw [h.rows_submission]
    exact Submissions.any_setRow_of_ne (h.id_of_isStored hy ▸ hne)
  grades := by
    rw [h.rows_grade, h.id_of_isStored hy, Submissions.filter_regraded_of_ne hne]

theorem submit_cases (x : Submission) (a : Access) (s : Store) :
    (∃ e, (submit x a s).result = .error e ∧ (submit x a s).store = s) ∨
      ∃ r users, (submit x a s).result =
          .ok { x with id := r.submission, user := { x.user with id := r.user } } ∧
        Recorded x r users s (submit x a s).store := by
  cases hr : (submit x a s).result with
  | error e => exact .inl ⟨e, rfl, Request.restores_submit x a s e hr⟩
  | ok v =>
      obtain ⟨-, -, r, users, h, rfl⟩ := submitted_of_gives ⟨hr, rfl⟩
      exact .inr ⟨r, users, rfl, h⟩

theorem agreeOn_submit (hs : s.Tidy) (hx : x.HasKnownUser s) (hy : y.HasKnownUser s)
    (hstored : y.isStored) (hne : x.id ≠ y.id) : AgreeOn x s (submit y a s).store := by
  rcases submit_cases y a s with ⟨e, -, hstore⟩ | ⟨r, users, -, h⟩
  · rw [hstore]
    exact (Alike.refl s).agreeOn hs hs hx
  · exact h.agreeOn hstored hs hy hx hne

theorem Recorded.alike (h : Recorded x r users s s₁) (h' : Recorded x q users' s' s₂)
    (halike : Alike s s') (hx : x.HasKnownUser s) (hx' : x.HasKnownUser s')
    (hid : q.submission = r.submission) (huser : q.user = r.user) : Alike s₁ s₂ where
  frame t := by rw [h'.frame, h.frame, halike.frame]
  accounts := by rw [h'.accounts hx', h.accounts hx, halike.accounts]
  submissions := by
    rw [h.rows_submission, h'.rows_submission, hid, huser]
    exact Submissions.setRow_perm halike.submissions _
  gradeRows := by
    rw [h.rows_grade, h'.rows_grade, hid]
    exact (halike.gradeRows.filter _).append_right _
  grades id := by
    rw [h.rows_grade, h'.rows_grade, hid]
    by_cases heq : id = r.submission
    · rw [heq, Submissions.filter_regraded_self, Submissions.filter_regraded_self]
    · rw [Submissions.filter_regraded_of_ne heq, Submissions.filter_regraded_of_ne heq,
        halike.grades]

theorem Recorded.alike_comm {r' q' : Stored} {usersX usersY : List UserRow} {sx sy sxy syx : Store}
    (hx : Recorded x r users s sx) (hxy : Recorded y q usersY sx sxy)
    (hy : Recorded y q' users' s sy) (hyx : Recorded x r' usersX sy syx)
    (hs : s.Tidy) (hknown : x.HasKnownUser s) (hknown' : y.HasKnownUser s)
    (hr : r'.submission = r.submission ∧ r'.user = r.user)
    (hq : q'.submission = q.submission ∧ q'.user = q.user) (hne : r.submission ≠ q.submission) :
    Alike sxy syx where
  frame t := by rw [hyx.frame, hy.frame, hxy.frame, hx.frame]
  accounts := by
    have haccounts := hx.accounts hknown
    have haccounts' := hy.accounts hknown'
    rw [hyx.accounts (hknown.of_accounts haccounts'), haccounts',
      hxy.accounts (hknown'.of_accounts haccounts), haccounts]
  submissions := by
    rw [hyx.rows_submission, hy.rows_submission, hxy.rows_submission, hx.rows_submission, hr.1,
      hr.2, hq.1, hq.2]
    exact Submissions.setRow_comm hne hs.submissionIds
  gradeRows := by
    rw [hyx.rows_grade, hy.rows_grade, hxy.rows_grade, hx.rows_grade, hr.1, hq.1]
    exact Submissions.regraded_comm hne x.grades y.grades _
  grades id := by
    rw [hyx.rows_grade, hy.rows_grade, hxy.rows_grade, hx.rows_grade, hr.1, hq.1]
    exact Submissions.filter_regraded_comm hne x.grades y.grades _ id

theorem submit_cases_of_result_eq (h : (submit x a s').result = (submit x a s).result) :
    ((submit x a s).store = s ∧ (submit x a s').store = s') ∨
      ∃ r users q users', Recorded x r users s (submit x a s).store ∧
        Recorded x q users' s' (submit x a s').store ∧
        q.submission = r.submission ∧ q.user = r.user := by
  rcases submit_cases x a s with ⟨e, he, hstore⟩ | ⟨r, users, hok, hr⟩
  · rcases submit_cases x a s' with ⟨e', -, hstore'⟩ | ⟨q, users', hok', -⟩
    · exact .inl ⟨hstore, hstore'⟩
    · rw [he, hok'] at h
      cases h
  · rcases submit_cases x a s' with ⟨e', he', -⟩ | ⟨q, users', hok', hq⟩
    · rw [hok, he'] at h
      cases h
    · rw [hok, hok'] at h
      have hx := Except.ok.inj h
      exact .inr ⟨r, users, q, users', hr, hq, congrArg (·.id) hx, congrArg (·.user.id) hx⟩

theorem alike_submit (halike : Alike s s') (hs : s.Tidy) (hs' : s'.Tidy) (hx : x.HasKnownUser s)
    (hstored : x.isStored) : Alike (submit x a s).store (submit x a s').store := by
  obtain ⟨hresult, -⟩ := inStep_submit (a := a) hstored s s' (halike.agreeOn hs hs' hx)
  rcases submit_cases_of_result_eq hresult with ⟨h, h'⟩ | ⟨r, users, q, users', h, h', hid, huser⟩
  · rwa [h, h']
  · exact h.alike h' halike hx (hx.of_accounts halike.accounts) hid huser

/-- Whichever of two submissions comes first, both fare as if they came alone. -/
theorem alike_submit_comm (hs : s.Tidy) (hx : x.HasKnownUser s) (hy : y.HasKnownUser s)
    (hstored : x.isStored) (hstored' : y.isStored) (hne : x.id ≠ y.id) :
    Alike (submit y a (submit x a s).store).store (submit x a (submit y a s).store).store := by
  obtain ⟨hresult, -⟩ := inStep_submit (a := a) hstored _ _
    (agreeOn_submit (a := a) hs hx hy hstored' hne)
  obtain ⟨hresult', -⟩ := inStep_submit (a := a) hstored' _ _
    (agreeOn_submit (a := a) hs hy hx hstored hne.symm)
  rcases submit_cases_of_result_eq hresult with ⟨h, h'⟩ | ⟨r, users, r', usersX, h, h', hr⟩
  · rw [h, h']
    exact .refl _
  · rcases submit_cases_of_result_eq hresult' with ⟨k, k'⟩ | ⟨q, users', q', usersY, k, k', hq⟩
    · rw [k, k']
      exact .refl _
    · have hids : r.submission ≠ q'.submission := by
        rwa [h.id_of_isStored hstored, k'.id_of_isStored hstored']
      exact h.alike_comm k' k h' hs hx hy hr ⟨hq.1.symm, hq.2.symm⟩ hids

def storeAll (a : Access) (xs : List Submission) (s : Store) : Store :=
  xs.foldl (fun s x => (submit x a s).store) s

/-- Submissions with ids of their own, by known users, and a store to take them. -/
structure Ready (xs : List Submission) (s : Store) : Prop where
  tidy : s.Tidy
  stored : ∀ x ∈ xs, x.isStored
  ids : (xs.map (·.id)).Nodup
  known : ∀ x ∈ xs, x.HasKnownUser s

variable {xs ys : List Submission}

theorem Ready.perm (h : Ready xs s) (hperm : xs.Perm ys) : Ready ys s where
  tidy := h.tidy
  stored z hz := h.stored z (hperm.mem_iff.mpr hz)
  ids := (hperm.map _).nodup_iff.mp h.ids
  known z hz := h.known z (hperm.mem_iff.mpr hz)

theorem Ready.submit (h : Ready (x :: xs) s) : Ready xs (submit x a s).store := by
  obtain ⟨hx, hxs⟩ := List.forall_mem_cons.mp h.known
  have hids : (xs.map (·.id)).Nodup := (List.nodup_cons.mp h.ids).2
  have hstored : ∀ z ∈ xs, z.isStored := fun z hz => h.stored z (.tail _ hz)
  rcases submit_cases x a s with ⟨e, -, hstore⟩ | ⟨r, users, -, hr⟩
  · rw [hstore]
    exact ⟨h.tidy, hstored, hids, hxs⟩
  · exact ⟨hr.tidy hx h.tidy, hstored, hids, fun z hz => (hxs z hz).of_accounts (hr.accounts hx)⟩

theorem Ready.tidy_storeAll (h : Ready xs s) : (storeAll a xs s).Tidy := by
  induction xs generalizing s with
  | nil => exact h.tidy
  | cons x xs ih => exact ih h.submit

theorem alike_storeAll (hs : Ready xs s) (hs' : Ready xs s') (h : Alike s s') :
    Alike (storeAll a xs s) (storeAll a xs s') := by
  induction xs generalizing s s' with
  | nil => exact h
  | cons x xs ih =>
      have hx := hs.known x List.mem_cons_self
      exact ih hs.submit hs'.submit
        (alike_submit h hs.tidy hs'.tidy hx (hs.stored x List.mem_cons_self))

theorem alike_storeAll_of_perm (h : Ready xs s) (hperm : xs.Perm ys) :
    Alike (storeAll a xs s) (storeAll a ys s) := by
  induction hperm generalizing s with
  | nil => exact .refl s
  | cons x _ ih => exact ih h.submit
  | swap x y zs =>
      have hids := h.ids
      simp only [List.map_cons, List.nodup_cons, List.mem_cons, not_or] at hids
      have h' : Ready (x :: y :: zs) s := h.perm (.swap x y zs)
      refine alike_storeAll h.submit.submit h'.submit.submit ?_
      exact alike_submit_comm h.tidy (h.known y (by simp)) (h.known x (by simp))
        (h.stored y (by simp)) (h.stored x (by simp)) hids.1.1
  | trans hxy _ ih ih' => exact (ih h).trans (ih' (h.perm hxy))

theorem holds_storeAll_of_holds {id k : Int} (hstored : ∀ y ∈ xs, y.isStored)
    (hne : ∀ y ∈ xs, id ≠ y.id) (h : s.Holds id k x) : (storeAll a xs s).Holds id k x := by
  induction xs generalizing s with
  | nil => exact h
  | cons y ys ih =>
      obtain ⟨hy, hys⟩ := List.forall_mem_cons.mp hstored
      obtain ⟨hid, hids⟩ := List.forall_mem_cons.mp hne
      refine ih hys hids ?_
      change (submit y a s).store.Holds id k x
      rcases submit_cases y a s with ⟨e, -, hstore⟩ | ⟨r, users, -, hr⟩
      · rwa [hstore]
      · exact h.of_recorded hr (hr.id_of_isStored hy ▸ hid)

theorem holds_storeAll (h : Ready xs s) (hx : x ∈ xs) {v : Submission}
    (hv : (submit x a s).result = .ok v) : ∃ k, (storeAll a xs s).Holds x.id k x := by
  induction xs generalizing s with
  | nil => cases hx
  | cons y ys ih =>
      obtain ⟨hy, -⟩ := List.nodup_cons.mp h.ids
      rcases List.mem_cons.mp hx with rfl | hmem
      · have hstored := h.stored x hx
        obtain ⟨-, -, r, users, hr, -⟩ := submitted_of_gives ⟨hv, rfl⟩
        have hheld := holds_of_recorded hr
        rw [hr.id_of_isStored hstored] at hheld
        have hrest : (storeAll a ys (submit x a s).store).Holds x.id r.user x := by
          refine holds_storeAll_of_holds (fun z hz => h.stored z (.tail _ hz)) ?_ hheld
          intro z hz hid
          exact hy (List.mem_map.mpr ⟨z, hz, hid.symm⟩)
        exact ⟨r.user, hrest⟩
      · have hne : x.id ≠ y.id := fun hid => hy (List.mem_map.mpr ⟨x, hmem, hid⟩)
        have hagree := agreeOn_submit (a := a) h.tidy (h.known x hx) (h.known y List.mem_cons_self)
          (h.stored y List.mem_cons_self) hne
        refine ih h.submit hmem ?_
        rw [(inStep_submit (h.stored x hx) _ _ hagree).1, hv]

/-- Submissions that come with different ids of their own, by users who are stored, can be stored in
any order: the same rows of submissions and grades are there in the end, and the same answers are
given. Each submission that is accepted when it comes alone is among them, so that none depends on
those before it. -/
theorem storeAll_perm (s : Store) (hs : s.Keyed) (a : Access) (xs ys : List Submission)
    (hperm : xs.Perm ys) (hstored : ∀ x ∈ xs, x.isStored) (hids : (xs.map (·.id)).Nodup)
    (hknown : ∀ x ∈ xs, x.HasKnownUser s) :
    ((storeAll a xs s).rows .submission).Perm ((storeAll a ys s).rows .submission) ∧
      ((storeAll a xs s).rows .grade).Perm ((storeAll a ys s).rows .grade) ∧
      (∀ id b, (gradeCount id b (storeAll a ys s)).result =
        (gradeCount id b (storeAll a xs s)).result) ∧
      (∀ ranking u e b, (topSubmission ranking u e b (storeAll a ys s)).result =
        (topSubmission ranking u e b (storeAll a xs s)).result) ∧
      ∀ x ∈ xs, ∀ v, (submit x a s).result = .ok v → ∃ k, (storeAll a xs s).Holds x.id k x := by
  have hready : Ready xs s := ⟨hs.tidy, hstored, hids, hknown⟩
  have halike := alike_storeAll_of_perm (a := a) hready hperm
  have htidy : (storeAll a xs s).Tidy := hready.tidy_storeAll
  refine ⟨halike.submissions, halike.gradeRows, ?_, ?_, ?_⟩
  · exact fun id b => halike.rankAlike.result_gradeCount id b
  · exact fun ranking u e b => halike.rankAlike.result_topSubmission htidy.idsUnique
      (halike.nodup_userIds htidy.idsUnique) u e b
  · exact fun x hx v hv => holds_storeAll hready hx hv

def leftBehind : Store :=
  ((fresh.withRows .user [⟨3, some "ann", none, none, none⟩]).withRows .submission
      [⟨1, .int 9, .null, .null⟩]).withRows .grade
    [⟨.int 1, .int 4, .null⟩, ⟨.int 8, .int 1, .real 1⟩]

def takesPlace : Submission :=
  { Request.twoGrades with id := 1 }

def isNew : Submission :=
  { Request.twoGrades with id := 5, user := ⟨noId, "ann", "Anna", "Lee"⟩ }

/-- The rows differ in their order and the user has another name, but the same submission is on
top. -/
theorem storeAll_perm_takesPlace :
    leftBehind.Keyed ∧
      ((storeAll .readWrite [takesPlace, isNew] leftBehind).rows .user).map (·.firstname) =
        [some "Anna"] ∧
      ((storeAll .readWrite [isNew, takesPlace] leftBehind).rows .user).map (·.firstname) =
        [some "Ann"] ∧
      ((storeAll .readWrite [takesPlace, isNew] leftBehind).rows .grade).Perm
        ((storeAll .readWrite [isNew, takesPlace] leftBehind).rows .grade) ∧
      (∃ k, (storeAll .readWrite [takesPlace, isNew] leftBehind).Holds 1 k takesPlace) := by
  have hkeyed : leftBehind.Keyed := by
    intro t x hx
    cases t <;> cases hx <;> exact ⟨rfl, by decide +kernel⟩
  have huser : ∃ u ∈ leftBehind.rows .user, u.username = some "ann" := ⟨_, .head _, rfl⟩
  obtain ⟨-, hgrades, -, -, hholds⟩ :=
    storeAll_perm leftBehind hkeyed .readWrite [takesPlace, isNew] [isNew, takesPlace]
      (.swap _ _ _) (by decide) (by decide) (by
        rintro x (_ | ⟨_, _ | ⟨_, ⟨⟩⟩⟩) <;> exact huser)
  have hresult : ∃ v, (submit takesPlace .readWrite leftBehind).result = .ok v := ⟨_, rfl⟩
  obtain ⟨v, hv⟩ := hresult
  exact ⟨hkeyed, by decide +kernel, by decide +kernel, hgrades, hholds _ (.head _) v hv⟩

end Book

end Markbook
