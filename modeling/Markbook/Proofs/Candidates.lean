import Markbook.Proofs.Keys
import Markbook.Proofs.Standing

namespace Markbook

open Store Work

namespace Work

variable {α β : Type} {a : Access} {s s' : Store}

theorem result_read {f : Store → Except StoreError α} (ha : a.fault? = none) :
    (read f a s).result = (f s).mapError Fault.ofStore := by
  rw [read, ha]

theorem result_read_congr {f : Store → Except StoreError α} (h : f s' = f s) :
    (read f a s').result = (read f a s).result := by
  rw [read, read, h]
  cases a.fault? <;> rfl

theorem result_bind_congr {w : Work α} {f : α → Work β} (hw : LeavesStore w)
    (h : (w a s').result = (w a s).result)
    (hf : ∀ x, (w a s).result = .ok x → (f x a s').result = (f x a s).result) :
    ((w >>= f) a s').result = ((w >>= f) a s).result := by
  cases hr : (w a s).result with
  | ok x =>
      rw [(bind_of_gives ⟨hr, hw a s⟩).1, (bind_of_gives ⟨h.trans hr, hw a s'⟩).1, hf x hr]
  | error e => rw [(bind_of_error hr).1, (bind_of_error (h.trans hr)).1]

end Work

namespace Store

variable {s s' : Store} {ranking : Ranking} {username : String} {exercise : Int}
  {r r' : SubmissionRow}

structure IsCandidate (s : Store) (username : String) (exercise : Int) (r : SubmissionRow) :
    Prop where
  row : r ∈ s.rows .submission
  exercise : r.exercise.same (.int exercise)
  user : ∃ u ∈ s.rows .user, u.username = some username ∧ r.user.same (.int u.id)

/-- A candidate that no candidate exceeds. -/
structure IsTop (s : Store) (ranking : Ranking) (username : String) (exercise : Int)
    (r : SubmissionRow) : Prop where
  candidate : s.IsCandidate username exercise r
  greatest : ∀ r', s.IsCandidate username exercise r' →
    ranking.rowKey (s.rows .grade) r' ≤ ranking.rowKey (s.rows .grade) r

structure IdsUnique (s : Store) : Prop where
  users : ((s.rows .user).map (·.id)).Nodup
  submissions : ((s.rows .submission).map (·.id)).Nodup

theorem mem_candidates :
    r ∈ Ranking.candidates (s.rows .user) (s.rows .submission) username exercise ↔
      s.IsCandidate username exercise r := by
  simp only [Ranking.candidates, List.mem_filter, Bool.and_eq_true, List.any_eq_true, beq_iff_eq]
  constructor
  · rintro ⟨hr, he, hu⟩
    exact ⟨hr, he, hu⟩
  · intro h
    exact ⟨h.row, h.exercise, h.user⟩

def pickedRow? (s : Store) (ranking : Ranking) (username : String) (exercise : Int) :
    Option SubmissionRow :=
  greatest? (ranking.rowLe (s.rows .grade))
    (Ranking.candidates (s.rows .user) (s.rows .submission) username exercise)

theorem eq_of_rowKey_eq (h : ((s.rows .submission).map (·.id)).Nodup) {grades : List GradeRow}
    (hr : r ∈ s.rows .submission) (hr' : r' ∈ s.rows .submission)
    (hkey : ranking.rowKey grades r = ranking.rowKey grades r') : r = r' :=
  List.inj_on_of_nodup_map h hr hr' (congrArg (fun x => (ofLex (ofLex x).2).2) hkey)

theorem pickedRow?_eq_none :
    s.pickedRow? ranking username exercise = none ↔ ∀ r, ¬ s.IsCandidate username exercise r := by
  rw [pickedRow?, greatest?_eq_none, List.eq_nil_iff_forall_not_mem]
  exact forall_congr' fun _ => not_congr mem_candidates

theorem pickedRow?_eq_some (h : ((s.rows .submission).map (·.id)).Nodup) :
    s.pickedRow? ranking username exercise = some r ↔ s.IsTop ranking username exercise r := by
  rw [pickedRow?, greatest?_eq_some (Ranking.rowLe_iff (s.rows .grade) ranking)]
  · simp only [mem_candidates]
    exact ⟨fun ⟨hr, hall⟩ => ⟨hr, hall⟩, fun htop => ⟨htop.candidate, htop.greatest⟩⟩
  · intro x hx y hy
    exact eq_of_rowKey_eq h (mem_candidates.mp hx).row (mem_candidates.mp hy).row

/-- Two stores in which one user's submissions for one exercise are the same, with the same grades. -/
structure SameFor (username : String) (exercise : Int) (s s' : Store) : Prop where
  tables : ∀ t, (s'.table t).isSome = (s.table t).isSome
  candidates : ∀ r, s'.IsCandidate username exercise r ↔ s.IsCandidate username exercise r
  grades : ∀ r, s.IsCandidate username exercise r →
    (s'.rows .grade).filter (Submissions.belongsTo r.id) =
      (s.rows .grade).filter (Submissions.belongsTo r.id)

theorem SameFor.gradeRowsOf (h : SameFor username exercise s s')
    (hr : s.IsCandidate username exercise r) :
    gradeRowsOf r.id (s'.rows .grade) = gradeRowsOf r.id (s.rows .grade) :=
  congrArg (arrange _) (h.grades r hr)

theorem SameFor.rowKey (h : SameFor username exercise s s')
    (hr : s.IsCandidate username exercise r) (ranking : Ranking) :
    ranking.rowKey (s'.rows .grade) r = ranking.rowKey (s.rows .grade) r := by
  cases ranking with
  | latest => rfl
  | best => rw [Ranking.rowKey, rankedTotal, h.gradeRowsOf hr, Ranking.rowKey, rankedTotal]

theorem SameFor.isTop_iff (h : SameFor username exercise s s') :
    s'.IsTop ranking username exercise r ↔ s.IsTop ranking username exercise r := by
  constructor
  · intro htop
    have hr := (h.candidates r).mp htop.candidate
    refine ⟨hr, fun r' hr' => ?_⟩
    rw [← h.rowKey hr, ← h.rowKey hr']
    exact htop.greatest r' ((h.candidates r').mpr hr')
  · intro htop
    refine ⟨(h.candidates r).mpr htop.candidate, fun r' hr' => ?_⟩
    have hr := (h.candidates r').mp hr'
    rw [h.rowKey htop.candidate, h.rowKey hr]
    exact htop.greatest r' hr

theorem SameFor.pickedRow? (h : SameFor username exercise s s') (hs : s.IdsUnique)
    (hs' : s'.IdsUnique) (ranking : Ranking) :
    s'.pickedRow? ranking username exercise = s.pickedRow? ranking username exercise := by
  apply Option.ext
  intro r
  rw [pickedRow?_eq_some hs'.submissions, pickedRow?_eq_some hs.submissions, h.isTop_iff]

/-- Two stores that rankings cannot tell apart: they know the same users, hold the same submissions
in one order or another, and hold the same grades of each submission in one order. -/
structure RankAlike (s s' : Store) : Prop where
  tables : ∀ t, (s'.table t).isSome = (s.table t).isSome
  identities : ∀ i, i ∈ (s'.rows .user).map Users.identity ↔ i ∈ (s.rows .user).map Users.identity
  submissions : (s.rows .submission).Perm (s'.rows .submission)
  grades : ∀ id, (s'.rows .grade).filter (Submissions.belongsTo id) =
    (s.rows .grade).filter (Submissions.belongsTo id)

theorem exists_user_iff {c : Cell} :
    (∃ u ∈ s.rows .user, u.username = some username ∧ c.same (.int u.id)) ↔
      ∃ i ∈ (s.rows .user).map Users.identity, i.2 = some username ∧ c.same (.int i.1) := by
  simp [Users.identity]

theorem RankAlike.sameFor (h : RankAlike s s') (username : String) (exercise : Int) :
    SameFor username exercise s s' where
  tables := h.tables
  candidates r := by
    constructor
    · intro hr
      refine ⟨h.submissions.mem_iff.mpr hr.row, hr.exercise, ?_⟩
      rw [exists_user_iff]
      simpa only [h.identities] using exists_user_iff.mp hr.user
    · intro hr
      refine ⟨h.submissions.mem_iff.mp hr.row, hr.exercise, ?_⟩
      rw [exists_user_iff]
      simpa only [h.identities] using exists_user_iff.mp hr.user
  grades r _ := h.grades r.id

end Store

namespace Submissions

variable {s : Store} {ranking : Ranking} {username : String} {exercise : Int}

theorem rankedRow?_eq (hids : s.IdsUnique) (hu : (s.table .user).isSome)
    (hs : (s.table .submission).isSome) (hg : (s.table .grade).isSome) :
    rankedRow? ranking username exercise s = .ok (s.pickedRow? ranking username exercise) := by
  obtain ⟨users, hu⟩ := Option.isSome_iff_exists.mp hu
  obtain ⟨submissions, hs⟩ := Option.isSome_iff_exists.mp hs
  obtain ⟨grades, hg⟩ := Option.isSome_iff_exists.mp hg
  rw [rankedRow?_eq_candidateRow? hids.users hids.submissions, candidateRow?,
    require_eq_ok.mpr hs, require_eq_ok.mpr hu, require_eq_ok.mpr hg, pickedRow?,
    rows_of_table hs, rows_of_table hu, rows_of_table hg]
  cases ranking with
  | latest => rfl
  | best => rfl

section

variable {a : Access} {r : SubmissionRow} {w : Winner} (ha : a.fault? = none) (hids : s.IdsUnique)
  (hu : (s.table .user).isSome) (hs : (s.table .submission).isSome) (hg : (s.table .grade).isSome)

include ha hids hu hs hg

theorem result_rank_of_none (h : s.pickedRow? ranking username exercise = none) :
    (rank ranking username exercise a s).result = .ok none := by
  rw [rank, result_read ha, rankedRow?_eq hids hu hs hg, h]
  rfl

theorem result_rank_of_ok (h : s.pickedRow? ranking username exercise = some r)
    (hw : readWinner r = .ok w) : (rank ranking username exercise a s).result = .ok (some w) := by
  rw [rank, result_read ha, rankedRow?_eq hids hu hs hg, h]
  change (some <$> readWinner r).mapError Fault.ofStore = _
  rw [hw]
  rfl

theorem result_rank_of_error {e : StoreError} (h : s.pickedRow? ranking username exercise = some r)
    (he : readWinner r = .error e) :
    (rank ranking username exercise a s).result = .error (.ofStore e) := by
  rw [rank, result_read ha, rankedRow?_eq hids hu hs hg, h]
  change (some <$> readWinner r).mapError Fault.ofStore = _
  rw [he]
  rfl

theorem result_rank_eq_none :
    (rank ranking username exercise a s).result = .ok none ↔
      ∀ r, ¬ s.IsCandidate username exercise r := by
  constructor
  · intro hnone
    rw [← pickedRow?_eq_none]
    cases hpicked : s.pickedRow? ranking username exercise with
    | none => rfl
    | some r =>
        cases hr : readWinner r with
        | ok w => cases hnone.symm.trans (result_rank_of_ok ha hids hu hs hg hpicked hr)
        | error e => cases hnone.symm.trans (result_rank_of_error ha hids hu hs hg hpicked hr)
  · intro hnone
    exact result_rank_of_none ha hids hu hs hg (pickedRow?_eq_none.mpr hnone)

end

theorem id_of_readWinner {r : SubmissionRow} {w : Winner} (h : readWinner r = .ok w) :
    w.id = r.id := by
  simp only [readWinner, bind_eq_ok, pure_eq_ok] at h
  obtain ⟨_, -, _, -, rfl⟩ := h
  rfl

theorem isCandidate_of_rankedRow? (hids : s.IdsUnique) {r : SubmissionRow}
    (h : rankedRow? ranking username exercise s = .ok (some r)) :
    s.IsCandidate username exercise r := by
  rw [rankedRow?_eq_candidateRow? hids.users hids.submissions] at h
  obtain ⟨submissions, hs, h⟩ := bind_eq_ok.mp h
  obtain ⟨users, hu, h⟩ := bind_eq_ok.mp h
  rw [← mem_candidates, rows_of_table (require_eq_ok.mp hu), rows_of_table (require_eq_ok.mp hs)]
  cases ranking with
  | latest => exact (greatest?_spec (Ranking.rowLe_iff [] .latest) (pure_eq_ok.mp h)).1
  | best =>
      obtain ⟨grades, -, h⟩ := bind_eq_ok.mp h
      exact (greatest?_spec (Ranking.rowLe_iff grades.rows .best) (pure_eq_ok.mp h)).1

theorem exists_isCandidate_of_rank {a : Access} {w : Winner} (hids : s.IdsUnique)
    (h : (rank ranking username exercise a s).result = .ok (some w)) :
    ∃ r, s.IsCandidate username exercise r ∧ w.id = r.id := by
  obtain ⟨-, hread, -⟩ := gives_read.mp ⟨h, rfl⟩
  obtain ⟨row, hrow, hw⟩ := bind_eq_ok.mp hread
  cases row with
  | none => cases hw
  | some r =>
      obtain ⟨w', hw', hsome⟩ := bind_eq_ok.mp hw
      cases hsome
      exact ⟨r, isCandidate_of_rankedRow? hids hrow, id_of_readWinner hw'⟩

end Submissions

namespace Store.SameFor

variable {s s' : Store} {username : String} {exercise : Int} {ranking : Ranking}

theorem rankedRow? (h : SameFor username exercise s s') (hs : s.IdsUnique) (hs' : s'.IdsUnique) :
    Submissions.rankedRow? ranking username exercise s' =
      Submissions.rankedRow? ranking username exercise s := by
  have hpicked := h.pickedRow? hs hs' ranking
  rw [Submissions.rankedRow?_eq_candidateRow? hs.users hs.submissions,
    Submissions.rankedRow?_eq_candidateRow? hs'.users hs'.submissions]
  refine require_bind_congr (h.tables .submission) fun x x' hx hx' => ?_
  refine require_bind_congr (h.tables .user) fun y y' hy hy' => ?_
  rw [Store.pickedRow?, Store.pickedRow?, rows_of_table hx, rows_of_table hx', rows_of_table hy,
    rows_of_table hy'] at hpicked
  cases ranking with
  | latest => exact congrArg pure hpicked
  | best =>
      refine require_bind_congr (h.tables .grade) fun z z' hz hz' => ?_
      rw [rows_of_table hz, rows_of_table hz'] at hpicked
      exact congrArg pure hpicked

theorem result_rank (h : SameFor username exercise s s') (hs : s.IdsUnique) (hs' : s'.IdsUnique)
    (a : Access) :
    (Submissions.rank ranking username exercise a s').result =
      (Submissions.rank ranking username exercise a s).result := by
  apply result_read_congr
  rw [h.rankedRow? hs hs']

theorem result_gradesOf (h : SameFor username exercise s s') {r : SubmissionRow}
    (hr : s.IsCandidate username exercise r) (limit : Nat) (a : Access) :
    (Submissions.gradesOf r.id limit a s').result = (Submissions.gradesOf r.id limit a s).result := by
  apply result_read_congr
  refine require_bind_congr (h.tables .submission) fun x x' hx hx' => ?_
  refine require_bind_congr (h.tables .grade) fun y y' hy hy' => ?_
  have hmem := hr.row
  have hmem' := ((h.candidates r).mpr hr).row
  have hrows := h.gradeRowsOf hr
  rw [rows_of_table hx] at hmem
  rw [rows_of_table hx'] at hmem'
  rw [rows_of_table hy, rows_of_table hy'] at hrows
  have hany : x.rows.any (·.id == r.id) := List.any_eq_true.mpr ⟨r, hmem, by simp⟩
  have hany' : x'.rows.any (·.id == r.id) := List.any_eq_true.mpr ⟨r, hmem', by simp⟩
  rw [if_pos hany, if_pos hany', hrows]

theorem result_topSubmission {u : User} {e : Exercise} (h : SameFor u.username e.id s s')
    (hs : s.IdsUnique) (hs' : s'.IdsUnique) (a : Access) :
    (Book.topSubmission ranking u e a s').result = (Book.topSubmission ranking u e a s).result := by
  refine result_bind_congr leavesStore_read (h.result_rank hs hs' a) fun winner hw => ?_
  cases winner with
  | none => rfl
  | some winner =>
      -- The grades that are asked for are those of a candidate.
      obtain ⟨r, hr, hid⟩ := Submissions.exists_isCandidate_of_rank hs hw
      have hgrades := h.result_gradesOf hr e.size a
      rw [← hid] at hgrades
      refine result_bind_congr leavesStore_read hgrades fun rows _ => ?_
      cases Time.Instant.ofStored winner.ms <;> rfl

end Store.SameFor

namespace Store.RankAlike

variable {s s' : Store} {ranking : Ranking}

theorem idsUnique (h : RankAlike s s') (hs : s.IdsUnique)
    (husers : ((s'.rows .user).map (·.id)).Nodup) : s'.IdsUnique :=
  ⟨husers, (h.submissions.map _).nodup_iff.mp hs.submissions⟩

theorem result_rank (h : RankAlike s s') (hs : s.IdsUnique)
    (husers : ((s'.rows .user).map (·.id)).Nodup) (username : String) (exercise : Int)
    (a : Access) :
    (Submissions.rank ranking username exercise a s').result =
      (Submissions.rank ranking username exercise a s).result :=
  (h.sameFor username exercise).result_rank hs (h.idsUnique hs husers) a

theorem result_gradeCount (h : RankAlike s s') (id : Int) (a : Access) :
    (Book.gradeCount id a s').result = (Book.gradeCount id a s).result := by
  apply result_read_congr
  refine require_bind_congr (h.tables .grade) fun x x' hx hx' => ?_
  rw [← rows_of_table hx, ← rows_of_table hx', h.grades]

theorem result_topSubmission (h : RankAlike s s') (hs : s.IdsUnique)
    (husers : ((s'.rows .user).map (·.id)).Nodup) (u : User) (e : Exercise) (a : Access) :
    (Book.topSubmission ranking u e a s').result = (Book.topSubmission ranking u e a s).result :=
  (h.sameFor u.username e.id).result_topSubmission hs (h.idsUnique hs husers) a

end Store.RankAlike

namespace Store

variable {s : Store}

theorem rankAlike_of_perm {users : List UserRow} {submissions : List SubmissionRow}
    (hu : (s.table .user).isSome) (hs : (s.table .submission).isSome)
    (husers : users.Perm (s.rows .user)) (hsubmissions : submissions.Perm (s.rows .submission)) :
    RankAlike s ((s.withRows .user users).withRows .submission submissions) where
  tables t := by rw [isSome_table_withRows, isSome_table_withRows]
  identities i := by
    rw [rows_withRows_of_ne (by decide), rows_withRows_self hu]
    exact (husers.map Users.identity).mem_iff
  submissions := by
    rw [rows_withRows_self (by rwa [isSome_table_withRows])]
    exact hsubmissions.symm
  grades id := by rw [rows_withRows_of_ne (by decide), rows_withRows_of_ne (by decide)]

theorem units_rankedTotal
    (h : AddExactly ((gradeRowsOf r.id (s.rows .grade)).map (·.grade))) :
    unitsOf (rankedTotal (s.rows .grade) r) =
      (((s.rows .grade).filter (Submissions.belongsTo r.id)).map (·.grade.units)).sum := by
  rw [rankedTotal, h.units_sumCells?, List.map_map]
  exact ((perm_arrange _ _).map _).sum_eq

theorem rankedTotal_of_null
    (h : ∀ g ∈ s.rows .grade, Submissions.belongsTo r.id g → g.grade = .null) :
    rankedTotal (s.rows .grade) r = 0 := by
  rw [rankedTotal, sumCells?_eq_none]
  · rfl
  · intro c hc
    obtain ⟨g, hg, rfl⟩ := List.mem_map.mp hc
    obtain ⟨hrow, hown⟩ := List.mem_filter.mp ((perm_arrange _ _).mem_iff.mp hg)
    exact h g hrow hown

/-- Both rankings look at the submissions for the exercise that refer to the user of that name.
They answer none if there are none, and else the only one that no other exceeds, if its cells can
be read. Where grades count, the joined and grouped rows hold each of these submissions once, with
what its own grades add up to, or 0 if there are none. The order of users and submissions is of no
matter. -/
theorem rank_eq_top (s : Store) (hu : (s.table .user).isSome) (hs : (s.table .submission).isSome)
    (hg : (s.table .grade).isSome) (husers : (s.rows .user).Pairwise Relation.userSchema.Apart)
    (hsubmissions : (s.rows .submission).Pairwise Relation.submissionSchema.Apart)
    (a : Access) (ha : a.fault? = none) (ranking : Ranking) (username : String) (exercise : Int) :
    ((Submissions.rank ranking username exercise a s).result = .ok none ↔
        ∀ r, ¬ s.IsCandidate username exercise r) ∧
      ((∃ r, s.IsCandidate username exercise r) → ∃! r, s.IsTop ranking username exercise r) ∧
      (∀ r, s.IsTop ranking username exercise r →
        (∀ w, Submissions.readWinner r = .ok w → w.id = r.id ∧
          (Submissions.rank ranking username exercise a s).result = .ok (some w)) ∧
        ∀ e, Submissions.readWinner r = .error e →
          (Submissions.rank ranking username exercise a s).result = .error (.ofStore e)) ∧
      (∀ r, s.IsCandidate username exercise r →
        (AddExactly ((gradeRowsOf r.id (s.rows .grade)).map (·.grade)) →
          unitsOf (rankedTotal (s.rows .grade) r) =
            (((s.rows .grade).filter (Submissions.belongsTo r.id)).map (·.grade.units)).sum) ∧
        ((∀ g ∈ s.rows .grade, Submissions.belongsTo r.id g → g.grade = .null) →
          rankedTotal (s.rows .grade) r = 0)) ∧
      (∀ groups, groups = Ranking.groups (s.rows .user) (s.rows .submission) (s.rows .grade)
          username exercise →
        (groups.map (·.first.1.1)).Nodup ∧
        (∀ r, r ∈ groups.map (·.first.1.1) ↔ s.IsCandidate username exercise r) ∧
        ∀ g ∈ groups, Ranking.groupTotal g = rankedTotal (s.rows .grade) g.first.1.1) ∧
      ∀ users submissions, users.Perm (s.rows .user) → submissions.Perm (s.rows .submission) →
        (Submissions.rank ranking username exercise a
            ((s.withRows .user users).withRows .submission submissions)).result =
          (Submissions.rank ranking username exercise a s).result := by
  have hids : s.IdsUnique := ⟨nodup_userIds husers, nodup_submissionIds.mpr hsubmissions⟩
  refine ⟨?_, ?_, ?_, ?_, ?_, ?_⟩
  · exact Submissions.result_rank_eq_none ha hids hu hs hg
  · rintro ⟨r, hr⟩
    cases hpicked : s.pickedRow? ranking username exercise with
    | none => exact absurd hr (pickedRow?_eq_none.mp hpicked r)
    | some m =>
        refine ⟨m, (pickedRow?_eq_some hids.submissions).mp hpicked, ?_⟩
        intro m' hm'
        rw [← pickedRow?_eq_some hids.submissions, hpicked] at hm'
        exact (Option.some.inj hm').symm
  · intro r hr
    have hpicked := (pickedRow?_eq_some hids.submissions).mpr hr
    refine ⟨?_, fun e he => Submissions.result_rank_of_error ha hids hu hs hg hpicked he⟩
    intro w hw
    exact ⟨Submissions.id_of_readWinner hw,
      Submissions.result_rank_of_ok ha hids hu hs hg hpicked hw⟩
  · exact fun r _ => ⟨units_rankedTotal, rankedTotal_of_null⟩
  · rintro groups rfl
    rw [Ranking.map_first_groups hids.users hids.submissions]
    refine ⟨.of_map _ (hids.submissions.sublist (List.filter_sublist.map _)), ?_, ?_⟩
    · exact fun r => mem_candidates
    · exact fun g => Ranking.groupTotal_of_mem_groups hids.users hids.submissions
  · intro users submissions hperm hperm'
    have halike := rankAlike_of_perm hu hs hperm hperm'
    refine halike.result_rank hids ?_ username exercise a
    rw [rows_withRows_of_ne (by decide), rows_withRows_self hu]
    exact (hperm.map _).nodup_iff.mpr hids.users

/-- Three submissions of one user for an exercise, one of them without grades, among rows that do
not belong to anything. Of the other two, one has the later time and the greatest grade, and one
has more in sum. For another exercise there is a submission without grades only. -/
def strays : Store :=
  let submissions : List SubmissionRow :=
    [⟨3, .int 1, .int 7, .int 100⟩, ⟨5, .int 1, .int 7, .int 200⟩, ⟨6, .int 1, .int 7, .int 150⟩,
      ⟨8, .int 9, .int 7, .int 100⟩, ⟨9, .int 2, .int 7, .int 100⟩, ⟨10, .int 1, .int 8, .int 100⟩]
  let grades : List GradeRow :=
    [⟨.int 77, .int 1, .real 9⟩, ⟨.int 3, .int 2, .real 2⟩, ⟨.int 5, .int 1, .real 3⟩,
      ⟨.int 5, .int 2, .null⟩, ⟨.int 3, .int 1, .real 2⟩, ⟨.null, .int 1, .real 9⟩]
  let users : List UserRow :=
    [⟨2, some "bob", none, none, none⟩, ⟨4, none, none, none, none⟩,
      ⟨1, some "ann", none, none, none⟩]
  ((fresh.withRows .user users).withRows .submission submissions).withRows .grade grades

theorem addExactly_twos : AddExactly [.real 2, .real 2] where
  amounts c hc := .inr ⟨2, by decide, by simpa using hc⟩
  isFloat n := by
    rcases n with _ | _ | n
    · exact ⟨0, by decide +kernel, by decide +kernel⟩
    · exact ⟨2, by decide +kernel, by decide +kernel⟩
    · rw [List.take_of_length_le (by simp)]
      exact ⟨4, by decide +kernel, by decide +kernel⟩

def winner? (ranking : Ranking) (exercise : Int) (s : Store) : Option (Int × Int × Int) :=
  (Submissions.rank ranking "ann" exercise .readWrite s).result.toOption.join.map
    fun w => (w.id, w.user, w.ms)

theorem rank_eq_top_strays :
    (strays.rows .user).Pairwise Relation.userSchema.Apart ∧
      (strays.rows .submission).Pairwise Relation.submissionSchema.Apart ∧
      winner? .latest 7 strays = some (5, 1, 200) ∧ winner? .best 7 strays = some (3, 1, 100) ∧
      winner? .best 8 strays = some (10, 1, 100) ∧ (∃! r, strays.IsTop .best "ann" 7 r) ∧
      unitsOf (rankedTotal (strays.rows .grade) ⟨3, .int 1, .int 7, .int 100⟩) =
        unitsOf 2 + unitsOf 2 ∧
      winner? .best 7 ((strays.withRows .user (strays.rows .user).reverse).withRows .submission
        (strays.rows .submission).reverse) = some (3, 1, 100) := by
  have husers : (strays.rows .user).Pairwise Relation.userSchema.Apart := by decide +kernel
  have hsubmissions : (strays.rows .submission).Pairwise Relation.submissionSchema.Apart := by
    decide +kernel
  have hbest : winner? .best 7 strays = some (3, 1, 100) := by decide +kernel
  have hcandidate : strays.IsCandidate "ann" 7 ⟨3, .int 1, .int 7, .int 100⟩ :=
    ⟨.head _, rfl, _, .tail _ (.tail _ (.head _)), rfl, rfl⟩
  have hcells : (gradeRowsOf 3 (strays.rows .grade)).map (·.grade) = [.real 2, .real 2] := by rfl
  obtain ⟨-, htop, -, htotal, -, hperm⟩ :=
    rank_eq_top strays rfl rfl rfl husers hsubmissions .readWrite rfl .best "ann" 7
  refine ⟨husers, hsubmissions, by decide +kernel, hbest, by decide +kernel,
    htop ⟨_, hcandidate⟩, ?_, ?_⟩
  · rw [(htotal _ hcandidate).1 (hcells ▸ addExactly_twos)]
    decide +kernel
  · rw [winner?, hperm _ _ (List.reverse_perm _) (List.reverse_perm _)]
    exact hbest

end Store

end Markbook
