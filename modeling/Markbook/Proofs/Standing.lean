import Markbook.Proofs.History
import Markbook.Proofs.Instants
import Markbook.Proofs.Sums

namespace Markbook

open Store Work Time

def Submissions.rowOf (id user : Int) (x : Submission) : SubmissionRow :=
  ⟨id, .int user, .int x.exercise.id, .int x.time.toMillis⟩

/-- The rows of a submission that is stored under `id`, by the user with the id `k`. -/
structure Store.Holds (s : Store) (id k : Int) (x : Submission) : Prop where
  user : (k, some x.user.username) ∈ (s.rows .user).map Users.identity
  row : Submissions.rowOf id k x ∈ s.rows .submission
  grades : (s.rows .grade).filter (Submissions.belongsTo id) =
    (numbered x.grades).map (Submissions.gradeRowOf id)

namespace Store

def candidateRows (s : Store) (u : User) (e : Exercise) : List SubmissionRow :=
  Ranking.candidates (s.rows .user) (s.rows .submission) u.username e.id

variable {s s' : Store} {id k : Int} {x y : Submission} {r : Book.Stored} {users : List UserRow}

theorem Holds.of_rows_eq (h : s.Holds id k x)
    (husers : (s.rows .user).map Users.identity ⊆ (s'.rows .user).map Users.identity)
    (hsubmissions : s'.rows .submission = s.rows .submission)
    (hgrades : s'.rows .grade = s.rows .grade) : s'.Holds id k x :=
  ⟨husers h.user, hsubmissions ▸ h.row, hgrades ▸ h.grades⟩

theorem holds_of_recorded (h : Book.Recorded y r users s s') :
    s'.Holds r.submission r.user y := by
  refine ⟨?_, ?_, ?_⟩
  · rw [h.rows_user]
    exact h.settled.mem_identities
  · rw [h.rows_submission]
    exact Submissions.mem_setRow.mpr (.inl rfl)
  · rw [h.rows_grade]
    exact Submissions.filter_regraded_self y.grades (s.rows .grade)

theorem Holds.of_recorded (hx : s.Holds id k x) (h : Book.Recorded y r users s s')
    (hne : id ≠ r.submission) : s'.Holds id k x := by
  refine ⟨?_, ?_, ?_⟩
  · rw [h.rows_user]
    exact h.settled.identities_subset hx.user
  · rw [h.rows_submission]
    exact Submissions.mem_setRow.mpr (.inr ⟨hx.row, hne⟩)
  · rw [h.rows_grade, Submissions.filter_regraded_of_ne hne]
    exact hx.grades

end Store

namespace History

theorem holds_of_current? (h : History) {id : Int} {x : Submission} (hx : h.current? id = some x) :
    ∃ k, h.store.Holds id k x := by
  induction h generalizing x with
  | fresh => cases hx
  | next h m ih =>
      obtain ⟨version, enrolment, hm, hversions, -⟩ := h.exists_effect_next m
      rw [current?, hversions] at hx
      generalize (h.next m).store = s' at hm ⊢
      cases hm with
      | sparing hs =>
          obtain ⟨k, hk⟩ := ih hx
          refine ⟨k, hk.of_rows_eq ?_ (hs.rows _) (hs.rows _)⟩
          rw [hs.rows]
          exact List.Subset.refl _
      | registered he =>
          obtain ⟨k, hk⟩ := ih hx
          refine ⟨k, hk.of_rows_eq ?_ ?_ ?_⟩
          · rw [he.rows_of_ne (by decide) (by decide)]
            exact List.Subset.refl _
          · exact he.rows_of_ne (by decide) (by decide)
          · exact he.rows_of_ne (by decide) (by decide)
      | enrolled he =>
          obtain ⟨k, hk⟩ := ih hx
          refine ⟨k, hk.of_rows_eq ?_ (he.rows_of_ne (by decide)) (he.rows_of_ne (by decide))⟩
          rw [he.rows_user]
          exact he.settled.identities_subset
      | submitted he =>
          rw [lookup_push] at hx
          split at hx
          next heq =>
              cases hx
              subst heq
              exact ⟨_, holds_of_recorded he⟩
          next hne =>
              obtain ⟨k, hk⟩ := ih hx
              exact ⟨k, hk.of_recorded he hne⟩

theorem exists_current? (h : History) {r : SubmissionRow} (hr : r ∈ h.store.rows .submission) :
    ∃ x, h.current? r.id = some x := by
  induction h with
  | fresh => cases hr
  | next h m ih =>
      obtain ⟨version, enrolment, hm, hversions, -⟩ := h.exists_effect_next m
      rw [current?, hversions]
      generalize (h.next m).store = s' at hm hr
      cases hm with
      | sparing hs =>
          rw [hs.rows] at hr
          exact ih hr
      | registered he =>
          rw [he.rows_of_ne (by decide) (by decide)] at hr
          exact ih hr
      | enrolled he =>
          rw [he.rows_of_ne (by decide)] at hr
          exact ih hr
      | submitted he =>
          rw [lookup_push]
          split
          next => exact ⟨_, rfl⟩
          next hne =>
              rw [he.rows_submission] at hr
              rcases Submissions.mem_setRow.mp hr with rfl | ⟨hr, -⟩
              · exact absurd rfl hne
              · exact ih hr

/-- The submission that was last stored under `id` is one of this user for this exercise. -/
structure IsCandidate (h : History) (u : User) (e : Exercise) (id : Int) (x : Submission) :
    Prop where
  current : h.current? id = some x
  username : x.user.username = u.username
  exercise : x.exercise.id = e.id

variable {h : History} {u : User} {e : Exercise}

theorem mem_candidateRows {r : SubmissionRow} :
    r ∈ h.store.candidateRows u e ↔ ∃ k x, h.IsCandidate u e r.id x ∧
      h.store.Holds r.id k x ∧ r = Submissions.rowOf r.id k x := by
  have hs := h.integrity_store
  simp only [candidateRows, Ranking.candidates, List.mem_filter, Bool.and_eq_true,
    List.any_eq_true, beq_iff_eq]
  constructor
  · rintro ⟨hr, hexercise, v, hv, hname, huser⟩
    -- The row is the one that holds the current version, as there is only one with its id, and
    -- the user that it names is the one of that version for the same reason.
    obtain ⟨x, hx⟩ := h.exists_current? hr
    obtain ⟨k, hk⟩ := h.holds_of_current? hx
    have hrow : r = Submissions.rowOf r.id k x :=
      List.inj_on_of_nodup_map hs.submissionIds hr hk.row rfl
    rw [hrow] at hexercise huser
    obtain ⟨w, hw, hid⟩ := List.mem_map.mp hk.user
    obtain ⟨hwk, hwname⟩ := Prod.mk.inj hid
    have hkv : k = v.id := by simpa [Submissions.rowOf] using huser
    obtain rfl : w = v := List.inj_on_of_nodup_map hs.userIds hw hv (hwk.trans hkv)
    refine ⟨k, x, ⟨hx, ?_, by simpa [Submissions.rowOf] using hexercise⟩, hk, hrow⟩
    exact Option.some.inj (hwname.symm.trans hname)
  · rintro ⟨k, x, hx, hk, hrow⟩
    obtain ⟨w, hw, hid⟩ := List.mem_map.mp hk.user
    obtain ⟨hwk, hwname⟩ := Prod.mk.inj hid
    refine ⟨hrow ▸ hk.row, ?_, w, hw, ?_, ?_⟩
    · rw [hrow]
      simp [Submissions.rowOf, hx.exercise]
    · rw [hwname, hx.username]
    · rw [hrow]
      simp [Submissions.rowOf, hwk]

theorem gives_idOf_of_holds {a : Access} (ha : a.fault? = none) {id k : Int} {x : Submission}
    (hx : h.IsCandidate u e id x) (hk : h.store.Holds id k x) :
    Gives (Users.idOf u.username) a h.store (some k) h.store := by
  refine Users.gives_idOf.mpr ⟨ha, h.complete_store .user, ?_, rfl⟩
  obtain ⟨w, hw, hid⟩ := List.mem_map.mp hk.user
  obtain ⟨hwk, hwname⟩ := Prod.mk.inj hid
  rw [hx.username] at hwname
  cases hfind : (h.store.rows .user).find? (Users.hasUsername u.username) with
  | none => exact absurd (Users.hasUsername_iff.mpr hwname) (List.find?_eq_none.mp hfind w hw)
  | some v =>
      have hvname := Users.hasUsername_iff.mp (List.find?_some hfind)
      obtain rfl : v = w := List.inj_on_of_nodup_map h.integrity_store.usernames
        (List.mem_of_find?_eq_some hfind) hw (hvname.trans hwname.symm)
      exact congrArg some hwk

end History

namespace Ranking

def rowKey (grades : List GradeRow) (ranking : Ranking) (r : SubmissionRow) :
    ℤ ×ₗ (ℕ ×ₗ ℤ ×ₗ String) ×ₗ ℤ :=
  toLex (match ranking with
    | latest => 0
    | best => unitsOf (rankedTotal grades r), toLex (r.time.rank, r.id))

/-- What submissions are compared by: the total, if it counts, and then the time in milliseconds
and the id. -/
def standing (ranking : Ranking) (id : Int) (x : Submission) : ℤ ×ₗ ℤ ×ₗ ℤ :=
  toLex (match ranking with
    | latest => 0
    | best => unitsOf x.keptTotal, toLex (x.time.toMillis, id))

theorem laterLe_iff (a b : SubmissionRow) :
    laterLe a b ↔ toLex (a.time.rank, a.id) ≤ toLex (b.time.rank, b.id) :=
  lexLe_iff (f := fun r : SubmissionRow => r.time.rank) (g := fun r : SubmissionRow => r.id)
    Cell.le_iff Cell.le_iff decide_eq_true_iff

theorem rowLe_iff (grades : List GradeRow) (ranking : Ranking) (a b : SubmissionRow) :
    rowLe grades ranking a b ↔ rowKey grades ranking a ≤ rowKey grades ranking b := by
  cases ranking with
  | latest =>
      simp [rowLe, laterLe_iff, rowKey, Prod.Lex.toLex_le_toLex]
  | best =>
      rw [rowLe]
      refine lexLe_iff (f := fun r => unitsOf (rankedTotal grades r))
        (g := fun r : SubmissionRow => toLex (r.time.rank, r.id)) ?_ ?_ (laterLe_iff a b)
      · exact decide_eq_true_iff
      · exact decide_eq_true_iff

theorem rowKey_le_iff {s : Store} {ranking : Ranking} {id id' k k' : Int} {x x' : Submission}
    (h : s.Holds id k x) (h' : s.Holds id' k' x') :
    rowKey (s.rows .grade) ranking (Submissions.rowOf id k x) ≤
        rowKey (s.rows .grade) ranking (Submissions.rowOf id' k' x') ↔
      ranking.standing id x ≤ ranking.standing id' x' := by
  have htotal : rankedTotal (s.rows .grade) (Submissions.rowOf id k x) = x.keptTotal :=
    rankedTotal_eq h.grades
  have htotal' : rankedTotal (s.rows .grade) (Submissions.rowOf id' k' x') = x'.keptTotal :=
    rankedTotal_eq h'.grades
  have htime : toLex ((Cell.int x.time.toMillis).rank, id) ≤
        toLex ((Cell.int x'.time.toMillis).rank, id') ↔
      toLex (x.time.toMillis, id) ≤ toLex (x'.time.toMillis, id') := by
    simp only [Prod.Lex.toLex_le_toLex, lt_iff_le_not_ge, Cell.rank_int_le, Cell.rank_int_inj]
  cases ranking with
  | latest => simpa [rowKey, standing, Submissions.rowOf, Prod.Lex.toLex_le_toLex] using htime
  | best =>
      simp only [rowKey, standing, htotal, htotal']
      refine Prod.Lex.toLex_le_toLex.trans (Iff.trans ?_ Prod.Lex.toLex_le_toLex.symm)
      exact or_congr_right (and_congr_right fun _ => htime)

def topRow? (ranking : Ranking) (u : User) (e : Exercise) (s : Store) : Option SubmissionRow :=
  greatest? (ranking.rowLe (s.rows .grade)) (s.candidateRows u e)

end Ranking

namespace Submissions

variable {a : Access} {s : Store}

theorem gives_rank {ranking : Ranking} {u : User} {e : Exercise} {w : Option Winner}
    (ha : a.fault? = none) (hs : s.Complete) (hkeys : s.Integrity)
    (hw : (ranking.topRow? u e s).mapM readWinner = .ok w) :
    Gives (rank ranking u.username e.id) a s w s := by
  obtain ⟨users, husers⟩ := Option.isSome_iff_exists.mp (hs .user)
  obtain ⟨submissions, hsubmissions⟩ := Option.isSome_iff_exists.mp (hs .submission)
  obtain ⟨grades, hgrades⟩ := Option.isSome_iff_exists.mp (hs .grade)
  refine gives_read.mpr ⟨ha, ?_, rfl⟩
  rw [Ranking.topRow?, candidateRows, rows_of_table husers, rows_of_table hsubmissions,
    rows_of_table hgrades] at hw
  rw [rankedRow?_eq_candidateRow? hkeys.userIds hkeys.submissionIds, candidateRow?,
    require_eq_ok.mpr husers, require_eq_ok.mpr hsubmissions, require_eq_ok.mpr hgrades]
  cases ranking with
  | latest => exact hw
  | best => exact hw

theorem gives_gradesOf (ha : a.fault? = none) (hs : (s.table .submission).isSome)
    (hg : (s.table .grade).isSome) {id : Int} (hid : ∃ r ∈ s.rows .submission, r.id = id) {n : Nat}
    {read : List ReadGrade}
    (hread : ((gradeRowsOf id (s.rows .grade)).take n).mapM readGradeRow = .ok read) :
    Gives (gradesOf id n) a s read s := by
  obtain ⟨submissions, hsubmissions⟩ := Option.isSome_iff_exists.mp hs
  obtain ⟨grades, hgrades⟩ := Option.isSome_iff_exists.mp hg
  have hany : submissions.rows.any (·.id == id) := by
    rw [← rows_of_table hsubmissions]
    simpa using hid
  refine gives_read.mpr ⟨ha, ?_, rfl⟩
  rw [rows_of_table hgrades] at hread
  rw [require_eq_ok.mpr hsubmissions, require_eq_ok.mpr hgrades]
  change (if submissions.rows.any (·.id == id) then _ else _) = _
  rw [if_pos hany]
  exact hread

end Submissions

theorem exists_ok_of_map {ε α β : Type} {r : Except ε α} {f : α → β} {y : β}
    (h : r.toOption.map f = some y) : ∃ x, r = .ok x ∧ f x = y := by
  cases r with
  | error e => cases h
  | ok x => exact ⟨x, rfl, Option.some.inj h⟩

namespace History

/-- No candidate exceeds the submission that was last stored under `id`, itself a candidate. -/
structure IsTop (h : History) (ranking : Ranking) (u : User) (e : Exercise) (id : Int)
    (x : Submission) : Prop where
  candidate : h.IsCandidate u e id x
  greatest : ∀ id' x', h.IsCandidate u e id' x' → ranking.standing id' x' ≤ ranking.standing id x

variable {h : History} {ranking : Ranking} {u : User} {e : Exercise} {a : Access}

theorem isTop_of_topRow? {r : SubmissionRow} (hr : ranking.topRow? u e h.store = some r) :
    ∃ k x, h.IsTop ranking u e r.id x ∧ h.store.Holds r.id k x ∧
      r = Submissions.rowOf r.id k x := by
  obtain ⟨hmem, hall⟩ := greatest?_spec (Ranking.rowLe_iff (h.store.rows .grade) ranking) hr
  obtain ⟨k, x, hx, hk, hrow⟩ := mem_candidateRows.mp hmem
  refine ⟨k, x, ⟨hx, ?_⟩, hk, hrow⟩
  intro id' x' hx'
  obtain ⟨k', hk'⟩ := h.holds_of_current? hx'.current
  have hle := hall (Submissions.rowOf id' k' x') (mem_candidateRows.mpr ⟨k', x', hx', hk', rfl⟩)
  rw [hrow] at hle
  exact (Ranking.rowKey_le_iff hk' hk).mp hle

theorem topSubmission_eq_none (ha : a.fault? = none)
    (hnone : ∀ id x, ¬ h.IsCandidate u e id x) :
    (Book.topSubmission ranking u e a h.store).result = .ok none := by
  have htop : ranking.topRow? u e h.store = none := by
    apply greatest?_eq_none.mpr
    rw [List.eq_nil_iff_forall_not_mem]
    intro r hr
    obtain ⟨k, x, hx, -⟩ := mem_candidateRows.mp hr
    exact hnone r.id x hx
  have hrank := Submissions.gives_rank (a := a) (w := none) ha h.complete_store h.integrity_store
    (by rw [htop]; rfl)
  rw [Book.topSubmission, (bind_of_gives hrank).1]
  rfl

theorem topSubmission_eq {id k : Int} {x : Submission} (ha : a.fault? = none)
    (hr : ranking.topRow? u e h.store = some (Submissions.rowOf id k x))
    (hk : h.store.Holds id k x) :
    (Book.topSubmission ranking u e a h.store).result =
      (Instant.ofStored x.time.toMillis).map fun time =>
        some ⟨id, { u with id := k }, e, time, x.gradesFor e.size⟩ := by
  have hrank := Submissions.gives_rank (a := a) (w := some ⟨id, k, x.time.toMillis⟩) ha
    h.complete_store h.integrity_store (by rw [hr]; rfl)
  obtain ⟨read, hread, hplace⟩ := placeGrades_eq hk.grades e.size
  have hgrades : Gives (Submissions.gradesOf id e.size) a h.store read h.store :=
    Submissions.gives_gradesOf ha (h.complete_store .submission) (h.complete_store .grade)
      ⟨_, hk.row, rfl⟩ hread
  rw [Book.topSubmission, (bind_of_gives hrank).1]
  dsimp only
  rw [(bind_of_gives hgrades).1, ← hplace]
  cases Instant.ofStored x.time.toMillis <;> rfl

/-- Through an open connection, the answer is none if there is no candidate. Else it is the
candidate on top, with the user's id in the store, with its time cut to the millisecond and with its
grades laid out for the exercise that was asked for. Only a leap second can fail to be told. The
total that candidates are ranked by is what their grades add up to. -/
theorem topSubmission_store (h : History) (ranking : Ranking) (u : User) (e : Exercise)
    (a : Access) (ha : a.fault? = none) :
    (((∀ id x, ¬ h.IsCandidate u e id x) ∧
        (Book.topSubmission ranking u e a h.store).result = .ok none) ∨
      ∃ id x k, h.IsTop ranking u e id x ∧
        (Users.idOf u.username a h.store).result = .ok (some k) ∧
        (∀ time, Instant.ofMillis? x.time.toMillis = some time →
          time.IsCutOf x.time ∧ (x.gradesFor e.size).length = e.size ∧
            (Book.topSubmission ranking u e a h.store).result =
              .ok (some ⟨id, { u with id := k }, e, time, x.gradesFor e.size⟩)) ∧
        (Instant.ofMillis? x.time.toMillis = none →
          x.time.isLeap ∧ (Book.topSubmission ranking u e a h.store).result =
            .error (.corrupt (.timestamp x.time.toMillis)))) ∧
    ∀ id x, h.IsCandidate u e id x →
      (x.SumsExactly → unitsOf x.keptTotal = (x.grades.map keptUnits).sum) ∧
      ((∀ g ∈ x.grades, g.isNaN) → x.keptTotal = 0) := by
  refine ⟨?_, fun _ x _ => ⟨fun hexact => hexact.units_keptTotal, Submission.keptTotal_of_isNaN⟩⟩
  cases hr : ranking.topRow? u e h.store with
  | none =>
      have hnone : ∀ id x, ¬ h.IsCandidate u e id x := by
        intro id x hx
        obtain ⟨k, hk⟩ := h.holds_of_current? hx.current
        have hmem : Submissions.rowOf id k x ∈ h.store.candidateRows u e :=
          mem_candidateRows.mpr ⟨k, x, hx, hk, rfl⟩
        rw [greatest?_eq_none.mp hr] at hmem
        cases hmem
      exact .inl ⟨hnone, topSubmission_eq_none ha hnone⟩
  | some r =>
      obtain ⟨k, x, htop, hk, hrow⟩ := isTop_of_topRow? hr
      rw [hrow] at hr
      have hresult := topSubmission_eq ha hr hk
      rw [Instant.ofStored] at hresult
      refine .inr ⟨r.id, x, k, htop, (gives_idOf_of_holds ha htop.candidate hk).1, ?_, ?_⟩
      · intro time htime
        rw [htime] at hresult
        exact ⟨Instant.isCutOf_of_ofMillis? htime, x.length_gradesFor e.size, hresult⟩
      · intro htime
        rw [htime] at hresult
        exact ⟨Instant.isLeap_of_ofMillis?_eq_none htime, hresult⟩

def ann : User := ⟨noId, "ann", "Ann", "Lee"⟩

def sums : Exercise where
  id := 7
  name := "Sums"
  due := .inFirstHour 0 0
  questions := [⟨"1 + 1", "", 1⟩, ⟨"1 + 2", "", 2⟩]

/-- Two submissions of one user and one of another. The first is graded anew, with a NaN, and a
fourth is turned away because it lacks a grade. The first has the greatest grade of all, but the
second has more in sum. -/
def gradedAnew : History :=
  let late := Instant.inFirstHour 60 1500000
  let early := Instant.inFirstHour 30 0
  let submit (id : Int) (u : User) (t : Instant) (grades : List Float) : Move :=
    .request .readWrite (.submit ⟨id, u, sums, t, grades⟩)
  [submit noId ann late [1.0, 1.0], submit noId ann early [0.5, 0.5],
    submit 1 ann late [0.75, 0.0 / 0.0], submit noId { ann with username := "bob" } late [1.0, 1.0],
    submit 2 ann late [1.0]].foldl .next .fresh

def topId? (ranking : Ranking) : Option Int :=
  (Book.topSubmission ranking ann sums .readWrite gradedAnew.store).result.toOption.join.map (·.id)

theorem sumsExactly_halves {x : Submission} (hx : x.grades = [0.5, 0.5]) : x.SumsExactly where
  finite := by
    rw [hx]
    decide +kernel
  isFloat n := by
    rw [Submission.shownUnits, hx]
    rcases n with _ | _ | n
    · exact ⟨0, by decide +kernel, by decide +kernel⟩
    · exact ⟨0.5, by decide +kernel, by decide +kernel⟩
    · rw [List.take_of_length_le (by simp)]
      exact ⟨1, by decide +kernel, by decide +kernel⟩

theorem topSubmission_gradedAnew :
    Access.readWrite.fault? = none ∧ topId? .latest = some 1 ∧ topId? .best = some 2 ∧
      ∃ x, gradedAnew.IsTop .best ann sums 2 x ∧ x.grades = [0.5, 0.5] ∧
        unitsOf x.keptTotal = unitsOf 0.5 + unitsOf 0.5 := by
  have hbest : topId? .best = some 2 := by decide +kernel
  refine ⟨rfl, by decide +kernel, hbest, ?_⟩
  obtain ⟨hanswer, htotal⟩ := gradedAnew.topSubmission_store .best ann sums .readWrite rfl
  rcases hanswer with ⟨-, hnone⟩ | ⟨id, x, k, htop, -, htime, hlost⟩
  · rw [topId?, hnone] at hbest
    cases hbest
  · have hid : id = 2 := by
      cases ht : Instant.ofMillis? x.time.toMillis with
      | none =>
          rw [topId?, (hlost ht).2] at hbest
          cases hbest
      | some time =>
          rw [topId?, (htime time ht).2.2] at hbest
          exact Option.some.inj hbest
    subst hid
    have hcurrent : (gradedAnew.current? 2).map (·.grades) = some [0.5, 0.5] := by rfl
    rw [htop.candidate.current] at hcurrent
    have hgrades : x.grades = [0.5, 0.5] := Option.some.inj hcurrent
    refine ⟨x, htop, hgrades, ?_⟩
    rw [(htotal 2 x htop.candidate).1 (sumsExactly_halves hgrades), hgrades]
    decide +kernel

end History

end Markbook
