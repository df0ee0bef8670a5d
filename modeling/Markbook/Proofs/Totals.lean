import Markbook.Proofs.ReadBack

namespace Markbook

open Store

namespace Submission

variable {x : Submission}

/-- The units of the grades beyond the first `n` questions. -/
def hiddenUnits (x : Submission) (n : Nat) : Int :=
  ((x.grades.drop n).map keptUnits).sum

theorem shownUnits_add_hiddenUnits (x : Submission) (n : Nat) :
    x.shownUnits n + x.hiddenUnits n = (x.grades.map keptUnits).sum := by
  rw [shownUnits, hiddenUnits, ← List.sum_append, ← List.map_append, List.take_append_drop]

theorem hiddenUnits_eq_zero {n : Nat} (h : x.grades.length ≤ n) : x.hiddenUnits n = 0 := by
  rw [hiddenUnits, List.drop_eq_nil_of_le h]
  rfl

theorem gradesFor_eq (x : Submission) (n : Nat) :
    x.gradesFor n = (x.grades.take n ++ List.replicate (n - x.grades.length) 0).map
      fun g => (keptGrade? g).getD 0 := by
  have hzero : (keptGrade? 0).getD 0 = 0 := by rfl
  rw [gradesFor, List.map_append, List.map_replicate, hzero]

theorem sum_zeros (j : Nat) : ((List.replicate j 0).map keptUnits).sum = 0 := by
  have hzero : keptUnits 0 = 0 := by decide
  simp [hzero]

theorem SumsExactly.units_gradeSum (h : x.SumsExactly) {y : Submission} {n : Nat}
    (hy : y.grades = x.gradesFor n) :
    y.gradeSum.isFinite ∧ unitsOf y.gradeSum = x.shownUnits n := by
  have hshown : x.shownUnits n =
      0 + ((x.grades.take n ++ List.replicate (n - x.grades.length) 0).map keptUnits).sum := by
    rw [List.map_append, List.sum_append, sum_zeros, add_zero, zero_add, shownUnits]
  rw [gradeSum, hy, gradesFor_eq, List.foldl_map, hshown]
  have hstart : (-0.0 : Float).isFinite ∧ unitsOf (-0.0) = 0 := ⟨by decide, by decide⟩
  refine foldl_exact (fun t n => t.isFinite ∧ unitsOf t = n) ?_ hstart ?_
  · rintro t n g hg ⟨ht, rfl⟩ hexact
    have hinf : g.isInf = false := by
      rcases List.mem_append.mp hg with hg | hg
      · exact h.finite g (List.mem_of_mem_take hg)
      · rw [List.eq_of_mem_replicate hg]
        decide
    exact units_add ht (isFinite_kept hinf) hexact
  · intro k
    rw [zero_add, List.take_append, List.take_replicate, List.take_take, List.map_append,
      List.sum_append, sum_zeros, add_zero]
    exact h.isFloat (min k n)

end Submission

namespace History

variable {h : History} {a : Access} {u : User} {e : Exercise} {b l : Submission}

/-- The best submission, as it is shown for any exercise, is worth no less than the latest one, but
for the grades that are not shown; if all grades of both are shown, it is worth no less. -/
theorem bestSubmission_not_lt (h : History) (a : Access) (u : User) (e : Exercise)
    (hexact : ∀ id x, h.IsCandidate u e id x → x.SumsExactly)
    (hb : (Book.bestSubmission u e a h.store).result = .ok (some b))
    (hl : (Book.latestSubmission u e a h.store).result = .ok (some l)) :
    ∃ x y, h.IsTop .best u e b.id x ∧ h.IsTop .latest u e l.id y ∧
      unitsOf l.gradeSum + y.hiddenUnits e.size ≤ unitsOf b.gradeSum + x.hiddenUnits e.size ∧
      (x.grades.length ≤ e.size → y.grades.length ≤ e.size → ¬ b.gradeSum < l.gradeSum) := by
  obtain ⟨x, hx, hbx⟩ := exists_isTop_of_topSubmission hb
  obtain ⟨y, hy, hly⟩ := exists_isTop_of_topSubmission hl
  have hxe := hexact _ _ hx.candidate
  have hye := hexact _ _ hy.candidate
  obtain ⟨hbfinite, hbunits⟩ := hxe.units_gradeSum hbx
  obtain ⟨hlfinite, hlunits⟩ := hye.units_gradeSum hly
  have htotal : (y.grades.map keptUnits).sum ≤ (x.grades.map keptUnits).sum := by
    rw [← hxe.units_keptTotal, ← hye.units_keptTotal]
    rcases Prod.Lex.toLex_le_toLex.mp (hx.greatest _ _ hy.candidate) with hlt | ⟨heq, -⟩
    · exact hlt.le
    · exact heq.le
  have hle : unitsOf l.gradeSum + y.hiddenUnits e.size ≤
      unitsOf b.gradeSum + x.hiddenUnits e.size := by
    rwa [hbunits, hlunits, Submission.shownUnits_add_hiddenUnits,
      Submission.shownUnits_add_hiddenUnits]
  refine ⟨x, y, hx, hy, hle, ?_⟩
  intro hxall hyall
  rw [Submission.hiddenUnits_eq_zero hxall, Submission.hiddenUnits_eq_zero hyall] at hle
  rw [lt_iff_units hbfinite hlfinite]
  omega

/-- Two submissions with whole grades: ten for the second question, and later five for the first. -/
def tenThenFive : History :=
  let early := Time.Instant.inFirstHour 30 0
  let late := Time.Instant.inFirstHour 60 0
  let submit (t : Time.Instant) (grades : List Float) : Move :=
    .request .readWrite (.submit ⟨noId, ann, sums, t, grades⟩)
  [submit early [0, 10], submit late [5, 0]].foldl .next .fresh

theorem sumsExactly_tenThenFive (id : Int) (x : Submission)
    (hx : tenThenFive.IsCandidate u e id x) : x.SumsExactly := by
  have hall : ∀ v ∈ tenThenFive.versions, (∀ g ∈ v.2.grades, g.isInf = false) ∧
      (∀ g ∈ v.2.grades, unitsPerOne ∣ keptUnits g) ∧
      (v.2.grades.map fun g => (keptUnits g / unitsPerOne).natAbs).sum ≤ 2 ^ 53 := by
    decide +kernel
  obtain ⟨before, after, heq, -⟩ := List.lookup_eq_some_iff.mp hx.current
  obtain ⟨hfinite, hwhole, hsmall⟩ := hall (id, x) (by simp [heq])
  exact Submission.sumsExactly_of_whole hfinite hwhole hsmall

def shown? (ranking : Ranking) (e : Exercise) : Option Submission :=
  (Book.topSubmission ranking ann e .readWrite tenThenFive.store).result.toOption.join

theorem topSubmission_of_mem_shown? {ranking : Ranking} (hb : b ∈ shown? ranking e) :
    (Book.topSubmission ranking ann e .readWrite tenThenFive.store).result = .ok (some b) := by
  rw [shown?] at hb
  cases hr : (Book.topSubmission ranking ann e .readWrite tenThenFive.store).result with
  | error fault => simp [hr, Except.toOption] at hb
  | ok o =>
      rw [hr] at hb
      exact congrArg Except.ok hb

theorem bestSubmission_not_lt_tenThenFive :
    (∀ id x, tenThenFive.IsCandidate ann sums id x → x.SumsExactly) ∧
      ∃ b l, (Book.bestSubmission ann sums .readWrite tenThenFive.store).result = .ok (some b) ∧
        (Book.latestSubmission ann sums .readWrite tenThenFive.store).result = .ok (some l) ∧
        b.id = 1 ∧ l.id = 2 ∧
        ∃ x y, tenThenFive.IsTop .best ann sums b.id x ∧ tenThenFive.IsTop .latest ann sums l.id y ∧
          unitsOf l.gradeSum + y.hiddenUnits sums.size ≤
            unitsOf b.gradeSum + x.hiddenUnits sums.size ∧
          (x.grades.length ≤ sums.size → y.grades.length ≤ sums.size →
            ¬ b.gradeSum < l.gradeSum) := by
  have hshown : ∃ b ∈ shown? .best sums, ∃ l ∈ shown? .latest sums, b.id = 1 ∧ l.id = 2 := by
    decide +kernel
  obtain ⟨b, hb, l, hl, hbid, hlid⟩ := hshown
  replace hb := topSubmission_of_mem_shown? hb
  replace hl := topSubmission_of_mem_shown? hl
  exact ⟨sumsExactly_tenThenFive, b, l, hb, hl, hbid, hlid,
    bestSubmission_not_lt tenThenFive .readWrite ann sums sumsExactly_tenThenFive hb hl⟩

def firstSum : Exercise :=
  { sums with questions := sums.questions.take 1 }

/-- Asked about the first question alone, the store still names the submission with ten points for
the second one, of which nothing is shown. -/
theorem bestSubmission_lt_latestSubmission :
    (∀ id x, tenThenFive.IsCandidate ann firstSum id x → x.SumsExactly) ∧
      ∃ b l, (Book.bestSubmission ann firstSum .readWrite tenThenFive.store).result = .ok (some b) ∧
        (Book.latestSubmission ann firstSum .readWrite tenThenFive.store).result = .ok (some l) ∧
        b.gradeSum < l.gradeSum := by
  have hshown : ∃ b ∈ shown? .best firstSum, ∃ l ∈ shown? .latest firstSum,
      b.gradeSum < l.gradeSum := by
    decide +kernel
  obtain ⟨b, hb, l, hl, hlt⟩ := hshown
  exact ⟨sumsExactly_tenThenFive, b, l, topSubmission_of_mem_shown? hb,
    topSubmission_of_mem_shown? hl, hlt⟩

end History

end Markbook
