import Markbook.Proofs.Joins
import Mathlib.Data.List.Induction

namespace Markbook

open Store

/-- What a store keeps of a grade: no NaN and no negative zero. -/
def keptGrade? (g : Float) : Option Float :=
  if g.isNaN then none else some (if unitsOf g = 0 then 0 else g)

theorem ofReal_eq (g : Float) : Cell.ofReal g = ((keptGrade? g).map Cell.real).getD .null := by
  rw [Cell.ofReal, keptGrade?]
  split
  · rfl
  · split <;> rfl

namespace Submission

/-- The grades of a submission as a store gives them back for `n` questions: a grade where the
submission has one, and 0 elsewhere. -/
def gradesFor (x : Submission) (n : Nat) : List Float :=
  (x.grades.take n).map (fun g => (keptGrade? g).getD 0) ++ List.replicate (n - x.grades.length) 0

theorem length_gradesFor (x : Submission) (n : Nat) : (x.gradesFor n).length = n := by
  simp only [gradesFor, List.length_append, List.length_map, List.length_take,
    List.length_replicate]
  omega

/-- The sum of the grades of a submission as a store adds them up, or 0 if there is nothing to
add. -/
def keptTotal (x : Submission) : Float :=
  (sumCells? (x.grades.map Cell.ofReal)).getD 0

end Submission

section

variable {α : Type}

theorem numbered_append_singleton (xs : List α) (x : α) :
    numbered (xs ++ [x]) = numbered xs ++ [(firstQuestion + xs.length, x)] := by
  simp [numbered, List.zipIdx_append]

theorem take_numbered (xs : List α) (n : Nat) : (numbered xs).take n = numbered (xs.take n) := by
  apply List.ext_getElem
  · simp [numbered]
  · intro i hi _
    simp [numbered]

end

def readOf (x : Int × Float) : ReadGrade :=
  ⟨x.1, keptGrade? x.2⟩

theorem Submissions.readGradeRow_gradeRowOf (id : Int) (x : Int × Float) :
    readGradeRow (gradeRowOf id x) = .ok (readOf x) := by
  have hgrade : (Cell.ofReal x.2).readGrade "grade" = .ok (keptGrade? x.2) := by
    rw [ofReal_eq]
    cases keptGrade? x.2 <;> rfl
  change (do return ⟨x.1, ← (Cell.ofReal x.2).readGrade "grade"⟩ : Except StoreError ReadGrade) = _
  rw [hgrade]
  rfl

theorem placeGrade_readOf (grades : List Float) (k : Nat) (g : Float) :
    placeGrade grades (readOf (firstQuestion + k, g)) = grades.set k ((keptGrade? g).getD 0) := by
  have hfirst : ¬ firstQuestion + (k : Int) < firstQuestion := by omega
  have hindex : (firstQuestion + k - firstQuestion : Int).toNat = k := by omega
  change (if firstQuestion + (k : Int) < firstQuestion then grades
    else grades.set (firstQuestion + k - firstQuestion : Int).toNat ((keptGrade? g).getD 0)) = _
  rw [if_neg hfirst, hindex]

theorem placeGrades_numbered {grades : List Float} {n : Nat} (h : grades.length ≤ n) :
    placeGrades ((numbered grades).map readOf) n =
      grades.map (fun g => (keptGrade? g).getD 0) ++ List.replicate (n - grades.length) 0 := by
  induction grades using List.reverseRecOn with
  | nil => simp [placeGrades, numbered]
  | append_singleton grades g ih =>
      rw [List.length_append, List.length_singleton] at h
      obtain ⟨m, rfl⟩ := Nat.exists_eq_add_of_le h
      have hplace : placeGrades ((numbered (grades ++ [g])).map readOf) (grades.length + 1 + m) =
          placeGrade (placeGrades ((numbered grades).map readOf) (grades.length + 1 + m))
            (readOf (firstQuestion + grades.length, g)) := by
        simp [placeGrades, numbered_append_singleton]
      have hzeros : grades.length + 1 + m - grades.length = m + 1 := by omega
      rw [hplace, ih (by omega), placeGrade_readOf, hzeros, List.set_append_right _ _ (by simp)]
      simp [List.replicate_succ]

section

variable {rows : List GradeRow} {id : Int} {x : Submission}

theorem gradeRowsOf_eq (h : rows.filter (Submissions.belongsTo id) =
    (numbered x.grades).map (Submissions.gradeRowOf id)) :
    gradeRowsOf id rows = (numbered x.grades).map (Submissions.gradeRowOf id) := by
  rw [gradeRowsOf, show rows.filter (·.submission.same (.int id)) = _ from h]
  apply arrange_of_pairwise
  rw [List.pairwise_map]
  refine (pairwise_numbered x.grades).imp ?_
  intro y z hyz
  exact decide_eq_true hyz.le

theorem rankedTotal_eq {r : SubmissionRow} (h : rows.filter (Submissions.belongsTo r.id) =
    (numbered x.grades).map (Submissions.gradeRowOf r.id)) : rankedTotal rows r = x.keptTotal := by
  have hcells : ((numbered x.grades).map (Submissions.gradeRowOf r.id)).map (·.grade) =
      x.grades.map Cell.ofReal := by
    apply List.ext_getElem
    · simp [numbered]
    · intro i hi _
      simp [numbered, Submissions.gradeRowOf]
  rw [rankedTotal, gradeRowsOf_eq h, hcells, Submission.keptTotal]

theorem placeGrades_eq (h : rows.filter (Submissions.belongsTo id) =
    (numbered x.grades).map (Submissions.gradeRowOf id)) (n : Nat) :
    ∃ read, ((gradeRowsOf id rows).take n).mapM Submissions.readGradeRow = .ok read ∧
      placeGrades read n = x.gradesFor n := by
  refine ⟨(numbered (x.grades.take n)).map readOf, ?_, ?_⟩
  · rw [gradeRowsOf_eq h, ← List.map_take, take_numbered,
      mapM_map_of_ok (Submissions.readGradeRow_gradeRowOf id)]
  · rw [placeGrades_numbered (List.length_take_le n x.grades), Submission.gradesFor]
    congr 2
    rw [List.length_take]
    omega

end

end Markbook
