import Markbook.Proofs.Standing

namespace Markbook

open Store Work

/-- The grades for `n` questions: at each place what is stored for its question, and 0 where
nothing is. -/
structure LaidOut (stored : List ReadGrade) (n : Nat) (grades : List Float) : Prop where
  length : grades.length = n
  graded : ∀ g ∈ stored, ∀ i < n, g.question = firstQuestion + i →
    grades[i]? = some (g.grade.getD 0)
  ungraded : ∀ i < n, (∀ g ∈ stored, g.question ≠ firstQuestion + i) → grades[i]? = some 0

section

variable {stored stored' : List ReadGrade} {n : Nat} {grades grades' : List Float}

theorem LaidOut.of_perm (h : LaidOut stored n grades) (hperm : stored.Perm stored') :
    LaidOut stored' n grades where
  length := h.length
  graded g hg := h.graded g (hperm.mem_iff.mpr hg)
  ungraded i hi hnone := h.ungraded i hi fun g hg => hnone g (hperm.mem_iff.mp hg)

theorem LaidOut.eq (h : LaidOut stored n grades) (h' : LaidOut stored n grades') :
    grades = grades' := by
  apply List.ext_getElem?
  intro i
  by_cases hi : i < n
  · by_cases hg : ∃ g ∈ stored, g.question = firstQuestion + i
    · obtain ⟨g, hg, hquestion⟩ := hg
      rw [h.graded g hg i hi hquestion, h'.graded g hg i hi hquestion]
    · have hnone : ∀ g ∈ stored, g.question ≠ firstQuestion + i := by simpa using hg
      rw [h.ungraded i hi hnone, h'.ungraded i hi hnone]
  · rw [List.getElem?_eq_none (by rw [h.length]; omega),
      List.getElem?_eq_none (by rw [h'.length]; omega)]

end

section

variable {rows more : List ReadGrade} {g : ReadGrade} {grades : List Float} {n i : Nat}

theorem length_placeGrade : (placeGrade grades g).length = grades.length := by
  rw [placeGrade]
  split <;> simp

theorem getElem?_placeGrade (hi : i < grades.length) :
    (placeGrade grades g)[i]? =
      if g.question = firstQuestion + i then some (g.grade.getD 0) else grades[i]? := by
  rw [placeGrade]
  by_cases hbefore : g.question < firstQuestion
  · rw [if_pos hbefore, if_neg (by omega)]
  · rw [if_neg hbefore, List.getElem?_set]
    by_cases hplace : g.question = firstQuestion + i
    · rw [if_pos (by omega), if_pos (by omega), if_pos hplace]
    · rw [if_neg (by omega), if_neg hplace]

theorem placeGrade_of_beyond (h : firstQuestion + grades.length ≤ g.question) :
    placeGrade grades g = grades := by
  rw [placeGrade, if_neg (by omega)]
  apply List.set_eq_of_length_le
  omega

theorem placeGrades_concat :
    placeGrades (rows ++ [g]) n = placeGrade (placeGrades rows n) g := by
  simp [placeGrades]

theorem length_placeGrades : (placeGrades rows n).length = n := by
  induction rows using List.reverseRecOn with
  | nil => simp [placeGrades]
  | append_singleton rows g ih => rw [placeGrades_concat, length_placeGrade, ih]

theorem getElem?_placeGrades_append (hi : i < n)
    (h : ∀ g ∈ more, g.question ≠ firstQuestion + i) :
    (placeGrades (rows ++ more) n)[i]? = (placeGrades rows n)[i]? := by
  induction more using List.reverseRecOn with
  | nil => rw [List.append_nil]
  | append_singleton more g ih =>
      have hg := h g (List.mem_append_right _ (List.mem_singleton_self g))
      rw [← List.append_assoc, placeGrades_concat,
        getElem?_placeGrade (by rwa [length_placeGrades]), if_neg hg]
      exact ih fun r hr => h r (List.mem_append_left _ hr)

theorem getElem?_placeGrades_of_last {before after : List ReadGrade} (hi : i < n)
    (hg : g.question = firstQuestion + i) (hafter : ∀ r ∈ after, r.question ≠ firstQuestion + i) :
    (placeGrades (before ++ g :: after) n)[i]? = some (g.grade.getD 0) := by
  rw [List.append_cons, getElem?_placeGrades_append hi hafter, placeGrades_concat,
    getElem?_placeGrade (by rwa [length_placeGrades]), if_pos hg]

theorem getElem?_placeGrades_of_none (hi : i < n)
    (h : ∀ g ∈ rows, g.question ≠ firstQuestion + i) : (placeGrades rows n)[i]? = some 0 := by
  have hrows : (placeGrades ([] ++ rows) n)[i]? = (placeGrades [] n)[i]? :=
    getElem?_placeGrades_append hi h
  rw [List.nil_append] at hrows
  rw [hrows, placeGrades, List.foldl_nil, List.getElem?_replicate_of_lt hi]

theorem placeGrade_of_outside
    (h : g.question < firstQuestion ∨ firstQuestion + grades.length ≤ g.question) :
    placeGrade grades g = grades := by
  rcases h with hbefore | hbeyond
  · rw [placeGrade, if_pos hbefore]
  · exact placeGrade_of_beyond hbeyond

theorem placeGrades_filter :
    placeGrades (rows.filter fun g => 1 ≤ g.question ∧ g.question ≤ n) n = placeGrades rows n := by
  induction rows using List.reverseRecOn with
  | nil => rfl
  | append_singleton rows g ih =>
      rw [List.filter_append, List.filter_singleton, placeGrades_concat]
      by_cases hg : 1 ≤ g.question ∧ g.question ≤ n
      · rw [decide_eq_true hg, cond_true, placeGrades_concat, ih]
      · rw [decide_eq_false hg, cond_false, List.append_nil, ih, placeGrade_of_outside]
        rw [length_placeGrades, firstQuestion]
        omega

theorem laidOut_placeGrades (h : (rows.map (·.question)).Nodup) :
    LaidOut rows n (placeGrades rows n) := by
  refine ⟨length_placeGrades, ?_, fun i hi => getElem?_placeGrades_of_none hi⟩
  intro g hg i hi hquestion
  obtain ⟨before, after, rfl⟩ := List.append_of_mem hg
  rw [List.map_append, List.map_cons, List.nodup_append] at h
  obtain ⟨hnew, -⟩ := List.nodup_cons.mp h.2.1
  apply getElem?_placeGrades_of_last hi hquestion
  intro r hr hsame
  exact hnew (List.mem_map.mpr ⟨r, hr, hsame.trans hquestion.symm⟩)

theorem placeGrades_append_of_beyond (h : ∀ g ∈ more, firstQuestion + n ≤ g.question) :
    placeGrades (rows ++ more) n = placeGrades rows n := by
  induction more using List.reverseRecOn with
  | nil => rw [List.append_nil]
  | append_singleton more g ih =>
      rw [← List.append_assoc, placeGrades_concat, placeGrade_of_beyond,
        ih fun r hr => h r (List.mem_append_left _ hr)]
      rw [length_placeGrades]
      exact h g (List.mem_append_right _ (List.mem_singleton_self g))

/-- In ascending order no number comes before its turn. -/
theorem le_question (hfirst : ∀ g ∈ rows, firstQuestion ≤ g.question)
    (hrows : rows.Pairwise fun x y => x.question < y.question) (hi : i < rows.length) :
    firstQuestion + i ≤ rows[i].question := by
  induction i with
  | zero => simpa using hfirst rows[0] (List.getElem_mem hi)
  | succ i ih =>
      have hprevious := ih (by omega)
      have hlt := List.pairwise_iff_getElem.mp hrows i (i + 1) (by omega) hi (by omega)
      omega

theorem placeGrades_take (hfirst : ∀ g ∈ rows, firstQuestion ≤ g.question)
    (hrows : rows.Pairwise fun x y => x.question < y.question) :
    placeGrades (rows.take n) n = placeGrades rows n := by
  have hrest : ∀ g ∈ rows.drop n, firstQuestion + n ≤ g.question := by
    intro g hg
    obtain ⟨j, hj, rfl⟩ := List.mem_drop_iff_getElem.mp hg
    have hle := le_question hfirst hrows (i := n + j) (by omega)
    omega
  calc placeGrades (rows.take n) n
    _ = placeGrades (rows.take n ++ rows.drop n) n := (placeGrades_append_of_beyond hrest).symm
    _ = placeGrades rows n := by rw [List.take_append_drop]

end

/-- Whatever rows there are, and in whatever order: there are as many grades as questions, each
question has the last grade with its number, or 0 if that is missing, and 0 if no row has its
number; the rows that have no question's number might as well not be there. -/
theorem placeGrades_spec (rows : List ReadGrade) (n : Nat) :
    (placeGrades rows n).length = n ∧
      (∀ i < n, ∀ (before : List ReadGrade) (g : ReadGrade) (after : List ReadGrade),
        rows = before ++ g :: after → g.question = i + 1 → (∀ r ∈ after, r.question ≠ i + 1) →
          (placeGrades rows n)[i]? = some (g.grade.getD 0)) ∧
      (∀ i < n, (∀ r ∈ rows, r.question ≠ i + 1) → (placeGrades rows n)[i]? = some 0) ∧
      placeGrades (rows.filter fun r => 1 ≤ r.question ∧ r.question ≤ n) n =
        placeGrades rows n := by
  have hnumber (i : Nat) : (i + 1 : Int) = firstQuestion + i := Int.add_comm i 1
  refine ⟨length_placeGrades, ?_, ?_, placeGrades_filter⟩
  · rintro i hi before g after rfl hg hafter
    rw [hnumber] at hg hafter
    exact getElem?_placeGrades_of_last hi hg hafter
  · intro i hi hnone
    rw [hnumber] at hnone
    exact getElem?_placeGrades_of_none hi hnone

/-- Rows in no order: a question twice, one whose grade is missing the second time, and numbers that
no question has, the least and the greatest among them. -/
def strewnGrades : List ReadGrade :=
  [⟨2, some 5⟩, ⟨-9223372036854775808, some 1⟩, ⟨1, some 3⟩, ⟨0, some 7⟩, ⟨2, none⟩,
    ⟨9223372036854775807, some 6⟩, ⟨1, some 4⟩, ⟨-1, some 2⟩, ⟨4, none⟩]

theorem placeGrades_spec_strewn :
    (placeGrades strewnGrades 3).length = 3 ∧
      (placeGrades strewnGrades 3)[0]? = some 4 ∧
      (placeGrades strewnGrades 3)[1]? = some 0 ∧
      (placeGrades strewnGrades 3)[2]? = some 0 := by
  obtain ⟨hlength, hlast, hnone, -⟩ := placeGrades_spec strewnGrades 3
  refine ⟨hlength, ?_, ?_, ?_⟩
  · exact hlast 0 (by decide) (strewnGrades.take 6) ⟨1, some 4⟩ (strewnGrades.drop 7) rfl rfl
      (by simp [strewnGrades])
  · exact hlast 1 (by decide) (strewnGrades.take 4) ⟨2, none⟩ (strewnGrades.drop 5) rfl rfl
      (by simp [strewnGrades])
  · exact hnone 2 (by decide) (by simp [strewnGrades])

namespace Submissions

def storedAs (id : Int) (g : ReadGrade) : GradeRow :=
  ⟨.int id, .int g.question, (g.grade.map Cell.real).getD .null⟩

theorem readGradeRow_storedAs (id : Int) (g : ReadGrade) :
    readGradeRow (storedAs id g) = .ok g := by
  rcases g with ⟨question, grade⟩
  cases grade <;> rfl

end Submissions

namespace Store

/-- The submission is there and has these grades and no others, numbered from the first question
on, with no number twice. Other rows may stand between them. -/
structure HoldsGrades (s : Store) (id : Int) (stored : List ReadGrade) : Prop where
  table : (s.table .submission).isSome
  gradeTable : (s.table .grade).isSome
  submission : ∃ r ∈ s.rows .submission, r.id = id
  rows : (s.rows .grade).filter (Submissions.belongsTo id) = stored.map (Submissions.storedAs id)
  numbers : (stored.map (·.question)).Nodup
  first : ∀ g ∈ stored, firstQuestion ≤ g.question

variable {s : Store} {id : Int} {stored : List ReadGrade} {a : Access}

theorem HoldsGrades.exists_gradeRowsOf (h : s.HoldsGrades id stored) :
    ∃ ordered : List ReadGrade, ordered.Perm stored ∧
      (ordered.Pairwise fun x y => x.question < y.question) ∧
      gradeRowsOf id (s.rows .grade) = ordered.map (Submissions.storedAs id) := by
  rw [gradeRowsOf, show (s.rows .grade).filter (·.submission.same (.int id)) = _ from h.rows]
  refine exists_arrange_map ?_ h.numbers
  intro x y
  exact decide_eq_true_iff

theorem HoldsGrades.gives_gradesOf (h : s.HoldsGrades id stored) (ha : a.fault? = none) :
    ∃ ordered : List ReadGrade, ordered.Perm stored ∧
      (ordered.Pairwise fun x y => x.question < y.question) ∧
      ∀ n, Gives (Submissions.gradesOf id n) a s (ordered.take n) s := by
  obtain ⟨ordered, hperm, hordered, hrows⟩ := h.exists_gradeRowsOf
  refine ⟨ordered, hperm, hordered, fun n => ?_⟩
  apply Submissions.gives_gradesOf ha h.table h.gradeTable h.submission
  rw [hrows, ← List.map_take, mapM_map_of_ok (Submissions.readGradeRow_storedAs id), List.map_id']

end Store

namespace Book

variable {s : Store} {a : Access} {u : User} {e : Exercise} {ranking : Ranking} {y : Submission}

theorem exists_gradesOf_of_topSubmission
    (h : (topSubmission ranking u e a s).result = .ok (some y)) :
    ∃ read, (Submissions.gradesOf y.id e.size a s).result = .ok read ∧
      y.grades = placeGrades read e.size := by
  obtain ⟨winner, s₁, hrank, h⟩ := gives_bind.mp ⟨h, rfl⟩
  obtain ⟨-, -, rfl⟩ := gives_read.mp hrank
  cases winner with
  | none =>
      obtain ⟨_, s₂, -, h⟩ := gives_bind.mp h
      cases (gives_pure.mp h).1
  | some winner =>
      obtain ⟨read, s₂, hread, h⟩ := gives_bind.mp h
      obtain ⟨time, s₃, -, h⟩ := gives_bind.mp h
      cases (gives_pure.mp h).1
      exact ⟨read, hread.1, rfl⟩

/-- Reading the first `n` grades in the order of their numbers is enough for `n` questions: laid
out, they give what all grades would give in any order, each question its grade or 0. So the grades
of a submission are shown in full. -/
theorem gradesOf_laidOut (s : Store) (id : Int) (stored : List ReadGrade)
    (h : s.HoldsGrades id stored) (a : Access) (ha : a.fault? = none) (n : Nat) :
    ∃ ordered : List ReadGrade, ordered.Perm stored ∧
      (ordered.Pairwise fun x y => x.question < y.question) ∧
      (Submissions.gradesOf id n a s).result = .ok (ordered.take n) ∧
      LaidOut stored n (placeGrades (ordered.take n) n) ∧
      (∀ all : List ReadGrade, all.Perm stored →
        placeGrades all n = placeGrades (ordered.take n) n) ∧
      ∀ ranking u e y, (topSubmission ranking u e a s).result = .ok (some y) → y.id = id →
        e.size = n → y.grades = placeGrades (ordered.take n) n := by
  obtain ⟨ordered, hperm, hordered, hread⟩ := h.gives_gradesOf ha
  have hfirst : ∀ g ∈ ordered, firstQuestion ≤ g.question :=
    fun g hg => h.first g (hperm.mem_iff.mp hg)
  have hall {all : List ReadGrade} (hall : all.Perm stored) :
      LaidOut stored n (placeGrades all n) := by
    have hnumbers : (all.map (·.question)).Nodup := (hall.map _).nodup_iff.mpr h.numbers
    exact (laidOut_placeGrades hnumbers).of_perm hall
  have hlaid : LaidOut stored n (placeGrades (ordered.take n) n) := by
    rw [placeGrades_take hfirst hordered]
    exact hall hperm
  refine ⟨ordered, hperm, hordered, (hread n).1, hlaid, fun all h => (hall h).eq hlaid, ?_⟩
  rintro ranking u e y hy rfl rfl
  obtain ⟨read, hresult, hgrades⟩ := exists_gradesOf_of_topSubmission hy
  rw [(hread e.size).1] at hresult
  cases hresult
  exact hgrades

def gappedGrades : List ReadGrade :=
  [⟨4, some 9⟩, ⟨1, some 2⟩, ⟨7, some 8⟩, ⟨3, none⟩]

/-- A submission with a gap among its grades, with one that is missing and with some that no
question is left for, out of order and behind one of another submission. -/
def gapped : Store :=
  let stray : GradeRow := ⟨.int 6, .int 2, .real 5⟩
  ((Store.fresh.withRows .user [⟨1, some "ann", none, none, none⟩]).withRows .submission
    [⟨5, .int 1, .int 7, .int 100⟩]).withRows .grade
    (stray :: gappedGrades.map (Submissions.storedAs 5))

theorem gradesOf_laidOut_gapped :
    gapped.HoldsGrades 5 gappedGrades ∧
      (∃ y, (topSubmission .latest History.ann History.sums .readWrite gapped).result =
        .ok (some y) ∧ y.grades = [2, 0]) ∧
      ∃ read, (Submissions.gradesOf 5 4 .readWrite gapped).result = .ok read ∧
        placeGrades read 4 = [2, 0, 0, 9] := by
  have hholds : gapped.HoldsGrades 5 gappedGrades :=
    ⟨rfl, rfl, ⟨_, .head _, rfl⟩, rfl, by simp [gappedGrades],
      by simp [gappedGrades, firstQuestion]⟩
  obtain ⟨_, hy, hsome⟩ : ∃ y, (topSubmission .latest History.ann History.sums .readWrite
      gapped).result = .ok y ∧ y.map (·.id) = some 5 := exists_ok_of_map (by decide +kernel)
  obtain ⟨y, rfl, hid⟩ := Option.map_eq_some_iff.mp hsome
  refine ⟨hholds, ⟨y, hy, ?_⟩, ?_⟩
  · obtain ⟨ordered, -, -, -, -, hall, htop⟩ := gradesOf_laidOut gapped 5 _ hholds .readWrite rfl 2
    exact (htop _ _ _ y hy hid rfl).trans (hall gappedGrades (.refl _)).symm
  · obtain ⟨ordered, -, -, hread, -, hall, -⟩ :=
      gradesOf_laidOut gapped 5 _ hholds .readWrite rfl 4
    exact ⟨_, hread, (hall gappedGrades (.refl _)).symm⟩

end Book

end Markbook
