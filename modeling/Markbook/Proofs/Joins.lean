import Markbook.Proofs.Keys

namespace Markbook

open Store

namespace Store

variable {α β : Type}

theorem greatest?_map {le : α → α → Bool} (f : β → α) (xs : List β) :
    greatest? le (xs.map f) = (greatest? (fun a b => le (f a) (f b)) xs).map f := by
  induction xs with
  | nil => rfl
  | cons x xs ih =>
      rw [List.map_cons, greatest?, greatest?, ih]
      cases greatest? (fun a b => le (f a) (f b)) xs with
      | none => rfl
      | some y =>
          simp only [Option.map_some]
          split <;> rfl

theorem fst_of_mem_beside {x : α} {ys : List β} {z : α × Option β} (h : z ∈ beside x ys) :
    z.1 = x := by
  cases ys with
  | nil =>
      obtain rfl := List.mem_singleton.mp h
      rfl
  | cons y ys =>
      rcases List.mem_cons.mp h with rfl | h
      · rfl
      · obtain ⟨_, -, rfl⟩ := List.mem_map.mp h
        rfl

theorem filter_leftJoin (p : α → Bool) (found : α → List β) (xs : List α) :
    (leftJoin found xs).filter (fun z => p z.1) = leftJoin found (xs.filter p) := by
  induction xs with
  | nil => rfl
  | cons x xs ih =>
      have hbeside : (beside x (found x)).filter (fun z => p z.1) =
          if p x then beside x (found x) else [] := by
        split
        next hp =>
            rw [List.filter_eq_self]
            intro z hz
            rwa [fst_of_mem_beside hz]
        next hp =>
            rw [List.filter_eq_nil_iff]
            intro z hz
            rwa [fst_of_mem_beside hz]
      rw [leftJoin, List.flatMap_cons, List.filter_append, hbeside, ← leftJoin, ih,
        List.filter_cons]
      split
      next => rfl
      next => rfl

def groupBeside (x : α) : List β → RowGroup (α × Option β)
  | [] => ⟨(x, none), []⟩
  | y :: ys => ⟨(x, some y), ys.map fun y => (x, some y)⟩

theorem members_groupBeside (x : α) (ys : List β) : (groupBeside x ys).members = beside x ys := by
  cases ys <;> rfl

@[simp]
theorem fst_first_groupBeside (x : α) (ys : List β) : (groupBeside x ys).first.1 = x := by
  cases ys <;> rfl

section

variable {same : α → α → Bool} {gs : List (RowGroup α)} {x y : α} {ys zs : List α}

theorem enterGroup_new (h : ∀ g ∈ gs, same g.first x = false) :
    enterGroup same gs x = gs ++ [⟨x, []⟩] := by
  induction gs with
  | nil => rfl
  | cons g gs ih =>
      have hg : ¬ same g.first x := by simp [h g List.mem_cons_self]
      rw [enterGroup, if_neg hg, ih fun g' hg' => h g' (List.mem_cons_of_mem g hg')]
      rfl

theorem enterGroup_last (h : ∀ g ∈ gs, same g.first x = false) (hy : same y x) :
    enterGroup same (gs ++ [⟨y, ys⟩]) x = gs ++ [⟨y, ys ++ [x]⟩] := by
  induction gs with
  | nil => simp [enterGroup, hy]
  | cons g gs ih =>
      have hg : ¬ same g.first x := by simp [h g List.mem_cons_self]
      rw [List.cons_append, enterGroup, if_neg hg,
        ih fun g' hg' => h g' (List.mem_cons_of_mem g hg')]
      rfl

theorem foldl_enterGroup_last (h : ∀ g ∈ gs, ∀ z ∈ zs, same g.first z = false)
    (hy : ∀ z ∈ zs, same y z) :
    zs.foldl (enterGroup same) (gs ++ [⟨y, ys⟩]) = gs ++ [⟨y, ys ++ zs⟩] := by
  induction zs generalizing ys with
  | nil => simp
  | cons z zs ih =>
      rw [List.foldl_cons, enterGroup_last (fun g hg => h g hg z List.mem_cons_self)
        (hy z List.mem_cons_self)]
      rw [ih (fun g hg z' hz' => h g hg z' (List.mem_cons_of_mem z hz'))
        fun z' hz' => hy z' (List.mem_cons_of_mem z hz')]
      simp

end

section

variable {same : α → α → Bool} {found : α → List β} {xs : List α} {x : α}

theorem foldl_enterGroup_beside {gs : List (RowGroup (α × Option β))} (ys : List β)
    (hsame : same x x) (h : ∀ g ∈ gs, same g.first.1 x = false) :
    (beside x ys).foldl (enterGroup fun a b => same a.1 b.1) gs = gs ++ [groupBeside x ys] := by
  rw [← members_groupBeside, RowGroup.members, List.foldl_cons, enterGroup_new]
  · have hrest : ∀ z ∈ (groupBeside x ys).rest, z.1 = x := by
      intro z hz
      have hmem : z ∈ beside x ys := by
        rw [← members_groupBeside]
        exact List.mem_cons_of_mem _ hz
      exact fst_of_mem_beside hmem
    rw [foldl_enterGroup_last]
    · rfl
    · intro g hg z hz
      rw [hrest z hz]
      exact h g hg
    · intro z hz
      rw [hrest z hz, fst_first_groupBeside]
      exact hsame
  · intro g hg
    rw [fst_first_groupBeside]
    exact h g hg

theorem foldl_enterGroup_leftJoin {gs : List (RowGroup (α × Option β))}
    (hsame : ∀ x ∈ xs, same x x) (hxs : xs.Pairwise fun x y => same x y = false)
    (h : ∀ g ∈ gs, ∀ x ∈ xs, same g.first.1 x = false) :
    (leftJoin found xs).foldl (enterGroup fun a b => same a.1 b.1) gs =
      gs ++ xs.map fun x => groupBeside x (found x) := by
  induction xs generalizing gs with
  | nil => simp [leftJoin]
  | cons x xs ih =>
      obtain ⟨hx, hxs⟩ := List.pairwise_cons.mp hxs
      rw [leftJoin, List.flatMap_cons, List.foldl_append,
        foldl_enterGroup_beside _ (hsame x List.mem_cons_self)
          (fun g hg => h g hg x List.mem_cons_self), ← leftJoin,
        ih (fun y hy => hsame y (List.mem_cons_of_mem x hy)) hxs]
      · simp
      · -- The group of `x` is one more that nothing after `x` belongs to.
        intro g hg y hy
        rcases List.mem_append.mp hg with hg | hg
        · exact h g hg y (List.mem_cons_of_mem x hy)
        · rw [List.mem_singleton.mp hg, fst_first_groupBeside]
          exact hx y hy

/-- Where no two elements are the same, there is one group for each, whatever was found for it. -/
theorem grouped_leftJoin (same : α → α → Bool) (hsame : ∀ x ∈ xs, same x x)
    (hxs : xs.Pairwise fun x y => same x y = false) :
    grouped (fun a b => same a.1 b.1) (leftJoin found xs) =
      xs.map fun x => groupBeside x (found x) := by
  rw [grouped, foldl_enterGroup_leftJoin hsame hxs (by simp), List.nil_append]

end

end Store

def rankedTotal (grades : List GradeRow) (r : SubmissionRow) : Float :=
  (sumCells? ((gradeRowsOf r.id grades).map (·.grade))).getD 0

namespace Ranking

variable {users : List UserRow} {submissions : List SubmissionRow} {grades : List GradeRow}
  {username : String} {exercise : Int}

def candidates (users : List UserRow) (submissions : List SubmissionRow) (username : String)
    (exercise : Int) : List SubmissionRow :=
  submissions.filter fun r =>
    r.exercise.same (.int exercise) &&
      users.any fun u => u.username == some username && r.user.same (.int u.id)

def rowLe (grades : List GradeRow) : Ranking → SubmissionRow → SubmissionRow → Bool
  | latest => laterLe
  | best => lexLe (fun a b => unitsOf (rankedTotal grades a) ≤ unitsOf (rankedTotal grades b)) laterLe

theorem filter_refersTo (husers : (users.map (·.id)).Nodup) {r : SubmissionRow} {u : UserRow}
    (hu : u ∈ users) (hr : r.user.same (.int u.id)) :
    users.filter (fun v => r.user.same (.int v.id)) = [u] := by
  rw [← filter_key_eq husers hu]
  apply List.filter_congr
  intro v _
  rw [Bool.eq_iff_iff, beq_iff_eq]
  constructor
  · exact fun hv => Cell.same_int_unique hv hr
  · exact fun hv => hv ▸ hr

theorem map_fst_filter_withUsers (husers : (users.map (·.id)).Nodup)
    (submissions : List SubmissionRow) :
    ((withUsers users submissions).filter (isWanted username exercise)).map (·.1) =
      candidates users submissions username exercise := by
  induction submissions with
  | nil => rfl
  | cons r submissions ih =>
      rw [withUsers, innerJoin, List.flatMap_cons, List.filter_append, List.map_append, ← innerJoin,
        ← withUsers, ih]
      simp only [candidates, List.filter_cons]
      by_cases hr : ∃ u ∈ users, r.user.same (.int u.id)
      · obtain ⟨u, hu, hr⟩ := hr
        have hany : users.any (fun v => v.username == some username && r.user.same (.int v.id)) =
            (u.username == some username) := by
          rw [Bool.eq_iff_iff, List.any_eq_true]
          simp only [Bool.and_eq_true]
          constructor
          · rintro ⟨v, hv, hname, hid⟩
            obtain rfl := List.inj_on_of_nodup_map husers hv hu (Cell.same_int_unique hid hr)
            exact hname
          · exact fun hname => ⟨u, hu, hname, hr⟩
        have hwanted : (r.exercise.same (.int exercise) && (u.username == some username)) =
            isWanted username exercise (r, u) := Bool.and_comm _ _
        rw [filter_refersTo husers hu hr, hany, hwanted]
        by_cases h : isWanted username exercise (r, u)
        · simp [h]
        · simp [h]
      · have hnone : users.filter (fun u => r.user.same (.int u.id)) = [] := by
          rw [List.filter_eq_nil_iff]
          exact fun u hu hid => hr ⟨u, hu, hid⟩
        have hany : users.any (fun v => v.username == some username && r.user.same (.int v.id)) =
            false := by
          rw [Bool.eq_false_iff, ne_eq, List.any_eq_true]
          rintro ⟨v, hv, hid⟩
          exact hr ⟨v, hv, (Bool.and_eq_true_iff.mp hid).2⟩
        simp [hnone, hany]

theorem latestRow?_eq (husers : (users.map (·.id)).Nodup) :
    latestRow? users submissions username exercise =
      greatest? (latest.rowLe grades) (candidates users submissions username exercise) := by
  rw [latestRow?, map_fst_filter_withUsers husers]
  rfl

/-- What the joined rows of a submission add up to are its grades; a row without a grade adds
nothing. -/
theorem groupTotal_groupBeside (x : SubmissionRow × UserRow) (ys : List GradeRow) :
    groupTotal (groupBeside x ys) = (sumCells? (ys.map (·.grade))).getD 0 := by
  rw [groupTotal, members_groupBeside]
  cases ys with
  | nil => rfl
  | cons y ys =>
      rw [beside, List.map_cons, List.map_map]
      rfl

theorem groups_eq (husers : (users.map (·.id)).Nodup)
    (hsubmissions : (submissions.map (·.id)).Nodup) :
    groups users submissions grades username exercise =
      ((withUsers users submissions).filter (isWanted username exercise)).map
        fun x => groupBeside x (gradeRowsOf x.1.id grades) := by
  have hids : ((((withUsers users submissions).filter (isWanted username exercise)).map
      (·.1)).map (·.id)).Nodup := by
    rw [map_fst_filter_withUsers husers]
    exact hsubmissions.sublist (List.filter_sublist.map _)
  rw [List.map_map] at hids
  rw [groups, withGrades, filter_leftJoin]
  refine grouped_leftJoin (fun a b : SubmissionRow × UserRow =>
    a.1.id == b.1.id && a.1.user.same b.1.user && a.1.time.same b.1.time) ?_ ?_
  · intro x _
    simp [Cell.same_iff]
  · refine (List.pairwise_map.mp hids).imp ?_
    intro x y hne
    simp only [Function.comp_apply] at hne
    simp [hne]

/-- No candidate gets lost among the joined and grouped rows, and none is there twice. -/
theorem map_first_groups (husers : (users.map (·.id)).Nodup)
    (hsubmissions : (submissions.map (·.id)).Nodup) :
    (groups users submissions grades username exercise).map (·.first.1.1) =
      candidates users submissions username exercise := by
  rw [groups_eq husers hsubmissions, List.map_map, ← map_fst_filter_withUsers husers]
  apply List.map_congr_left
  intro x _
  exact congrArg (·.1) (fst_first_groupBeside x _)

theorem groupTotal_of_mem_groups (husers : (users.map (·.id)).Nodup)
    (hsubmissions : (submissions.map (·.id)).Nodup) {g : RowGroup GradedRow}
    (hg : g ∈ groups users submissions grades username exercise) :
    groupTotal g = rankedTotal grades g.first.1.1 := by
  rw [groups_eq husers hsubmissions] at hg
  obtain ⟨x, -, rfl⟩ := List.mem_map.mp hg
  rw [groupTotal_groupBeside, fst_first_groupBeside, rankedTotal]

theorem bestRow?_eq (husers : (users.map (·.id)).Nodup)
    (hsubmissions : (submissions.map (·.id)).Nodup) :
    bestRow? users submissions grades username exercise =
      greatest? (best.rowLe grades) (candidates users submissions username exercise) := by
  have hle (x y : SubmissionRow × UserRow) :
      betterLe (groupBeside x (gradeRowsOf x.1.id grades))
          (groupBeside y (gradeRowsOf y.1.id grades)) = best.rowLe grades x.1 y.1 := by
    simp only [betterLe, lexLe, groupTotal_groupBeside, fst_first_groupBeside]
    rfl
  rw [bestRow?, groups_eq husers hsubmissions, greatest?_map, Option.map_map,
    ← map_fst_filter_withUsers husers, greatest?_map]
  simp only [hle]
  congr 1
  funext x
  exact congrArg (·.1) (fst_first_groupBeside x _)

end Ranking

namespace Submissions

def candidateRow? (ranking : Ranking) (username : String) (exercise : Int) (s : Store) :
    Except StoreError (Option SubmissionRow) := do
  let submissions ← s.require .submission
  let users ← s.require .user
  let rows := Ranking.candidates users.rows submissions.rows username exercise
  match ranking with
  | .latest => return greatest? (Ranking.latest.rowLe []) rows
  | .best => return greatest? (Ranking.best.rowLe (← s.require .grade).rows) rows

theorem rankedRow?_eq_candidateRow? {s : Store} {ranking : Ranking} {username : String}
    {exercise : Int} (husers : ((s.rows .user).map (·.id)).Nodup)
    (hsubmissions : ((s.rows .submission).map (·.id)).Nodup) :
    rankedRow? ranking username exercise s = candidateRow? ranking username exercise s := by
  rw [rankedRow?, candidateRow?]
  cases hs : s.require .submission with
  | error e => rfl
  | ok submissions =>
      cases hu : s.require .user with
      | error e => rfl
      | ok users =>
          rw [rows_of_table (require_eq_ok.mp hs)] at hsubmissions
          rw [rows_of_table (require_eq_ok.mp hu)] at husers
          cases ranking with
          | latest => exact congrArg Except.ok (Ranking.latestRow?_eq husers)
          | best =>
              cases s.require .grade with
              | error e => rfl
              | ok grades =>
                  exact congrArg Except.ok (Ranking.bestRow?_eq husers hsubmissions)

end Submissions

end Markbook
