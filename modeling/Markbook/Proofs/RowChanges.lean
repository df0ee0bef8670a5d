import Markbook.Proofs.Effects
import Markbook.Proofs.Order

namespace Markbook

open Store

theorem pairwise_numbered {α : Type} (xs : List α) :
    (numbered xs).Pairwise fun x y => x.1 < y.1 := by
  rw [List.pairwise_iff_getElem]
  intro i j hi hj hij
  simp only [numbered, List.getElem_map, List.getElem_zipIdx]
  omega

theorem map_numbered {α β : Type} (f : Int × α → β) (xs : List α) :
    (numbered xs).map f = xs.mapIdx fun n x => f (n + 1, x) := by
  apply List.ext_getElem
  · simp [numbered]
  · intro n hn _
    simp [numbered, firstQuestion, Int.add_comm]

theorem filter_map_owned {ι ρ : Type} (owner : ρ → Cell) (row : ι → ρ) {id : Int}
    (h : ∀ x, owner (row x) = .int id) (other : Int) (xs : List ι) :
    (xs.map row).filter (fun r => (owner r).same (.int other)) =
      if other = id then xs.map row else [] := by
  split
  next heq =>
    rw [List.filter_eq_self]
    intro r hr
    obtain ⟨x, -, rfl⟩ := List.mem_map.mp hr
    simp [h, heq]
  next hne =>
    rw [List.filter_eq_nil_iff]
    intro r hr
    obtain ⟨x, -, rfl⟩ := List.mem_map.mp hr
    simpa [h] using Ne.symm hne

namespace Users

variable {u : User} {p : Option String → Option String} {rows rows' : List UserRow} {id : Int}

def identity (r : UserRow) : Int × Option String :=
  (r.id, r.username)

theorem hasUsername_iff {username : String} {r : UserRow} :
    hasUsername username r ↔ r.username = some username := by
  simp [hasUsername]

theorem Settled.identities (h : Settled u p rows id rows') :
    (rows'.map identity = rows.map identity ∧ (id, some u.username) ∈ rows.map identity) ∨
      (rows'.map identity = rows.map identity ++ [(id, some u.username)] ∧
        (∀ r ∈ rows, r.id ≠ id) ∧ ∀ r ∈ rows, r.username ≠ some u.username) := by
  cases h with
  | known r hr =>
      refine .inl ⟨?_, ?_⟩
      · rw [List.map_map]
        apply List.map_congr_left
        intro x _
        by_cases hx : x.id = r.id <;> simp [hx, identity, renewed]
      · have hname := hasUsername_iff.mp (List.find?_some hr)
        exact List.mem_map.mpr ⟨r, List.mem_of_find?_eq_some hr, by simp [identity, hname]⟩
  | new hr =>
      refine .inr ⟨by simp [identity], ?_, ?_⟩
      · intro r hmem
        exact (lt_nextAfter (List.mem_map_of_mem hmem)).ne
      · intro r hmem hname
        exact List.find?_eq_none.mp hr r hmem (hasUsername_iff.mpr hname)

theorem Settled.mem_identities (h : Settled u p rows id rows') :
    (id, some u.username) ∈ rows'.map identity := by
  rcases h.identities with ⟨heq, hmem⟩ | ⟨heq, -, -⟩
  · rwa [heq]
  · simp [heq]

theorem Settled.identities_subset (h : Settled u p rows id rows') :
    rows.map identity ⊆ rows'.map identity := by
  rcases h.identities with ⟨heq, -⟩ | ⟨heq, -, -⟩
  · simp [heq]
  · simp [heq]

theorem Settled.nodup_ids (h : Settled u p rows id rows') (hn : (rows.map (·.id)).Nodup) :
    (rows'.map (·.id)).Nodup := by
  have hfst (xs : List UserRow) : xs.map (·.id) = (xs.map identity).map (·.1) := by simp [identity]
  rcases h.identities with ⟨heq, -⟩ | ⟨heq, hids, -⟩
  · rwa [hfst, heq, ← hfst]
  · rw [hfst, heq, List.map_append, ← hfst]
    exact hn.append (by simp) (by simpa [List.Disjoint] using fun r hr => hids r hr)

theorem Settled.nodup_usernames (h : Settled u p rows id rows')
    (hn : (rows.map (·.username)).Nodup) : (rows'.map (·.username)).Nodup := by
  have hsnd (xs : List UserRow) : xs.map (·.username) = (xs.map identity).map (·.2) := by
    simp [identity]
  rcases h.identities with ⟨heq, -⟩ | ⟨heq, -, hnames⟩
  · rwa [hsnd, heq, ← hsnd]
  · rw [hsnd, heq, List.map_append, ← hsnd]
    exact hn.append (by simp) (by simpa [List.Disjoint] using fun r hr => hnames r hr)

/-- What is found under a username after a user was stored. Rows are renewed by id, so another user
is spared only because ids are unique. -/
theorem Settled.find?_eq (h : Settled u p rows id rows') (hids : (rows.map (·.id)).Nodup)
    (username : String) :
    rows'.find? (hasUsername username) =
      if username = u.username then
        some ⟨id, some u.username, some u.firstname, some u.lastname,
          p ((rows.find? (hasUsername username)).bind (·.password))⟩
      else rows.find? (hasUsername username) := by
  cases h with
  | known r hr =>
      have hname := hasUsername_iff.mp (List.find?_some hr)
      have hcomp : hasUsername username ∘ (fun x => if x.id == r.id then renewed u p x else x) =
          hasUsername username := by
        funext x
        simp only [Function.comp_apply]
        split <;> rfl
      rw [List.find?_map, hcomp]
      split
      next heq => simp [heq, hr, renewed, hname]
      next hne =>
          cases hx : rows.find? (hasUsername username) with
          | none => rfl
          | some x =>
              have hid : x.id ≠ r.id := by
                intro heq
                obtain rfl := List.inj_on_of_nodup_map hids (List.mem_of_find?_eq_some hx)
                  (List.mem_of_find?_eq_some hr) heq
                have hx' := hasUsername_iff.mp (List.find?_some hx)
                exact hne (Option.some.inj (hx'.symm.trans hname))
              simp [hid]
  | new hr =>
      rw [List.find?_append]
      split
      next heq => simp [heq, hr, hasUsername]
      next hne => simp [hasUsername, Ne.symm hne]

theorem Settled.id_of_new (h : Settled u p rows id rows')
    (hnew : ∀ r ∈ rows, r.username ≠ some u.username) : id = nextAfter (rows.map (·.id)) := by
  cases h with
  | known r hr =>
      have hname := hasUsername_iff.mp (List.find?_some hr)
      exact absurd hname (hnew r (List.mem_of_find?_eq_some hr))
  | new => rfl

end Users

namespace Submissions

variable {r : SubmissionRow} {rows : List SubmissionRow} {id other : Int}

theorem map_id_setRow :
    (setRow r rows).map (·.id) =
      if rows.any (·.id == r.id) then rows.map (·.id) else rows.map (·.id) ++ [r.id] := by
  rw [setRow]
  split
  · rw [List.map_map]
    apply List.map_congr_left
    intro x _
    by_cases hx : x.id = r.id <;> simp [hx]
  · simp

theorem nodup_setRow (h : (rows.map (·.id)).Nodup) : ((setRow r rows).map (·.id)).Nodup := by
  rw [map_id_setRow]
  split
  next => exact h
  next hany =>
    refine h.append (by simp) ?_
    simp only [List.any_eq_true, beq_iff_eq, not_exists, not_and] at hany
    simpa [List.Disjoint] using hany

theorem mem_setRow {x : SubmissionRow} :
    x ∈ setRow r rows ↔ x = r ∨ (x ∈ rows ∧ x.id ≠ r.id) := by
  rw [setRow]
  split
  next hany =>
    obtain ⟨y, hy, hid⟩ := List.any_eq_true.mp hany
    simp only [beq_iff_eq] at hid
    simp only [List.mem_map, beq_iff_eq]
    constructor
    · rintro ⟨z, hz, rfl⟩
      by_cases hz' : z.id = r.id
      · simp [hz']
      · simp [hz', hz]
    · rintro (rfl | ⟨hx, hne⟩)
      · exact ⟨y, hy, by simp [hid]⟩
      · exact ⟨x, hx, by simp [hne]⟩
  next hany =>
    simp only [List.any_eq_true, beq_iff_eq, not_exists, not_and] at hany
    simp only [List.mem_append, List.mem_singleton]
    constructor
    · rintro (hx | rfl)
      · exact .inr ⟨hx, hany x hx⟩
      · exact .inl rfl
    · rintro (rfl | ⟨hx, -⟩)
      · exact .inr rfl
      · exact .inl hx

theorem filter_gradeRows (id other : Int) (grades : List Float) :
    ((numbered grades).map (gradeRowOf id)).filter (belongsTo other) =
      if other = id then (numbered grades).map (gradeRowOf id) else [] :=
  filter_map_owned GradeRow.submission (gradeRowOf id) (fun _ => rfl) other _

theorem filter_regraded_self (grades : List Float) (rows : List GradeRow) :
    (regraded id grades rows).filter (belongsTo id) = (numbered grades).map (gradeRowOf id) := by
  have hold : (rows.filter (!belongsTo id ·)).filter (belongsTo id) = [] := by
    simp [List.filter_filter]
  rw [regraded, List.filter_append, hold, filter_gradeRows, if_pos rfl, List.nil_append]

theorem filter_regraded_of_ne (h : other ≠ id) (grades : List Float) (rows : List GradeRow) :
    (regraded id grades rows).filter (belongsTo other) = rows.filter (belongsTo other) := by
  have hold : (rows.filter (!belongsTo id ·)).filter (belongsTo other) =
      rows.filter (belongsTo other) := by
    rw [List.filter_filter]
    apply List.filter_congr
    intro g _
    by_cases hg : belongsTo other g
    · have hne : ¬ belongsTo id g := fun hid => h (Cell.same_int_unique hg hid)
      simp [hg, hne]
    · simp [hg]
  rw [regraded, List.filter_append, hold, filter_gradeRows, if_neg h, List.append_nil]

end Submissions

theorem Exercises.filter_questionRows (id other : Int) (questions : List Question) :
    ((numbered questions).map (questionRowOf id)).filter (belongsTo other) =
      if other = id then (numbered questions).map (questionRowOf id) else [] :=
  filter_map_owned QuestionRow.exercise (questionRowOf id) (fun _ => rfl) other _

end Markbook
