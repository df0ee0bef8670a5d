import Markbook.Proofs.Acceptance
import Markbook.Proofs.Identity

namespace Markbook

open Store Work

def Store.submissionIds (s : Store) : List Int :=
  (s.rows .submission).map (·.id)

namespace Book

variable {x : Submission} {r : Stored} {users : List UserRow} {s s' : Store}

theorem Recorded.submissionIds (h : Recorded x r users s s') :
    s'.submissionIds =
      if r.submission ∈ s.submissionIds then s.submissionIds
      else s.submissionIds ++ [r.submission] := by
  rw [Store.submissionIds, h.rows_submission, Submissions.map_id_setRow, Store.submissionIds]
  simp only [List.any_eq_true, beq_iff_eq, List.mem_map]

theorem Recorded.id_of_not_isStored (h : Recorded x r users s s') (hx : ¬ x.isStored) :
    r.submission = nextAfter s.submissionIds := by
  rw [h.id_eq, if_neg hx, Store.submissionIds]

end Book

theorem Submission.isStored_iff {x : Submission} : x.isStored ↔ x.id ≠ noId := by
  simp [isStored]

/-- Only one id comes before the one that stands for "not stored". -/
theorem nextAfter_eq_noId {ids : List Int} : nextAfter ids = noId ↔ ids.max? = some (noId - 1) := by
  rw [nextAfter]
  cases ids.max? with
  | none => simp [noId]
  | some n => simp only [noId, Option.some.injEq]; omega

namespace Ledger

def storedId? : Request × Answer → Option Int
  | (.submit _, .storedSubmission y) => some y.id
  | _ => none

def submissionIds (l : Ledger) : List Int :=
  (l.filterMap storedId?).eraseDups

theorem submissionIds_subset_append (l l' : Ledger) :
    l.submissionIds ⊆ submissionIds (l ++ l') := by
  intro id
  simp only [submissionIds, List.mem_eraseDups, List.filterMap_append, List.mem_append]
  exact .inl

end Ledger

theorem Request.Effect.submissions {s s' : Store} {r : Request} {y : Answer}
    (h : Effect s r y s') :
    (Ledger.storedId? (r, y) = none ∧ s'.rows .submission = s.rows .submission) ∨
      ∃ x stored users, Ledger.storedId? (r, y) = some stored.submission ∧
        Book.Recorded x stored users s s' := by
  cases h with
  | enrolled _ he => exact .inl ⟨rfl, he.rows_of_ne (by decide)⟩
  | submitted _ _ he => exact .inr ⟨_, _, _, rfl, he⟩
  | registered he => exact .inl ⟨rfl, he.rows_of_ne (by decide) (by decide)⟩
  | known => exact .inl ⟨rfl, rfl⟩
  | asked hq =>
      refine .inl ⟨?_, rfl⟩
      cases r <;> first | rfl | cases hq

namespace History

theorem submissionIds_store (h : History) : h.store.submissionIds = h.ledger.submissionIds := by
  refine ledger_induction (P := fun s l => s.submissionIds = l.submissionIds) rfl ?_ ?_ h
  · intro s s' l hs ih
    rw [← ih, Store.submissionIds, hs.rows, Store.submissionIds]
  · intro s s' l r y hs he ih
    rw [Ledger.submissionIds, List.filterMap_append]
    rcases he.submissions with ⟨hnone, hrows⟩ | ⟨x, stored, users, hsome, hrecorded⟩
    · rw [List.filterMap_cons_none hnone, List.filterMap_nil, List.append_nil, Store.submissionIds,
        hrows]
      exact ih
    · rw [List.filterMap_cons_some hsome, List.filterMap_nil, eraseDups_append_singleton,
        hrecorded.submissionIds, ih]
      simp only [Ledger.submissionIds, List.mem_eraseDups]

theorem submissionIds_subset_after (h : History) (moves : List Move) :
    h.store.submissionIds ⊆ (h.after moves).store.submissionIds := by
  obtain ⟨more, hmore⟩ := h.ledger_prefix_after moves
  rw [submissionIds_store, submissionIds_store, ← hmore]
  exact Ledger.submissionIds_subset_append h.ledger more

variable {h : History} {a : Access} {x y : Submission}

theorem gives_submit (hy : (Book.submit x a h.store).result = .ok y) :
    Gives (Book.submit x) a h.store y (h.next (.request a (.submit x))).store := by
  have hrun : Gives (Request.submit x).run a h.store (.storedSubmission y)
      (Book.submit x a h.store).store := gives_map.mpr ⟨y, ⟨hy, rfl⟩, rfl⟩
  exact ⟨hy, hrun.2.symm⟩

theorem isStored_of_submit (hy : (Book.submit x a h.store).result = .ok y) :
    y.isStored ↔ x.isStored ∨ h.store.submissionIds.max? ≠ some (noId - 1) := by
  obtain ⟨-, -, r, users, hr, rfl⟩ := Book.submitted_of_gives (gives_submit hy)
  rw [Submission.isStored_iff]
  by_cases hx : x.isStored
  · refine iff_of_true ?_ (.inl hx)
    rw [hr.id_of_isStored hx]
    exact Submission.isStored_iff.mp hx
  · rw [or_iff_right hx, hr.id_of_not_isStored hx, ne_eq, nextAfter_eq_noId]

theorem mem_submissionIds_of_submit (hy : (Book.submit x a h.store).result = .ok y) :
    y.id ∈ (h.next (.request a (.submit x))).store.submissionIds := by
  obtain ⟨-, -, r, users, hr, rfl⟩ := Book.submitted_of_gives (gives_submit hy)
  rw [hr.submissionIds]
  split
  next hmem => exact hmem
  next => simp

section

variable {later : History} {moves : List Move} {b : Access} {z : Submission}

theorem user_of_submit_again (hy : (Book.submit x a h.store).result = .ok y)
    (hlater : later = (h.next (.request a (.submit x))).after moves)
    (hz : (Book.submit y b later.store).result = .ok z) : z.user = y.user := by
  have hmem : x.user.username ∈ (h.next (.request a (.submit x))).ledger.names := by
    rw [ledger_next_submit hy]
    refine Ledger.mem_names.mpr ⟨x.user, ?_, rfl⟩
    rw [Ledger.namings_append_of_some rfl]
    exact List.mem_append_right _ (List.mem_singleton_self _)
  have hnumber := numberOf_after hmem (moves ++ [.request b (.submit y)])
  rw [after_concat, ← hlater] at hnumber
  -- Both ids are the number of one username, told by a ledger and by one that goes on from it.
  rw [submit_user_eq hz, submit_user_eq hy]
  exact congrArg (fun id => { x.user with id }) hnumber

theorem submit_again_eq (hy : (Book.submit x a h.store).result = .ok y) (hstored : y.isStored)
    (hlater : later = (h.next (.request a (.submit x))).after moves)
    (hz : (Book.submit y b later.store).result = .ok z) :
    z = y ∧ (Book.submit y b later.store).store.submissionIds = later.store.submissionIds := by
  have huser := user_of_submit_again hy hlater hz
  have hmem : y.id ∈ later.store.submissionIds := by
    rw [hlater]
    exact submissionIds_subset_after _ moves (mem_submissionIds_of_submit hy)
  obtain ⟨-, -, r, users, hr, rfl⟩ := Book.submitted_of_gives ⟨hz, rfl⟩
  have hid := hr.id_of_isStored hstored
  constructor
  · change ({ y with id := r.submission, user := { y.user with id := r.user } } : Submission) = y
    rw [show { y.user with id := r.user } = y.user from huser, hid]
  · rw [hr.submissionIds, hid, if_pos hmem]

theorem exists_submit_again (hy : (Book.submit x a h.store).result = .ok y) (later : History)
    (hlater : later.Unhindered) : ∃ z, (Book.submit y .readWrite later.store).result = .ok z := by
  obtain ⟨hname, hgrades, r, users, -, rfl⟩ := Book.submitted_of_gives ⟨hy, rfl⟩
  have hi := later.integrity_store
  obtain ⟨z, s', hz⟩ := Book.exists_gives_submit (x := { x with
    id := r.submission, user := { x.user with id := r.user } }) (lenient_store hlater)
    (Users.pairwise_apart hi.userIds hi.usernames) hi.submissionIds later.complete_store hname
    hgrades
  exact ⟨z, hz.1⟩

end

/-- What came back without an id is there all the same, and is added once more under the next. -/
theorem submit_again_of_not_isStored {b : Access} {z : Submission}
    (hy : (Book.submit x a h.store).result = .ok y) (hnot : ¬ y.isStored)
    (hz : (Book.submit y b (h.next (.request a (.submit x))).store).result = .ok z) :
    z.id = noId + 1 ∧
      (Book.submit y b (h.next (.request a (.submit x))).store).store.submissionIds =
        h.store.submissionIds ++ [noId, noId + 1] := by
  have hx : ¬ x.isStored := fun hx => hnot ((isStored_of_submit hy).mpr (.inl hx))
  obtain ⟨-, -, r, users, hr, rfl⟩ := Book.submitted_of_gives (gives_submit hy)
  have hid : r.submission = noId := by
    simpa [Submission.isStored_iff] using hnot
  have hnext := hr.id_of_not_isStored hx
  rw [hid] at hnext
  have hold : ∀ i ∈ h.store.submissionIds, i < noId := by
    intro i hi
    rw [hnext]
    exact lt_nextAfter hi
  have hids := hr.submissionIds
  rw [hid, if_neg fun hmem => (hold noId hmem).false] at hids
  -- A generated id is above all others, so the next one to be generated follows it.
  have hnext' : nextAfter (h.store.submissionIds ++ [noId]) = noId + 1 := by
    apply nextAfter_of_greatest
    · simp
    · intro i hi
      rcases List.mem_append.mp hi with hi | hi
      · exact (hold i hi).le
      · exact (List.mem_singleton.mp hi).le
  obtain ⟨-, -, r', users', hr', rfl⟩ := Book.submitted_of_gives ⟨hz, rfl⟩
  have hid' := hr'.id_of_not_isStored hnot
  rw [hids, hnext'] at hid'
  refine ⟨hid', ?_⟩
  rw [hr'.submissionIds, hids, hid', if_neg]
  · simp
  · intro hmem
    have hlt := lt_nextAfter hmem
    rw [hnext'] at hlt
    exact hlt.false

/-- A submission that was stored comes back with an id, except where it came without one and the
greatest id in the store is next to the one that stands for "not stored". Stored again with its id,
at any time, it stays the only one under that id; without one it is there twice. -/
theorem submit_twice (h : History) (a : Access) (x y : Submission)
    (hy : (Book.submit x a h.store).result = .ok y) :
    (y.isStored ↔ x.isStored ∨ h.store.submissionIds.max? ≠ some (noId - 1)) ∧
    (y.isStored → ∀ moves later, later = (h.next (.request a (.submit x))).after moves →
      (later.Unhindered → (Book.submit y .readWrite later.store).result = .ok y) ∧
      ∀ b z, (Book.submit y b later.store).result = .ok z → z = y ∧
        (Book.submit y b later.store).store.submissionIds = later.store.submissionIds) ∧
    (¬ y.isStored → ∀ b z,
      (Book.submit y b (h.next (.request a (.submit x))).store).result = .ok z →
        z.id = noId + 1 ∧
        (Book.submit y b (h.next (.request a (.submit x))).store).store.submissionIds =
          h.store.submissionIds ++ [noId, noId + 1]) := by
  refine ⟨isStored_of_submit hy, ?_, fun hnot b z => submit_again_of_not_isStored hy hnot⟩
  intro hstored moves later hlater
  refine ⟨?_, fun b z => submit_again_eq hy hstored hlater⟩
  intro hfree
  obtain ⟨z, hz⟩ := exists_submit_again hy later hfree
  rw [hz, (submit_again_eq hy hstored hlater hz).1]

def unnumbered : Submission :=
  let t := Time.Instant.inFirstHour 60 0
  ⟨noId, ⟨noId, "ann", "Ann", "Lee"⟩, ⟨7, "Sums", t, []⟩, t, []⟩

def minusTwo : History :=
  History.fresh.next (.request .readWrite (.submit { unnumbered with id := noId - 1 }))

theorem submit_twice_minusTwo :
    ∃ y z, (Book.submit unnumbered .readWrite minusTwo.store).result = .ok y ∧ ¬ y.isStored ∧
      (Book.submit y .readWrite
        (minusTwo.next (.request .readWrite (.submit unnumbered))).store).result = .ok z ∧
      (Book.submit y .readWrite
        (minusTwo.next (.request .readWrite (.submit unnumbered))).store).store.submissionIds =
          [-2, -1, 0] := by
  have hsome : (Book.submit unnumbered .readWrite minusTwo.store).result.isOk := by decide +kernel
  have hids : minusTwo.store.submissionIds = [-2] := by decide +kernel
  cases hy : (Book.submit unnumbered .readWrite minusTwo.store).result with
  | error e =>
      rw [hy] at hsome
      cases hsome
  | ok y =>
      obtain ⟨hstored, -, htwice⟩ := minusTwo.submit_twice .readWrite unnumbered y hy
      have hnot : ¬ y.isStored := by
        rw [hstored, hids]
        decide
      obtain ⟨z, hz⟩ := exists_submit_again hy
        (minusTwo.next (.request .readWrite (.submit unnumbered))) ⟨⟨trivial, rfl⟩, rfl⟩
      have hboth := (htwice hnot .readWrite z hz).2
      rw [hids] at hboth
      exact ⟨y, z, rfl, hnot, hz, hboth⟩

end History

end Markbook
