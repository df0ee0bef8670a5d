import Markbook.Proofs.Catalogue
import Markbook.Proofs.Standing

namespace Markbook

open Store Work Time

theorem map_eq_error {ε α β : Type} {r : Except ε α} {g : α → β} {e : ε} :
    r.map g = .error e ↔ r = .error e := by
  cases r <;> simp [Except.map]

theorem Time.Instant.ofStored_eq_error {t : Instant} {e : Fault} :
    ofStored t.toMillis = .error e ↔ t.overruns ∧ e = .corrupt (.timestamp t.toMillis) := by
  rw [ofStored, ← ofMillis?_toMillis_eq_none]
  cases ofMillis? t.toMillis <;> simp [eq_comm]

theorem Exercise.restored_eq_error {x : Exercise} {e : Fault} :
    x.restored = .error e ↔ x.due.overruns ∧ e = .corrupt (.timestamp x.due.toMillis) := by
  rw [restored, map_eq_error, Instant.ofStored_eq_error]

namespace Access

variable {a : Access} {e : Fault} {s : Store}

theorem fault_ne_corrupt (h : a.fault? = some e) (c : Corruption) : e ≠ .corrupt c := by
  cases a <;> cases h <;> simp

theorem result_read {α : Type} {f : Store → Except StoreError α} (h : a.fault? = some e) :
    (Work.read f a s).result = .error e := by
  rw [Work.read, h]

end Access

namespace History

variable {h : History} {a : Access}

/-- One due date that cannot be told keeps all exercises from being shown. -/
theorem catalogue_corrupt_iff :
    (∃ c, (Book.catalogue a h.store).result = .error (.corrupt c)) ↔
      a.fault? = none ∧ ∃ e ∈ h.ledger.added, e.due.overruns := by
  cases ha : a.fault? with
  | some fault =>
      have hresult : (Book.catalogue a h.store).result = .error fault := by
        rw [Book.result_catalogue]
        exact (bind_of_error (a.result_read ha)).1
      simp [hresult, Access.fault_ne_corrupt ha]
  | none =>
      -- A record that is corrupt is the only reason to fail that is left.
      have herror : (∃ c, (Book.catalogue a h.store).result = .error (.corrupt c)) ↔
          ∃ fault, (Exercises.byId h.ledger.added).mapM Exercise.restored = .error fault := by
        rw [result_catalogue ha]
        constructor
        · rintro ⟨c, hc⟩
          exact ⟨_, hc⟩
        · rintro ⟨fault, hfault⟩
          obtain ⟨e, -, he⟩ := exists_of_mapM_eq_error hfault
          obtain ⟨-, rfl⟩ := Exercise.restored_eq_error.mp he
          exact ⟨_, hfault⟩
      rw [herror, mapM_eq_error_iff]
      simp [Exercise.restored_eq_error, (Exercises.perm_byId _).mem_iff]

theorem exists_topRow? (ranking : Ranking) {u : User} {e : Exercise} {id : Int} {x : Submission}
    (hx : h.IsCandidate u e id x) : ∃ r, ranking.topRow? u e h.store = some r := by
  obtain ⟨k, hk⟩ := h.holds_of_current? hx.current
  have hmem : Submissions.rowOf id k x ∈ h.store.candidateRows u e :=
    mem_candidateRows.mpr ⟨k, x, hx, hk, rfl⟩
  rw [← Option.isSome_iff_exists, Option.isSome_iff_ne_none]
  intro hnone
  rw [greatest?_eq_none.mp hnone] at hmem
  cases hmem

theorem IsTop.eq {ranking : Ranking} {u : User} {e : Exercise} {id id' : Int} {x x' : Submission}
    (hx : h.IsTop ranking u e id x) (hx' : h.IsTop ranking u e id' x') : x = x' := by
  have hstanding := le_antisymm (hx'.greatest _ _ hx.candidate) (hx.greatest _ _ hx'.candidate)
  have hid : id = id' := by
    have hpair := congrArg (fun p => (ofLex (ofLex p).2).2) hstanding
    exact hpair
  subst hid
  exact Option.some.inj (hx.candidate.current.symm.trans hx'.candidate.current)

theorem exists_isTop_of_topSubmission {ranking : Ranking} {u : User} {e : Exercise}
    {b : Submission} (hb : (Book.topSubmission ranking u e a h.store).result = .ok (some b)) :
    ∃ x, h.IsTop ranking u e b.id x ∧ b.grades = x.gradesFor e.size := by
  cases ha : a.fault? with
  | some fault =>
      have hresult : (Book.topSubmission ranking u e a h.store).result = .error fault :=
        (bind_of_error (a.result_read ha)).1
      rw [hresult] at hb
      cases hb
  | none =>
      cases hr : ranking.topRow? u e h.store with
      | none =>
          have hnone : ∀ id x, ¬ h.IsCandidate u e id x := by
            intro id x hx
            obtain ⟨r, hsome⟩ := exists_topRow? ranking hx
            simp [hr] at hsome
          rw [topSubmission_eq_none ha hnone] at hb
          cases hb
      | some r =>
          obtain ⟨k, x, htop, hk, hrow⟩ := isTop_of_topRow? hr
          rw [hrow] at hr
          rw [topSubmission_eq ha hr hk] at hb
          cases ht : Instant.ofStored x.time.toMillis with
          | error fault =>
              rw [ht] at hb
              cases hb
          | ok time =>
              rw [ht] at hb
              cases hb
              exact ⟨x, htop, rfl⟩

theorem topSubmission_corrupt_iff {ranking : Ranking} {u : User} {e : Exercise} :
    (∃ c, (Book.topSubmission ranking u e a h.store).result = .error (.corrupt c)) ↔
      a.fault? = none ∧ ∃ id x, h.IsTop ranking u e id x ∧ x.time.overruns := by
  cases ha : a.fault? with
  | some fault =>
      have hresult : (Book.topSubmission ranking u e a h.store).result = .error fault :=
        (bind_of_error (a.result_read ha)).1
      simp [hresult, Access.fault_ne_corrupt ha]
  | none =>
      cases hr : ranking.topRow? u e h.store with
      | none =>
          have hnone : ∀ id x, ¬ h.IsCandidate u e id x := by
            intro id x hx
            obtain ⟨r, hsome⟩ := exists_topRow? ranking hx
            simp [hr] at hsome
          rw [topSubmission_eq_none ha hnone]
          simp only [reduceCtorEq, exists_false, true_and, false_iff]
          rintro ⟨id, x, hx, -⟩
          exact hnone id x hx.candidate
      | some r =>
          obtain ⟨k, x, htop, hk, hrow⟩ := isTop_of_topRow? hr
          rw [hrow] at hr
          simp only [topSubmission_eq ha hr hk, map_eq_error, Instant.ofStored_eq_error, true_and]
          constructor
          · rintro ⟨c, hover, -⟩
            exact ⟨r.id, x, htop, hover⟩
          · rintro ⟨id, x', htop', hover⟩
            rw [← htop.eq htop'] at hover
            exact ⟨_, hover, rfl⟩

/-- A book finds a record corrupt where it has to tell the leap second at the end of all instants,
and nowhere else: as the due date of any exercise, or as the time of the submission on top. -/
theorem corrupt_iff_overruns (h : History) (a : Access) :
    ((∃ c, (Book.catalogue a h.store).result = .error (.corrupt c)) ↔
      a.fault? = none ∧ ∃ e ∈ h.ledger.added, e.due.overruns) ∧
    ∀ ranking u e,
      (∃ c, (Book.topSubmission ranking u e a h.store).result = .error (.corrupt c)) ↔
        a.fault? = none ∧ ∃ id x, h.IsTop ranking u e id x ∧ x.time.overruns :=
  ⟨catalogue_corrupt_iff, fun _ _ _ => topSubmission_corrupt_iff⟩

def dueAtLast : History :=
  let last : Instant := ⟨lastSecond, secondNanos, by decide, by decide, by decide⟩
  History.fresh.next (.request .readWrite (.register ⟨1, "", last, []⟩))

theorem corrupt_dueAtLast :
    dueAtLast.ledger.added.map (·.id) = [1] ∧
      ∃ c, (Book.catalogue .readWrite dueAtLast.store).result = .error (.corrupt c) := by
  have hover : ∃ e ∈ dueAtLast.ledger.added, e.due.overruns := by decide +kernel
  exact ⟨by decide +kernel, (corrupt_iff_overruns dueAtLast .readWrite).1.mpr ⟨rfl, hover⟩⟩

end History

end Markbook
