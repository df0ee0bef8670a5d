import Markbook.Proofs.ReadBack

namespace Markbook

open Store Work Time

namespace Time.Instant

variable {a b t : Instant} {ms : Int}

theorem le_iff : a ≤ b ↔ a.second < b.second ∨ (a.second = b.second ∧ a.nano ≤ b.nano) := by
  change a.le b = true ↔ _
  simp [le]

/-- The instant `a` is in a leap second, and further into it than `b` is into the second that
follows, told in whole milliseconds. -/
structure Overtakes (a b : Instant) : Prop where
  isLeap : a.isLeap
  second : b.second = a.second + 1
  nano : secondNanos / milliNanos + b.nano / milliNanos < a.nano / milliNanos

theorem Overtakes.le (h : a.Overtakes b) : a ≤ b := by
  have hsecond := h.second
  exact le_iff.mpr (.inl (by omega))

theorem Overtakes.toMillis_lt (h : a.Overtakes b) : b.toMillis < a.toMillis := by
  have hsecond := h.second
  have hnano := h.nano
  simp only [toMillis, secondNanos, milliNanos] at *
  omega

theorem overtakes_of_toMillis_lt (h : a ≤ b) (hlt : b.toMillis < a.toMillis) : a.Overtakes b := by
  have ha := a.nano_lt
  simp only [toMillis, milliNanos, secondNanos] at hlt ha
  rcases le_iff.mp h with hsecond | ⟨hsecond, hnano⟩
  · -- A leap second ends before the second after the next one begins.
    refine ⟨isLeap_iff_le.mpr ?_, ?_, ?_⟩
    · rw [secondNanos]
      omega
    · omega
    · simp only [secondNanos, milliNanos]
      omega
  · have hcut := Nat.div_le_div_right (c := 1000000) hnano
    omega

theorem toMillis_le_iff (h : a ≤ b) : a.toMillis ≤ b.toMillis ↔ ¬ a.Overtakes b := by
  constructor
  · exact fun hle hover => (hover.toMillis_lt.trans_le hle).false
  · exact fun hnot => not_lt.mp fun hlt => hnot (overtakes_of_toMillis_lt h hlt)

theorem inRange_iff : InRange ms ↔ -8334601228800000 ≤ ms ∧ ms ≤ 8210266876799999 := by
  simp only [InRange, firstSecond, lastSecond]
  omega

theorem ofStored_eq_ok : ofStored ms = .ok t ↔ ofMillis? ms = some t := by
  rw [ofStored]
  cases ofMillis? ms <;> simp

theorem exists_ofStored_iff : (∃ t, ofStored ms = .ok t) ↔ InRange ms := by
  simp only [ofStored_eq_ok]
  rw [← Option.isSome_iff_exists, Option.isSome_iff_ne_none, ne_eq, ofMillis?_eq_none, not_not]

theorem toMillis_of_ofMillis? (h : ofMillis? ms = some t) : t.toMillis = ms := by
  obtain ⟨hsecond, hnano⟩ := of?_eq_some h
  have hcut : t.nano / milliNanos = (ms % 1000).toNat := by
    rw [hnano]
    exact Nat.mul_div_cancel _ (by decide)
  rw [toMillis, hcut, hsecond]
  omega

theorem isInt64_iff {n : Int} : isInt64 n ↔ -int64Bound ≤ n ∧ n < int64Bound := by
  simp [isInt64]

theorem isInt64_toMillis (t : Instant) : isInt64 (t.second * 1000) ∧ isInt64 t.toMillis := by
  have hfirst := t.first_le
  have hlast := t.le_last
  have hnano := t.nano_lt
  rw [isInt64_iff, isInt64_iff, toMillis]
  simp only [int64Bound, firstSecond, lastSecond, secondNanos, milliNanos] at *
  omega

theorem IsCutOf.nanos_bounds (h : a.IsCutOf t) :
    a.nanos ≤ t.nanos ∧ t.nanos < a.nanos + milliNanos := by
  rw [h.2]
  simp only [milliNanos]
  omega

theorem le_of_nanos_le (ha : a.isLeap = false) (hb : b.isLeap = false)
    (h : a.nanos ≤ b.nanos) : a ≤ b := by
  have ha : ¬ secondNanos ≤ a.nano := by simpa [← isLeap_iff_le] using ha
  have hb : ¬ secondNanos ≤ b.nano := by simpa [← isLeap_iff_le] using hb
  rw [le_iff]
  simp only [nanos, secondNanos] at *
  omega

theorem exists_ofStored_toMillis (h : t.isLeap = false) :
    ∃ r, ofStored t.toMillis = .ok r ∧ r.IsCutOf t := by
  cases hr : ofMillis? t.toMillis with
  | none =>
      rw [isLeap_of_ofMillis?_eq_none hr] at h
      cases h
  | some r => exact ⟨r, ofStored_eq_ok.mpr hr, isCutOf_of_ofMillis? hr⟩

/-- Milliseconds are told as an instant exactly if they are in range, and then the instant tells
them back; the way from an instant to its milliseconds never leaves the words of 64 bits; and what
is no leap second comes back, cut down by less than a millisecond. -/
theorem ofStored_toMillis :
    (∀ ms : Int,
      ((∃ t, ofStored ms = .ok t) ↔ -8334601228800000 ≤ ms ∧ ms ≤ 8210266876799999) ∧
      (∀ t, ofStored ms = .ok t → t.toMillis = ms) ∧
      ∀ e, ofStored ms = .error e → e = .corrupt (.timestamp ms)) ∧
    (∀ t : Instant, isInt64 (t.second * 1000) ∧ isInt64 t.toMillis) ∧
    ∀ t : Instant, t.isLeap = false → ∃ r, ofStored t.toMillis = .ok r ∧ r.isLeap = false ∧
      r ≤ t ∧ t.nanos < r.nanos + milliNanos := by
  refine ⟨?_, isInt64_toMillis, ?_⟩
  · intro ms
    refine ⟨exists_ofStored_iff.trans inRange_iff, ?_, ?_⟩
    · intro t ht
      exact toMillis_of_ofMillis? (ofStored_eq_ok.mp ht)
    · intro e he
      rw [ofStored] at he
      cases hms : ofMillis? ms <;> simp_all
  · intro t ht
    obtain ⟨r, hr, hcut⟩ := exists_ofStored_toMillis ht
    obtain ⟨hle, hlt⟩ := hcut.nanos_bounds
    exact ⟨r, hr, hcut.1, le_of_nanos_le hcut.1 ht hle, hlt⟩

def beforeEpoch : Instant where
  second := -1
  nano := secondNanos - 1
  first_le := by
    rw [firstSecond]
    omega
  le_last := by
    rw [lastSecond]
    omega
  nano_lt := by
    rw [secondNanos]
    omega

theorem ofStored_toMillis_beforeEpoch :
    beforeEpoch.isLeap = false ∧
      (∃ r, ofStored (-1) = .ok r ∧ r ≤ beforeEpoch ∧ beforeEpoch.nanos < r.nanos + milliNanos) ∧
      (∃ t, ofStored 8210266876799999 = .ok t ∧ t.toMillis = 8210266876799999) ∧
      ¬ ∃ t, ofStored 8210266876800000 = .ok t := by
  obtain ⟨hms, -, hback⟩ := ofStored_toMillis
  refine ⟨rfl, ?_, ?_, ?_⟩
  · obtain ⟨r, hr, -, hle, hlt⟩ := hback beforeEpoch rfl
    exact ⟨r, hr, hle, hlt⟩
  · obtain ⟨t, ht⟩ := (hms 8210266876799999).1.mpr (by decide)
    exact ⟨t, ht, (hms _).2.1 t ht⟩
  · rw [(hms 8210266876800000).1]
    decide

end Time.Instant

namespace History

variable {h : History} {ranking : Ranking} {u : User} {e : Exercise} {id id' : Int}
  {x x' : Submission}

theorem IsTop.toMillis_le (htop : h.IsTop ranking u e id x) (hx' : h.IsCandidate u e id' x')
    (htie : ranking = .best → unitsOf x'.keptTotal = unitsOf x.keptTotal) :
    x'.time.toMillis ≤ x.time.toMillis := by
  rcases Prod.Lex.toLex_le_toLex.mp (htop.greatest id' x' hx') with hlt | ⟨-, hle⟩
  · cases ranking with
    | latest => exact absurd hlt (lt_irrefl 0)
    | best => exact absurd (htie rfl) hlt.ne
  · rcases Prod.Lex.toLex_le_toLex.mp hle with hlt | ⟨heq, -⟩
    · exact hlt.le
    · exact heq.le

/-- Kept times are in the order of time, but for leap seconds that overtake. So of two submissions,
told apart by nothing but their times, the earlier one is shown as the latest or the best only if
what is kept of both is the same or if it overtakes, and the later one only if it is not
overtaken. -/
theorem topSubmission_unless_overtakes (a b : Instant) (hle : a ≤ b) :
    (a.toMillis ≤ b.toMillis ↔ ¬ a.Overtakes b) ∧
    ∀ (h : History) (ranking : Ranking) (u : User) (e : Exercise) (access : Access)
      (y : Submission), (Book.topSubmission ranking u e access h.store).result = .ok (some y) →
      ∃ x, h.IsTop ranking u e y.id x ∧ ∀ id' x', h.IsCandidate u e id' x' →
        (ranking = .best → unitsOf x'.keptTotal = unitsOf x.keptTotal) →
        (x.time = a → x'.time = b → a.toMillis = b.toMillis ∨ a.Overtakes b) ∧
        (x.time = b → x'.time = a → ¬ a.Overtakes b) := by
  refine ⟨Instant.toMillis_le_iff hle, ?_⟩
  intro h ranking u e access y hy
  obtain ⟨x, htop, -⟩ := exists_isTop_of_topSubmission hy
  refine ⟨x, htop, ?_⟩
  intro id' x' hx' htie
  have hkept := htop.toMillis_le hx' htie
  constructor
  · rintro rfl rfl
    rcases hkept.lt_or_eq with hlt | heq
    · exact .inr (Instant.overtakes_of_toMillis_lt hle hlt)
    · exact .inl heq.symm
  · rintro rfl rfl
    exact (Instant.toMillis_le_iff hle).mp hkept

def leapHalf : Instant where
  second := 59
  nano := secondNanos + secondNanos / 2
  first_le := by
    rw [firstSecond]
    omega
  le_last := by
    rw [lastSecond]
    omega
  nano_lt := by
    rw [secondNanos]
    omega

def afterLeap : History :=
  let submit (t : Instant) : Move := .request .readWrite (.submit ⟨noId, ann, sums, t, [1, 1]⟩)
  (History.fresh.next (submit leapHalf)).next (submit (.inFirstHour 60 0))

/-- The first submission is shown as the latest, though the second one was given after it. -/
theorem topSubmission_unless_overtakes_afterLeap :
    leapHalf ≤ .inFirstHour 60 0 ∧
      ¬ leapHalf.toMillis ≤ (Instant.inFirstHour 60 0).toMillis ∧
      ∃ y, (Book.latestSubmission ann sums .readWrite afterLeap.store).result = .ok (some y) ∧
        y.id = 1 ∧ leapHalf.Overtakes (.inFirstHour 60 0) := by
  have hle : leapHalf ≤ .inFirstHour 60 0 := by decide
  have hlt : ¬ leapHalf.toMillis ≤ (Instant.inFirstHour 60 0).toMillis := by decide
  obtain ⟨-, hshown⟩ := topSubmission_unless_overtakes leapHalf (.inFirstHour 60 0) hle
  obtain ⟨_, hy, hsome⟩ : ∃ y, (Book.latestSubmission ann sums .readWrite afterLeap.store).result =
      .ok y ∧ y.map (·.id) = some 1 := exists_ok_of_map (by decide +kernel)
  obtain ⟨y, rfl, hid⟩ := Option.map_eq_some_iff.mp hsome
  obtain ⟨x, htop, hrest⟩ := hshown _ _ _ _ _ _ hy
  have hcurrent : afterLeap.current? y.id = some ⟨noId, ann, sums, leapHalf, [1, 1]⟩ := by
    rw [hid]
    rfl
  obtain rfl := Option.some.inj (htop.candidate.current.symm.trans hcurrent)
  have hcandidate : afterLeap.IsCandidate ann sums 2
      ⟨noId, ann, sums, .inFirstHour 60 0, [1, 1]⟩ := ⟨rfl, rfl, rfl⟩
  rcases (hrest 2 _ hcandidate (by simp)).1 rfl rfl with heq | hover
  · exact absurd heq.le hlt
  · exact ⟨hle, hlt, y, hy, hid, hover⟩

end History

end Markbook
