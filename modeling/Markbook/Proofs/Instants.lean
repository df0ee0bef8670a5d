import Markbook.Time.Instant

namespace Markbook.Time.Instant

/-- Nanoseconds since the epoch. A leap second runs past the end of its second. -/
def nanos (t : Instant) : Int :=
  t.second * secondNanos + t.nano

/-- `c` is what is left of `t` without the part of a millisecond, told without leap seconds. -/
def IsCutOf (c t : Instant) : Prop :=
  c.isLeap = false ∧ c.nanos = t.nanos / milliNanos * milliNanos

def inFirstHour (second nano : Nat) : Instant where
  second := (second % 3600 : Nat)
  nano := nano % (2 * secondNanos)
  first_le := by
    rw [firstSecond]
    omega
  le_last := by
    rw [lastSecond]
    omega
  nano_lt := by
    rw [secondNanos]
    omega

theorem isLeap_iff_le {t : Instant} : t.isLeap ↔ secondNanos ≤ t.nano :=
  decide_eq_true_iff

/-- The instant with the same nanoseconds since the epoch that is in no leap second but at the end
of a minute. -/
def carried (t : Instant) : Instant :=
  if h : t.isLeap ∧ t.second % 60 ≠ 59 then
    { second := t.second + 1
      nano := t.nano - secondNanos
      first_le := by
        have hfirst := t.first_le
        omega
      le_last := by
        have hlast := t.le_last
        have hmid := h.2
        rw [lastSecond] at hlast ⊢
        omega
      nano_lt := by
        have hnano := t.nano_lt
        omega }
  else t

theorem carried_of_not {t : Instant} (h : t.isLeap → t.second % 60 = 59) : t.carried = t :=
  dif_neg fun hmid => hmid.2 (h hmid.1)

theorem second_carried {t : Instant} (h : t.isLeap) (hmid : t.second % 60 ≠ 59) :
    t.carried.second = t.second + 1 := by
  rw [carried, dif_pos ⟨h, hmid⟩]

theorem nano_carried {t : Instant} (h : t.isLeap) (hmid : t.second % 60 ≠ 59) :
    t.carried.nano = t.nano - secondNanos := by
  rw [carried, dif_pos ⟨h, hmid⟩]

theorem carried_eq_self_iff {t : Instant} : t.carried = t ↔ (t.isLeap → t.second % 60 = 59) := by
  constructor
  · intro heq hleap
    refine Decidable.byContradiction fun hmid => ?_
    have hsecond := second_carried hleap hmid
    rw [heq] at hsecond
    omega
  · exact carried_of_not

theorem nanos_carried (t : Instant) : t.carried.nanos = t.nanos := by
  by_cases h : t.isLeap → t.second % 60 = 59
  · rw [carried_of_not h]
  · obtain ⟨hleap, hmid⟩ := Classical.not_imp.mp h
    have hnano := isLeap_iff_le.mp hleap
    rw [nanos, nanos, second_carried hleap hmid, nano_carried hleap hmid]
    simp only [secondNanos] at hnano ⊢
    omega

theorem second_of_isLeap_carried (t : Instant) (h : t.carried.isLeap) :
    t.carried.second % 60 = 59 := by
  by_cases hmid : t.isLeap → t.second % 60 = 59
  · rw [carried_of_not hmid] at h ⊢
    exact hmid h
  · obtain ⟨hleap, hmid⟩ := Classical.not_imp.mp hmid
    have hnano := t.nano_lt
    rw [isLeap_iff_le, nano_carried hleap hmid] at h
    omega

theorem of?_eq_some {second : Int} {nano : Nat} {t : Instant} (h : of? second nano = some t) :
    t.second = second ∧ t.nano = nano := by
  rw [of?] at h
  split at h
  · cases h
    exact ⟨rfl, rfl⟩
  · cases h

theorem of?_eq_none {second : Int} {nano : Nat} :
    of? second nano = none ↔ ¬ (firstSecond ≤ second ∧ second ≤ lastSecond ∧
      nano < 2 * secondNanos ∧ (nano < secondNanos ∨ second % 60 = 59)) := by
  rw [of?]
  split <;> simp_all

def InRange (ms : Int) : Prop :=
  firstSecond * 1000 ≤ ms ∧ ms < (lastSecond + 1) * 1000

theorem ofMillis?_eq_none {ms : Int} : ofMillis? ms = none ↔ ¬ InRange ms := by
  rw [ofMillis?, of?_eq_none, InRange]
  simp only [firstSecond, lastSecond, secondNanos, milliNanos]
  omega

theorem isLeap_of_ofMillis? {ms : Int} {t : Instant} (h : ofMillis? ms = some t) :
    t.isLeap = false := by
  have hlt : t.nano < secondNanos := by
    simp only [(of?_eq_some h).2, secondNanos, milliNanos]
    omega
  exact decide_eq_false (Nat.not_le.mpr hlt)

theorem nanos_of_ofMillis? {ms : Int} {t : Instant} (h : ofMillis? ms = some t) :
    t.nanos = ms * milliNanos := by
  obtain ⟨hsecond, hnano⟩ := of?_eq_some h
  simp only [nanos, hsecond, hnano, secondNanos, milliNanos]
  omega

theorem isCutOf_of_ofMillis? {t c : Instant} (h : ofMillis? t.toMillis = some c) : c.IsCutOf t := by
  refine ⟨isLeap_of_ofMillis? h, ?_⟩
  rw [nanos_of_ofMillis? h]
  simp only [nanos, toMillis, secondNanos, milliNanos]
  omega

/-- The leap second at the end of all instants. It runs past the last instant in milliseconds. -/
def overruns (t : Instant) : Bool :=
  t.second == lastSecond && t.isLeap

theorem ofMillis?_toMillis_eq_none {t : Instant} : ofMillis? t.toMillis = none ↔ t.overruns := by
  have hfirst := t.first_le
  have hlast := t.le_last
  have hnano := t.nano_lt
  rw [ofMillis?, of?_eq_none, overruns, Bool.and_eq_true, beq_iff_eq, isLeap_iff_le]
  simp only [toMillis, firstSecond, lastSecond, secondNanos, milliNanos] at *
  omega

theorem isLeap_of_ofMillis?_eq_none {t : Instant} (h : ofMillis? t.toMillis = none) : t.isLeap :=
  (Bool.and_eq_true_iff.mp (ofMillis?_toMillis_eq_none.mp h)).2

end Markbook.Time.Instant
