import Markbook.Time.Calendar
import Mathlib

namespace Markbook.Time

theorem isLeap_iff {year : Int} :
    isLeap year ↔ year % 4 = 0 ∧ (year % 100 ≠ 0 ∨ year % 400 = 0) := by
  simp [isLeap]

/-- The quotient by the mean length of a year is at most one off. -/
theorem yearStart_near (n : Int) :
    yearStart (400 * n / 146097 + 1970 - 1) ≤ n ∧ n < yearStart (400 * n / 146097 + 1970 + 2) := by
  simp only [yearStart, leapYears]
  omega

theorem yearStart_yearOfDay (n : Int) :
    yearStart (yearOfDay n) ≤ n ∧ n < yearStart (yearOfDay n + 1) := by
  have hnear := yearStart_near n
  rw [yearOfDay]
  generalize 400 * n / 146097 + 1970 = year at hnear ⊢
  split
  next h => exact ⟨hnear.1, by rwa [Int.sub_add_cancel]⟩
  next h =>
      split
      next h' => exact ⟨h', by rw [Int.add_assoc]; exact hnear.2⟩
      next h' => exact ⟨Int.not_lt.mp h, Int.not_le.mp h'⟩

theorem sum_monthLengths (year : Int) :
    ((monthLengths year).sum : Int) = yearStart (year + 1) - yearStart year := by
  have hsum : (monthLengths year).sum = if isLeap year then 366 else 365 := by
    simp only [monthLengths]
    split <;> rfl
  rw [hsum, yearStart, yearStart, leapYears, leapYears, leapYears]
  split
  next h =>
    rw [isLeap_iff] at h
    omega
  next h =>
    rw [isLeap_iff] at h
    omega

theorem yearStart_strictMono : StrictMono yearStart := by
  apply strictMono_int_of_lt_succ
  intro year
  have hsum := sum_monthLengths year
  have hpos : 31 ≤ (monthLengths year).sum := by simp [monthLengths]
  omega

theorem placeDay_spec (month : Nat) (lengths : List Nat) (k : Nat) (h : k < lengths.sum) :
    ∃ i n, lengths[i]? = some n ∧ (placeDay month lengths k).1 = month + i ∧
      1 ≤ (placeDay month lengths k).2 ∧ (placeDay month lengths k).2 ≤ n ∧
      daysBefore lengths i + ((placeDay month lengths k).2 - 1) = k := by
  induction lengths generalizing month k with
  | nil => simp at h
  | cons n lengths ih =>
      rw [placeDay]
      split
      next hk => exact ⟨0, n, rfl, rfl, by omega, by omega, by simp [daysBefore]⟩
      next hk =>
          rw [List.sum_cons] at h
          obtain ⟨i, m, hi, hmonth, hone, hday, hbefore⟩ := ih (month + 1) (k - n) (by omega)
          refine ⟨i + 1, m, by simpa using hi, by omega, hone, hday, ?_⟩
          rw [daysBefore]
          omega

theorem ofDayNumber_eq (n : Int) :
    Date.ofDayNumber n =
      let place := placeDay 1 (monthLengths (yearOfDay n)) (n - yearStart (yearOfDay n)).toNat
      ⟨yearOfDay n, place.1, place.2⟩ := rfl

theorem ofDayNumber_spec (n : Int) :
    (Date.ofDayNumber n).occurs ∧ (Date.ofDayNumber n).dayNumber = n := by
  obtain ⟨hstart, hend⟩ := yearStart_yearOfDay n
  have hsum := sum_monthLengths (yearOfDay n)
  obtain ⟨i, m, hi, hmonth, hone, hday, hbefore⟩ :=
    placeDay_spec 1 (monthLengths (yearOfDay n)) (n - yearStart (yearOfDay n)).toNat (by omega)
  rw [ofDayNumber_eq]
  generalize placeDay 1 (monthLengths (yearOfDay n)) (n - yearStart (yearOfDay n)).toNat = place
    at hmonth hone hday hbefore ⊢
  have hindex : place.1 - 1 = i := by omega
  constructor
  · simp [Date.occurs, hindex, hi, hone, hday]
    omega
  · simp only [Date.dayNumber, hindex, hbefore]
    omega

theorem monthLengths_le {year : Int} {n : Nat} (h : n ∈ monthLengths year) : n ≤ 31 := by
  have hfebruary : (if isLeap year then 29 else 28) ≤ 31 := by
    split <;> decide
  simp only [monthLengths, List.mem_cons, List.not_mem_nil, or_false] at h
  omega

theorem Date.lt_of_occurs {d : Date} (h : d.occurs) : d.month < 100 ∧ d.day < 100 := by
  simp only [occurs, Bool.and_eq_true, decide_eq_true_eq] at h
  obtain ⟨⟨hmonth, hone⟩, hday⟩ := h
  cases hi : (monthLengths d.year)[d.month - 1]? with
  | none =>
      rw [hi, Option.getD_none] at hday
      omega
  | some n =>
      rw [hi, Option.getD_some] at hday
      have hlt : d.month - 1 < 12 := (List.getElem?_eq_some_iff.mp hi).1
      have hle := monthLengths_le (List.mem_of_getElem? hi)
      omega

end Markbook.Time
