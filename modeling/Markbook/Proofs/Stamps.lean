import Markbook.Proofs.Calendar
import Markbook.Proofs.Instants
import Markbook.Time.Stamp

namespace Markbook

namespace Text

theorem digit_spec (n : Nat) : (digit n).isDigit ∧ digitValue (digit n) = n % 10 := by
  have hall : ∀ k < 10, (Char.ofNat (48 + k)).isDigit ∧ digitValue (Char.ofNat (48 + k)) = k := by
    decide
  exact hall (n % 10) (Nat.mod_lt n (by decide))

theorem digitsValue_concat (ds : List Char) (d : Char) :
    digitsValue (ds ++ [d]) = 10 * digitsValue ds + digitValue d := by
  rw [digitsValue, List.foldl_append]
  rfl

@[simp]
theorem length_padded (width n : Nat) : (padded width n).length = width := by
  induction width generalizing n with
  | zero => rfl
  | succ width ih => simp [padded, ih]

theorem isDigit_of_mem_padded {width n : Nat} {c : Char} (h : c ∈ padded width n) : c.isDigit := by
  induction width generalizing n with
  | zero => cases h
  | succ width ih =>
      rcases List.mem_append.mp h with h | h
      · exact ih h
      · rw [List.mem_singleton.mp h]
        exact (digit_spec n).1

theorem digitsValue_padded (width n : Nat) : digitsValue (padded width n) = n % 10 ^ width := by
  induction width generalizing n with
  | zero => simp [padded, digitsValue, Nat.mod_one]
  | succ width ih =>
      rw [padded, digitsValue_concat, ih, (digit_spec n).2, Nat.pow_succ', Nat.mod_mul]
      omega

theorem readDigits_append {most : Nat} {ds rest : List Char} (hds : ∀ c ∈ ds, c.isDigit)
    (hne : ds ≠ []) (hlength : ds.length ≤ most)
    (hrest : ds.length = most ∨ ∀ c ∈ rest.head?, ¬ c.isDigit) :
    readDigits most (ds ++ rest) = some (ds, rest) := by
  have hstop : (rest.take (most - ds.length)).takeWhile Char.isDigit = [] := by
    rcases hrest with hmost | hhead
    · simp [hmost]
    · cases hr : rest with
      | nil => simp
      | cons c cs =>
          have hc : ¬ c.isDigit := hhead c (by simp [hr])
          cases most - ds.length with
          | zero => rfl
          | succ k => simp [hc]
  have hdigits : ((ds ++ rest).take most).takeWhile Char.isDigit = ds := by
    rw [List.take_append, List.take_of_length_le hlength, List.takeWhile_append_of_pos hds, hstop,
      List.append_nil]
  rw [readDigits, hdigits]
  simp [hne]

theorem lt_pow_widthFrom {fuel width n : Nat} (h : n < 10 ^ (width + fuel)) :
    n < 10 ^ widthFrom fuel width n := by
  induction fuel generalizing width with
  | zero => exact h
  | succ fuel ih =>
      rw [widthFrom]
      split
      next hlt => exact hlt
      next => exact ih (by rwa [Nat.add_assoc, Nat.add_comm 1])

theorem le_widthFrom (fuel width n : Nat) : width ≤ widthFrom fuel width n := by
  induction fuel generalizing width with
  | zero => exact Nat.le_refl width
  | succ fuel ih =>
      rw [widthFrom]
      split
      next => exact Nat.le_refl width
      next => exact Nat.le_of_succ_le (ih (width + 1))

theorem lt_pow_paddedTo (least n : Nat) : n < 10 ^ widthFrom n least n := by
  apply lt_pow_widthFrom
  calc n < 10 ^ n := Nat.lt_pow_self (by decide)
    _ ≤ 10 ^ (least + n) := Nat.pow_le_pow_right (by decide) (by omega)

/-- A number is read in the width that it was written in. Whatever may follow it, where no more
digits are read, and where more are read, no digit. -/
theorem readDigits_padded {width most n : Nat} {rest : List Char} (hwidth : 0 < width)
    (hmost : width ≤ most) (hrest : width = most ∨ ∀ c ∈ rest.head?, ¬ c.isDigit) :
    readDigits most (padded width n ++ rest) = some (padded width n, rest) := by
  apply readDigits_append
  · exact fun c hc => isDigit_of_mem_padded hc
  · exact List.ne_nil_of_length_pos (by rwa [length_padded])
  · rwa [length_padded]
  · rwa [length_padded]

theorem isBlank_of_isDigit {c : Char} (h : c.isDigit) : isBlank c = false := by
  simp only [Char.isDigit, Bool.and_eq_true, decide_eq_true_eq, ge_iff_le,
    UInt32.le_iff_toNat_le] at h
  have hvalue : 48 ≤ c.toNat ∧ c.toNat ≤ 57 := h
  simp [isBlank]
  omega

theorem trimStart_of_not {c : Char} (h : isBlank c = false) (cs : List Char) :
    trimStart (c :: cs) = c :: cs := by
  simp [trimStart, h]

theorem isDigit_of_padded_append_eq {width n : Nat} (hwidth : 0 < width) {rest cs : List Char}
    {c : Char} (h : padded width n ++ rest = c :: cs) : c.isDigit := by
  have hdigits (d : Char) (hd : d ∈ padded width n) : d.isDigit := isDigit_of_mem_padded hd
  have hlength := length_padded width n
  cases hp : padded width n with
  | nil =>
      rw [hp, List.length_nil] at hlength
      omega
  | cons d ds =>
      rw [hp, List.cons_append] at h
      obtain rfl := List.head_eq_of_cons_eq h
      exact hdigits d (hp ▸ List.mem_cons_self)

theorem trimStart_padded {width : Nat} (hwidth : 0 < width) (n : Nat) (rest : List Char) :
    trimStart (padded width n ++ rest) = padded width n ++ rest := by
  cases h : padded width n ++ rest with
  | nil => rfl
  | cons c cs =>
      have hc := isDigit_of_padded_append_eq hwidth h
      exact trimStart_of_not (isBlank_of_isDigit hc) cs

end Text

theorem Time.Instant.of?_of_eq {t : Instant} (ht : t.nano < secondNanos ∨ t.second % 60 = 59)
    {second : Int} {nano : Nat} (hsecond : second = t.second) (hnano : nano = t.nano) :
    of? second nano = some t := by
  subst hsecond hnano
  rw [of?, dif_pos ⟨t.first_le, t.le_last, t.nano_lt, ht⟩]

namespace Time.Stamp

open Text

theorem readField_padded {n : Nat} (h : n < 100) (rest : List Char) :
    readField (padded 2 n ++ rest) = some (n, rest) := by
  rw [readField, trimStart_padded (by decide),
    readDigits_padded (by decide) (Nat.le_refl 2) (.inl rfl)]
  simp [digitsValue_padded, Nat.mod_eq_of_lt h]

theorem readMark_cons {c : Char} (h : isBlank c = false) (rest : List Char) :
    readMark c (c :: rest) = some rest := by
  simp [readMark, trimStart_of_not h]

theorem readYear_padded {n : Nat} (h : n < 10000) (rest : List Char) :
    readYear (padded 4 n ++ rest) = some ((n : Int), rest) := by
  rw [readYear, trimStart_padded (by decide)]
  split
  next heq => cases isDigit_of_padded_append_eq (by decide) heq
  next heq => cases isDigit_of_padded_append_eq (by decide) heq
  next =>
      rw [readDigits_padded (by decide) (Nat.le_refl 4) (.inl rfl)]
      simp [digitsValue_padded, Nat.mod_eq_of_lt h]

theorem readYear_minus (cs : List Char) :
    readYear ('-' :: cs) =
      (readDigits cs.length cs).map fun x => (-(digitsValue x.1 : Int), x.2) := by
  rw [readYear, trimStart_of_not (by decide)]
  split
  next heq =>
      obtain rfl := List.tail_eq_of_cons_eq heq
      cases readDigits cs.length cs <;> rfl
  next heq => exact absurd (List.head_eq_of_cons_eq heq) (by decide)
  next hminus _ => exact absurd rfl (hminus cs)

theorem readYear_plus (cs : List Char) :
    readYear ('+' :: cs) =
      (readDigits cs.length cs).map fun x => ((digitsValue x.1 : Int), x.2) := by
  rw [readYear, trimStart_of_not (by decide)]
  split
  next heq => exact absurd (List.head_eq_of_cons_eq heq) (by decide)
  next heq =>
      obtain rfl := List.tail_eq_of_cons_eq heq
      cases readDigits cs.length cs <;> rfl
  next _ hplus => exact absurd rfl (hplus cs)

theorem readYear_yearText (year : Int) (rest : List Char) :
    readYear (yearText year ++ '-' :: rest) = some (year, '-' :: rest) := by
  rw [yearText]
  split
  next h =>
      rw [readYear_padded (by omega), Int.toNat_of_nonneg h.1]
  next h =>
      have hwidth := le_widthFrom year.natAbs 4 year.natAbs
      have hvalue : digitsValue (paddedTo 4 year.natAbs) = year.natAbs := by
        rw [paddedTo, digitsValue_padded, Nat.mod_eq_of_lt (lt_pow_paddedTo 4 year.natAbs)]
      have hread : readDigits (paddedTo 4 year.natAbs ++ '-' :: rest).length
          (paddedTo 4 year.natAbs ++ '-' :: rest) =
            some (paddedTo 4 year.natAbs, '-' :: rest) := by
        refine readDigits_padded (by omega) ?_ (.inr (by simp))
        simp [paddedTo]
      rw [List.cons_append]
      by_cases hneg : year < 0
      · rw [if_pos hneg, readYear_minus, hread, Option.map_some, hvalue]
        simp only [Option.some.injEq, Prod.mk.injEq, and_true]
        omega
      · rw [if_neg hneg, readYear_plus, hread, Option.map_some, hvalue]
        simp only [Option.some.injEq, Prod.mk.injEq, and_true]
        omega

theorem readFraction_dot (cs : List Char) :
    readFraction ('.' :: cs) = (readDigits 9 cs).map fun x =>
      (digitsValue x.1 * 10 ^ (9 - x.1.length), x.2.dropWhile Char.isDigit) := by
  rw [readFraction]
  cases readDigits 9 cs <;> rfl

theorem readFraction_padded {width n : Nat} (hwidth : 0 < width) (hle : width ≤ 9)
    (hn : n < 10 ^ width) {c : Char} (hc : ¬ c.isDigit) (rest : List Char) :
    readFraction ('.' :: padded width n ++ c :: rest) = some (n * 10 ^ (9 - width), c :: rest) := by
  have hrest : ∀ d ∈ (c :: rest).head?, ¬ d.isDigit := by simpa using hc
  rw [List.cons_append, readFraction_dot, readDigits_padded hwidth hle (.inr hrest)]
  simp [digitsValue_padded, Nat.mod_eq_of_lt hn, hc]

theorem readFraction_fractionText {nano : Nat} (h : nano < secondNanos) {c : Char}
    (hc : ¬ c.isDigit) (hdot : c ≠ '.') (rest : List Char) :
    readFraction (fractionText nano ++ c :: rest) = some (nano, c :: rest) := by
  rw [secondNanos] at h
  rw [fractionText]
  split
  next hzero =>
      rw [List.nil_append, readFraction, hzero]
      intro cs hcs
      exact hdot (List.head_eq_of_cons_eq hcs)
  next =>
      split
      next hmod =>
          rw [readFraction_padded (by decide) (by decide) (by omega) hc]
          simp only [Option.some.injEq, Prod.mk.injEq, and_true]
          omega
      next =>
          split
          next hmod =>
              rw [readFraction_padded (by decide) (by decide) (by omega) hc]
              simp only [Option.some.injEq, Prod.mk.injEq, and_true]
              omega
          next =>
              rw [readFraction_padded (by decide) (by decide) (by omega) hc]
              simp

theorem year_mem (t : Instant) :
    -262143 ≤ yearOfDay (t.second / 86400) ∧ yearOfDay (t.second / 86400) ≤ 262142 := by
  have hfirst := t.first_le
  have hlast := t.le_last
  rw [firstSecond] at hfirst
  rw [lastSecond] at hlast
  obtain ⟨hstart, hend⟩ := yearStart_yearOfDay (t.second / 86400)
  have hbegin : yearStart (-262143) = -96465292 := by decide
  have hover : yearStart 262143 = 95026237 := by decide
  constructor
  · have hlt : yearStart (-262143) < yearStart (yearOfDay (t.second / 86400) + 1) := by omega
    exact Int.le_of_lt_add_one (yearStart_strictMono.lt_iff_lt.mp hlt)
  · have hlt : yearStart (yearOfDay (t.second / 86400)) < yearStart 262143 := by omega
    exact Int.le_of_lt_add_one (yearStart_strictMono.lt_iff_lt.mp hlt)

/-- The parts of a written stamp are put together to the instant that it was written for, but that a
leap second is taken for the second after it, unless it ends a minute. -/
theorem instantAt_parts (t : Instant) :
    instantAt (Date.ofDayNumber (t.second / 86400)) ((t.second % 86400).toNat / 3600)
        ((t.second % 86400).toNat / 60 % 60)
        ((t.second % 86400).toNat % 60 + if t.isLeap then 1 else 0) (t.nano % secondNanos) 0 =
      some t.carried := by
  obtain ⟨hoccurs, hnumber⟩ := ofDayNumber_spec (t.second / 86400)
  obtain ⟨hlow, hhigh⟩ := year_mem t
  have hnano := t.nano_lt
  by_cases h : t.isLeap
  · have hge := Instant.isLeap_iff_le.mp h
    rw [if_pos h, instantAt, if_pos ⟨hoccurs, hlow, hhigh, by omega, by omega, by omega⟩, hnumber]
    by_cases hend : t.second % 60 = 59
    · have hsixty : (t.second % 86400).toNat % 60 + 1 = 60 := by omega
      rw [Instant.carried_of_not fun _ => hend, hsixty]
      refine Instant.of?_of_eq (.inr hend) ?_ ?_
      · simp
        omega
      · simp only [secondNanos, if_true] at hge hnano ⊢
        omega
    · have hne : (t.second % 86400).toNat % 60 + 1 ≠ 60 := by omega
      have hcarried := Instant.nano_carried h hend
      rw [if_neg hne, if_neg hne]
      refine Instant.of?_of_eq (.inl ?_) ?_ ?_
      · rw [hcarried]
        omega
      · rw [Instant.second_carried h hend]
        omega
      · rw [hcarried]
        simp only [secondNanos] at hge hnano ⊢
        omega
  · have hlt := Nat.lt_of_not_le (mt Instant.isLeap_iff_le.mpr h)
    have hne : (t.second % 86400).toNat % 60 + 0 ≠ 60 := by omega
    rw [Instant.carried_of_not fun hleap => absurd hleap h, if_neg h, instantAt,
      if_pos ⟨hoccurs, hlow, hhigh, by omega, by omega, by omega⟩, hnumber, if_neg hne, if_neg hne]
    refine Instant.of?_of_eq (.inl hlt) ?_ (Nat.mod_eq_of_lt hlt)
    omega

theorem readOffset_z (rest : List Char) : readOffset ('Z' :: rest) = some (0, rest) := by
  simp [readOffset]

theorem read_write (t : Instant) : read (write "Z" t) = some t.carried := by
  obtain ⟨hoccurs, -⟩ := ofDayNumber_spec (t.second / 86400)
  obtain ⟨hmonth, hday⟩ := Date.lt_of_occurs hoccurs
  have hparts := instantAt_parts t
  have hsecond : ((t.second % 86400).toNat % 60 + if t.isLeap then 1 else 0) < 100 := by
    split <;> omega
  have hnano : t.nano % secondNanos < secondNanos := Nat.mod_lt _ (by decide)
  have hhour : (t.second % 86400).toNat / 3600 < 100 := by omega
  have hminute : (t.second % 86400).toNat / 60 % 60 < 100 := by omega
  have hdash : isBlank '-' = false := by decide
  have hcolon : isBlank ':' = false := by decide
  have hz : isBlank 'Z' = false := by decide
  have hzone : "Z".toList = ['Z'] := rfl
  rw [write, hzone]
  generalize Date.ofDayNumber (t.second / 86400) = date at hmonth hday hparts ⊢
  generalize ((t.second % 86400).toNat % 60 + if t.isLeap then 1 else 0) = second
    at hsecond hparts ⊢
  simp only [List.append_assoc, List.cons_append]
  -- Each piece is read in front of all that is left to read.
  refine Option.bind_eq_some_iff.mpr ⟨_, readYear_yearText _ _, ?_⟩
  refine Option.bind_eq_some_iff.mpr ⟨_, readMark_cons hdash _, ?_⟩
  refine Option.bind_eq_some_iff.mpr ⟨_, readField_padded hmonth _, ?_⟩
  refine Option.bind_eq_some_iff.mpr ⟨_, readMark_cons hdash _, ?_⟩
  refine Option.bind_eq_some_iff.mpr ⟨_, readField_padded hday _, ?_⟩
  dsimp only
  rw [if_pos (.inl rfl)]
  refine Option.bind_eq_some_iff.mpr ⟨_, rfl, ?_⟩
  refine Option.bind_eq_some_iff.mpr ⟨_, readField_padded hhour _, ?_⟩
  refine Option.bind_eq_some_iff.mpr ⟨_, readMark_cons hcolon _, ?_⟩
  refine Option.bind_eq_some_iff.mpr ⟨_, readField_padded hminute _, ?_⟩
  refine Option.bind_eq_some_iff.mpr ⟨_, readMark_cons hcolon _, ?_⟩
  refine Option.bind_eq_some_iff.mpr ⟨_, readField_padded hsecond _, ?_⟩
  refine Option.bind_eq_some_iff.mpr
    ⟨_, readFraction_fractionText hnano (by decide) (by decide) _, ?_⟩
  refine Option.bind_eq_some_iff.mpr ⟨(0, []), ?_, (if_pos rfl).trans hparts⟩
  rw [trimStart_of_not hz, readOffset_z]

end Time.Stamp

theorem Time.Instant.ofStamp?_stamp (t : Instant) : ofStamp? t.stamp = some t.carried := by
  rw [ofStamp?, stamp, String.toList_ofList, Stamp.read_write]

end Markbook
