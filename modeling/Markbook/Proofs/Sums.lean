import Markbook.Proofs.Grades
import Markbook.Proofs.Units

namespace Markbook

open Store

def keptUnits (g : Float) : Int :=
  unitsOf ((keptGrade? g).getD 0)

theorem foldl_exact {σ α : Type} {f : σ → α → σ} {units : α → Int} (Holds : σ → Int → Prop)
    {xs : List α} {t : σ} {n : Int}
    (hstep : ∀ t n, ∀ x ∈ xs, Holds t n → IsFloat (n + units x) → Holds (f t x) (n + units x))
    (ht : Holds t n) (hexact : ∀ k, IsFloat (n + ((xs.take k).map units).sum)) :
    Holds (xs.foldl f t) (n + (xs.map units).sum) := by
  induction xs generalizing t n with
  | nil => simpa using ht
  | cons x xs ih =>
      have hfirst : IsFloat (n + units x) := by simpa using hexact 1
      have hnext := hstep t n x List.mem_cons_self ht hfirst
      rw [List.map_cons, List.sum_cons, ← add_assoc]
      refine ih (fun t n y hy => hstep t n y (List.mem_cons_of_mem x hy)) hnext ?_
      intro k
      simpa [add_assoc] using hexact (k + 1)

theorem units_slip {x y t : Float} (hx : x.isFinite) (hy : y.isFinite) (ht : t.isFinite)
    (hunits : unitsOf t = unitsOf x + unitsOf y) :
    (x - t + y).isFinite ∧ unitsOf (x - t + y) = 0 := by
  have hdiff : unitsOf x - unitsOf t = -unitsOf y := by omega
  obtain ⟨hfinite, hback⟩ := units_sub hx ht (hdiff ▸ IsFloat.neg ⟨y, hy, rfl⟩)
  have hzero : unitsOf (x - t) + unitsOf y = 0 := by omega
  obtain ⟨hslip, hsum⟩ := units_add hfinite hy (hzero ▸ ⟨0, by decide, by decide⟩)
  exact ⟨hslip, hsum.trans hzero⟩

/-- The sum stands for `n` units, and no rounding error was gathered. -/
structure RunningSum.Holds (r : RunningSum) (n : Int) : Prop where
  sumFinite : r.sum.isFinite
  sum : unitsOf r.sum = n
  errorFinite : r.error.isFinite
  error : unitsOf r.error = 0

namespace RunningSum.Holds

variable {r : RunningSum} {n : Int} {g : Float}

theorem add (h : r.Holds n) (hg : g.isFinite) (hexact : IsFloat (n + unitsOf g)) :
    (r.add g).Holds (n + unitsOf g) := by
  obtain ⟨hsum, hn, herror, h0⟩ := h
  subst hn
  obtain ⟨htotal, ht⟩ := units_add hsum hg hexact
  have hslip : ∃ slip, (r.add g).error = r.error + slip ∧ slip.isFinite ∧ unitsOf slip = 0 := by
    refine ⟨_, rfl, ?_⟩
    split
    · exact units_slip hsum hg htotal ht
    · exact units_slip hg hsum htotal (ht.trans (Int.add_comm _ _))
  obtain ⟨slip, heq, hfinite, hslip⟩ := hslip
  have hzero : unitsOf r.error + unitsOf slip = 0 := by omega
  obtain ⟨herror', h0'⟩ := units_add herror hfinite (hzero ▸ ⟨0, by decide, by decide⟩)
  exact ⟨htotal, ht, heq ▸ herror', heq ▸ h0'.trans hzero⟩

theorem value (h : r.Holds n) (hexact : IsFloat n) : r.value.isFinite ∧ unitsOf r.value = n := by
  obtain ⟨hsum, rfl, herror, h0⟩ := h
  rw [RunningSum.value, if_pos herror]
  have hadd := units_add hsum herror (by rwa [h0, add_zero])
  rwa [h0, add_zero] at hadd

end RunningSum.Holds

namespace Store

def Cell.IsAmount (c : Cell) : Prop :=
  c = .null ∨ ∃ x : Float, x.isFinite ∧ c = .real x

/-- The cells can be added up from the left without rounding. -/
structure AddExactly (cells : List Cell) : Prop where
  amounts : ∀ c ∈ cells, c.IsAmount
  isFloat : ∀ n, IsFloat ((cells.take n).map Cell.units).sum

variable {cells : List Cell}

theorem AddExactly.holds (h : AddExactly cells) :
    ((cells.filterMap Cell.addend?).foldl RunningSum.add .zero).Holds
      (cells.map Cell.units).sum := by
  rw [List.foldl_filterMap, ← zero_add (cells.map Cell.units).sum]
  refine foldl_exact RunningSum.Holds ?_ ⟨by decide, by decide, by decide, by decide⟩ ?_
  · intro r n c hc hr hexact
    rcases h.amounts c hc with rfl | ⟨x, hx, rfl⟩
    · simpa [Cell.units, Cell.addend?] using hr
    · exact hr.add hx hexact
  · intro k
    rw [zero_add]
    exact h.isFloat k

theorem AddExactly.units_sumCells? (h : AddExactly cells) :
    unitsOf ((sumCells? cells).getD 0) = (cells.map Cell.units).sum := by
  have hholds := h.holds
  have htotal : IsFloat (cells.map Cell.units).sum := by simpa using h.isFloat cells.length
  rw [sumCells?]
  cases hxs : cells.filterMap Cell.addend? with
  | nil =>
      rw [hxs] at hholds
      exact hholds.sum
  | cons x xs =>
      rw [hxs] at hholds
      obtain ⟨hfinite, hunits⟩ := hholds.value htotal
      simp only [isNaN_of_isFinite hfinite]
      exact hunits

theorem sumCells?_eq_none (h : ∀ c ∈ cells, c = .null) : sumCells? cells = none := by
  have hnone : cells.filterMap Cell.addend? = [] := by
    rw [List.filterMap_eq_nil_iff]
    intro c hc
    rw [h c hc]
    rfl
  rw [sumCells?, hnone]

end Store

namespace Submission

variable {x : Submission}

def shownUnits (x : Submission) (n : Nat) : Int :=
  ((x.grades.take n).map keptUnits).sum

structure SumsExactly (x : Submission) : Prop where
  finite : ∀ g ∈ x.grades, g.isInf = false
  isFloat : ∀ n, IsFloat (x.shownUnits n)

end Submission

theorem isFinite_kept {g : Float} (hg : g.isInf = false) : ((keptGrade? g).getD 0).isFinite := by
  rw [keptGrade?]
  split
  next => decide
  next hnan =>
    change (if unitsOf g = 0 then (0 : Float) else g).isFinite
    split
    · decide
    · exact isFinite_of_not (Bool.eq_false_of_not_eq_true hnan) hg

theorem units_ofReal (g : Float) : (Cell.ofReal g).units = keptUnits g := by
  have hzero : unitsOf 0 = 0 := by decide
  rw [ofReal_eq, keptUnits]
  cases keptGrade? g with
  | none => exact hzero.symm
  | some y => rfl

namespace Submission

variable {x : Submission}

theorem SumsExactly.addExactly (h : x.SumsExactly) : AddExactly (x.grades.map Cell.ofReal) where
  amounts c hc := by
    obtain ⟨g, hg, rfl⟩ := List.mem_map.mp hc
    have hfinite := isFinite_kept (h.finite g hg)
    rw [ofReal_eq]
    cases hkept : keptGrade? g with
    | none => exact .inl rfl
    | some y =>
        rw [hkept] at hfinite
        exact .inr ⟨y, hfinite, rfl⟩
  isFloat n := by
    rw [← List.map_take, List.map_map]
    simpa [shownUnits, Function.comp_def, units_ofReal] using h.isFloat n

/-- What a ranking goes by is the exact total. -/
theorem SumsExactly.units_keptTotal (h : x.SumsExactly) :
    unitsOf x.keptTotal = (x.grades.map keptUnits).sum := by
  rw [keptTotal, h.addExactly.units_sumCells?, List.map_map]
  simp [Function.comp_def, units_ofReal]

theorem keptTotal_of_isNaN (h : ∀ g ∈ x.grades, g.isNaN) : x.keptTotal = 0 := by
  rw [keptTotal, sumCells?_eq_none]
  · rfl
  · intro c hc
    obtain ⟨g, hg, rfl⟩ := List.mem_map.mp hc
    rw [Cell.ofReal, if_pos (h g hg)]

theorem exists_sum_of_whole {grades : List Float}
    (hwhole : ∀ g ∈ grades, unitsPerOne ∣ keptUnits g) :
    ∃ n : Int, (grades.map keptUnits).sum = n * unitsPerOne ∧
      n.natAbs ≤ (grades.map fun g => (keptUnits g / unitsPerOne).natAbs).sum := by
  induction grades with
  | nil => exact ⟨0, (zero_mul _).symm, le_rfl⟩
  | cons g grades ih =>
      obtain ⟨n, hn, hle⟩ := ih fun g' hg' => hwhole g' (List.mem_cons_of_mem g hg')
      have hg := Int.ediv_mul_cancel (hwhole g List.mem_cons_self)
      refine ⟨keptUnits g / unitsPerOne + n, ?_, ?_⟩
      · rw [List.map_cons, List.sum_cons, hn, add_mul, hg]
      · rw [List.map_cons, List.sum_cons]
        exact (Int.natAbs_add_le _ _).trans (Nat.add_le_add_left hle _)

theorem sumsExactly_of_whole (hfinite : ∀ g ∈ x.grades, g.isInf = false)
    (hwhole : ∀ g ∈ x.grades, unitsPerOne ∣ keptUnits g)
    (hsmall : (x.grades.map fun g => (keptUnits g / unitsPerOne).natAbs).sum ≤ 2 ^ 53) :
    x.SumsExactly := by
  refine ⟨hfinite, ?_⟩
  intro k
  obtain ⟨n, hn, hle⟩ := exists_sum_of_whole fun g hg => hwhole g (List.mem_of_mem_take hg)
  rw [shownUnits, hn]
  refine isFloat_whole (hle.trans (le_trans ?_ hsmall))
  conv_rhs => rw [← List.take_append_drop k x.grades, List.map_append, List.sum_append]
  exact Nat.le_add_right _ _

end Submission

end Markbook
