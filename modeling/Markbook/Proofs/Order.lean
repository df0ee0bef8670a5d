import Markbook.Store.Cell
import Markbook.Store.Order
import Mathlib.Data.List.Sort
import Mathlib.Data.Prod.Lex
import Mathlib.Data.String.Basic

namespace Markbook.Store

theorem unitsPerOne_pos : 0 < unitsPerOne := by
  rw [unitsPerOne]
  generalize 1074 = n
  exact Int.natCast_pos.mpr (Nat.pow_pos (by decide))

namespace Cell

/-- What cells are ordered by: their kind, their value as a number, their text. -/
def rank (c : Cell) : ℕ ×ₗ ℤ ×ₗ String :=
  toLex (c.kind, toLex (c.units, c.words))

theorem rank_int_le {m n : Int} : (int m).rank ≤ (int n).rank ↔ m ≤ n := by
  have hm : m * unitsPerOne ≤ n * unitsPerOne ↔ m ≤ n :=
    Int.mul_le_mul_iff_of_pos_right unitsPerOne_pos
  simp only [rank, kind, units, words, Prod.Lex.toLex_le_toLex, lt_self_iff_false, true_and,
    false_or, le_refl, and_true, ← le_iff_lt_or_eq, hm]

theorem le_iff {a b : Cell} : a.le b ↔ a.rank ≤ b.rank := by
  have hgeneral : (a.kind < b.kind || (a.kind == b.kind && (a.units < b.units ||
      (a.units == b.units && a.words ≤ b.words)))) = true ↔ a.rank ≤ b.rank := by
    simp [rank, Prod.Lex.toLex_le_toLex]
  cases a with
  | int m =>
      cases b with
      | int n => simp [le, rank_int_le]
      | _ => exact hgeneral
  | _ => exact hgeneral

theorem rank_int_inj {m n : Int} : (int m).rank = (int n).rank ↔ m = n := by
  rw [le_antisymm_iff, rank_int_le, rank_int_le, ← le_antisymm_iff]

theorem same_iff {a b : Cell} : a.same b ↔ a.rank = b.rank := by
  have hgeneral : (a.kind == b.kind && a.units == b.units && a.words == b.words) = true ↔
      a.rank = b.rank := by
    simp [rank, and_assoc]
  cases a with
  | int m =>
      cases b with
      | int n => simp [same, rank_int_inj]
      | _ => exact hgeneral
  | _ => exact hgeneral

@[simp]
theorem same_int_int {m n : Int} : (int m).same (int n) = (m == n) := rfl

theorem same_int_unique {c : Cell} {m n : Int} (hm : c.same (int m)) (hn : c.same (int n)) :
    m = n := by
  rw [same_iff] at hm hn
  exact rank_int_inj.mp (hm.symm.trans hn)

end Cell

section

variable {α : Type} {le next : α → α → Bool} {xs : List α}

theorem insertBefore_eq_orderedInsert (x : α) (ys : List α) :
    insertBefore le x ys = ys.orderedInsert (fun a b => le a b = true) x := by
  induction ys with
  | nil => rfl
  | cons y ys ih => simp [insertBefore, ih]

theorem arrange_eq_insertionSort (xs : List α) :
    arrange le xs = xs.insertionSort (fun a b => le a b = true) := by
  induction xs with
  | nil => rfl
  | cons x xs ih => simp [arrange, insertBefore_eq_orderedInsert, ih]

theorem arrange_of_pairwise (h : xs.Pairwise fun a b => le a b = true) : arrange le xs = xs := by
  rw [arrange_eq_insertionSort]
  exact h.insertionSort_eq

theorem perm_arrange (le : α → α → Bool) (xs : List α) : (arrange le xs).Perm xs := by
  rw [arrange_eq_insertionSort]
  exact List.perm_insertionSort _ xs

theorem arrange_map {β : Type} (f : β → α) (xs : List β) :
    arrange le (xs.map f) = (arrange (fun a b => le (f a) (f b)) xs).map f := by
  rw [arrange_eq_insertionSort, arrange_eq_insertionSort]
  exact (List.map_insertionSort _ _ f xs fun _ _ _ _ => Iff.rfl).symm

/-- Elements that are in order among themselves keep their order when all are arranged. -/
theorem filter_arrange {p : α → Bool} (h : (xs.filter p).Pairwise fun a b => le a b = true) :
    (arrange le xs).filter p = xs.filter p := by
  have hsub : (xs.filter p).Sublist (arrange le xs) := by
    rw [arrange_eq_insertionSort]
    exact List.sublist_insertionSort h List.filter_sublist
  have hfilter : (xs.filter p).Sublist ((arrange le xs).filter p) := by
    simpa using hsub.filter p
  exact (hfilter.eq_of_length ((perm_arrange le xs).filter p).length_eq.symm).symm

theorem greatest?_eq_none : greatest? le xs = none ↔ xs = [] := by
  cases xs with
  | nil => simp [greatest?]
  | cons x xs =>
      rw [greatest?]
      split
      · simp
      · split <;> simp

theorem pairwise_arrange {γ : Type} [LinearOrder γ] {key : α → γ}
    (hle : ∀ a b, le a b ↔ key a ≤ key b) (xs : List α) :
    (arrange le xs).Pairwise fun a b => key a ≤ key b := by
  have htotal : Std.Total fun a b => le a b = true :=
    ⟨fun a b => by simpa only [hle] using le_total (key a) (key b)⟩
  have htrans : IsTrans α fun a b => le a b = true :=
    ⟨fun a b c hab hbc => (hle a c).mpr (((hle a b).mp hab).trans ((hle b c).mp hbc))⟩
  rw [arrange_eq_insertionSort]
  exact (List.pairwise_insertionSort _ xs).imp fun hab => (hle _ _).mp hab

theorem pairwise_lt_arrange {γ : Type} [LinearOrder γ] {key : α → γ}
    (hle : ∀ a b, le a b ↔ key a ≤ key b) (hkeys : (xs.map key).Nodup) :
    (arrange le xs).Pairwise fun a b => key a < key b := by
  have hnodup : ((arrange le xs).map key).Nodup := ((perm_arrange le xs).map key).nodup_iff.mpr hkeys
  have hne : (arrange le xs).Pairwise fun a b => key a ≠ key b := List.pairwise_map.mp hnodup
  exact ((pairwise_arrange hle xs).and hne).imp fun ⟨hle, hne⟩ => lt_of_le_of_ne hle hne

theorem exists_arrange_map {ι γ : Type} [LinearOrder γ] {row : ι → α} {key : ι → γ}
    (hle : ∀ x y, le (row x) (row y) ↔ key x ≤ key y) {xs : List ι} (hkeys : (xs.map key).Nodup) :
    ∃ ordered : List ι, ordered.Perm xs ∧ (ordered.Pairwise fun x y => key x < key y) ∧
      arrange le (xs.map row) = ordered.map row :=
  ⟨arrange (fun x y => le (row x) (row y)) xs, perm_arrange _ xs, pairwise_lt_arrange hle hkeys,
    arrange_map row xs⟩

theorem greatest?_spec {γ : Type} [LinearOrder γ] {key : α → γ}
    (hle : ∀ a b, le a b ↔ key a ≤ key b) {m : α} (h : greatest? le xs = some m) :
    m ∈ xs ∧ ∀ x ∈ xs, key x ≤ key m := by
  induction xs generalizing m with
  | nil => cases h
  | cons x xs ih =>
      rw [greatest?] at h
      cases hg : greatest? le xs with
      | none =>
          simp only [hg, Option.some.injEq] at h
          subst h
          simp [greatest?_eq_none.mp hg]
      | some y =>
          obtain ⟨hy, hall⟩ := ih hg
          simp only [hg] at h
          by_cases hxy : le x y
          · rw [if_pos hxy, Option.some.injEq] at h
            subst h
            exact ⟨.tail _ hy, List.forall_mem_cons.mpr ⟨(hle x y).mp hxy, hall⟩⟩
          · rw [if_neg hxy, Option.some.injEq] at h
            subst h
            have hyx : key y ≤ key x := (not_le.mp fun hkey => hxy ((hle x y).mpr hkey)).le
            refine ⟨.head _, List.forall_mem_cons.mpr ⟨le_rfl, ?_⟩⟩
            intro z hz
            exact (hall z hz).trans hyx

theorem greatest?_eq_some {γ : Type} [LinearOrder γ] {key : α → γ}
    (hle : ∀ a b, le a b ↔ key a ≤ key b)
    (hinj : ∀ a ∈ xs, ∀ b ∈ xs, key a = key b → a = b) {m : α} :
    greatest? le xs = some m ↔ m ∈ xs ∧ ∀ x ∈ xs, key x ≤ key m := by
  refine ⟨greatest?_spec hle, ?_⟩
  rintro ⟨hm, hall⟩
  cases hg : greatest? le xs with
  | none =>
      rw [greatest?_eq_none.mp hg] at hm
      cases hm
  | some m' =>
      obtain ⟨hm', hall'⟩ := greatest?_spec hle hg
      rw [hinj m' hm' m hm (le_antisymm (hall m' hm') (hall' m hm))]

theorem lexLe_iff {β γ : Type} [LinearOrder β] [LinearOrder γ] {f : α → β} {g : α → γ} {a b : α}
    (hf : le a b ↔ f a ≤ f b) (hf' : le b a ↔ f b ≤ f a) (hg : next a b ↔ g a ≤ g b) :
    lexLe le next a b ↔ toLex (f a, g a) ≤ toLex (f b, g b) := by
  simp only [lexLe, Bool.and_eq_true, Bool.or_eq_true, Bool.not_eq_eq_eq_not, Bool.not_true,
    ← Bool.not_eq_true, hf, hf', hg, Prod.Lex.toLex_le_toLex, not_le]
  constructor
  · rintro ⟨hle, hlt | hnext⟩
    · exact .inl hlt
    · exact hle.lt_or_eq.imp_right fun heq => ⟨heq, hnext⟩
  · rintro (hlt | ⟨heq, hnext⟩)
    · exact ⟨hlt.le, .inl hlt⟩
    · exact ⟨heq.le, .inr hnext⟩

end

end Markbook.Store
