import Markbook.Store.Basic

namespace Markbook.Store

theorem bind_eq_ok {ε α β : Type} {x : Except ε α} {f : α → Except ε β} {y : β} :
    (x >>= f) = .ok y ↔ ∃ a, x = .ok a ∧ f a = .ok y := by
  cases x with
  | ok a =>
      constructor
      · exact fun h => ⟨a, rfl, h⟩
      · rintro ⟨_, ha, h⟩
        cases ha
        exact h
  | error e =>
      constructor
      · intro h
        cases h
      · rintro ⟨_, ha, -⟩
        cases ha

theorem pure_eq_ok {ε α : Type} {x y : α} : (pure x : Except ε α) = .ok y ↔ x = y := by
  change (Except.ok x = Except.ok y) ↔ _
  simp

theorem mapM_map_of_ok {ε ι ρ β : Type} {row : ι → ρ} {read : ρ → Except ε β} {g : ι → β}
    (h : ∀ x, read (row x) = .ok (g x)) (xs : List ι) :
    (xs.map row).mapM read = .ok (xs.map g) := by
  have hcomp : read ∘ row = fun x => pure (g x) := by
    funext x
    exact h x
  rw [List.mapM_map, hcomp, List.mapM_pure]
  rfl

def nextAfter (ids : List Int) : Int :=
  match ids.max? with
  | some n => n + 1
  | none => 1

theorem lt_nextAfter {ids : List Int} {n : Int} (h : n ∈ ids) : n < nextAfter ids := by
  rw [nextAfter]
  cases hm : ids.max? with
  | none =>
      rw [List.max?_eq_none_iff.mp hm] at h
      simp at h
  | some m => exact Int.lt_add_one_of_le ((List.max?_eq_some_iff.mp hm).2 n h)

theorem nextAfter_of_greatest {ids : List Int} {n : Int} (h : n ∈ ids) (hle : ∀ i ∈ ids, i ≤ n) :
    nextAfter ids = n + 1 := by
  rw [nextAfter, List.max?_eq_some_iff.mpr ⟨h, hle⟩]

namespace Table

variable {ρ : Type} {σ : Schema ρ} {t t' : Table ρ}

theorem insert_eq_ok {generated : Bool} {r : ρ} :
    t.insert σ generated r = .ok t' ↔
      t.checkGuards σ .insert (σ.announced generated r) = .ok () ∧
        t.checkUnique σ t.rows r = .ok () ∧ { t with rows := t.rows ++ [r] } = t' := by
  rw [insert]
  simp only [bind_eq_ok, pure_eq_ok]
  constructor
  · rintro ⟨_, hg, _, hu, h⟩
    exact ⟨hg, hu, h⟩
  · rintro ⟨hg, hu, h⟩
    exact ⟨(), hg, (), hu, h⟩

theorem updateFrom_eq_ok {selected : ρ → Bool} {f : ρ → ρ} {before rows rows' : List ρ}
    (h : t.updateFrom σ selected (fun r => .ok (f r)) before rows = .ok rows') :
    rows' = before ++ rows.map fun r => if selected r then f r else r := by
  induction rows generalizing before with
  | nil =>
      cases h
      simp
  | cons r after ih =>
      rw [updateFrom] at h
      by_cases hr : selected r
      · simp only [if_pos hr, bind_eq_ok] at h
        obtain ⟨r', hr', -, -, -, -, h⟩ := h
        cases hr'
        simpa [hr] using ih h
      · rw [if_neg hr] at h
        simpa [hr] using ih h

theorem update_eq_ok {selected : ρ → Bool} {f : ρ → ρ} {n : Nat}
    (h : t.update σ selected (fun r => .ok (f r)) = .ok (n, t')) :
    { t with rows := t.rows.map fun r => if selected r then f r else r } = t' := by
  rw [update] at h
  simp only [bind_eq_ok, pure_eq_ok, Prod.mk.injEq] at h
  obtain ⟨rows, hrows, -, rfl⟩ := h
  rw [updateFrom_eq_ok hrows, List.nil_append]

theorem upsert_eq_ok {key : ρ → Int} {r : ρ} {f : ρ → ρ} (h : t.upsert σ key r f = .ok t') :
    { t with rows :=
        if t.rows.any (key · == key r) then t.rows.map fun x => if key x == key r then f x else x
        else t.rows ++ [r] } = t' := by
  rw [upsert] at h
  simp only [bind_eq_ok] at h
  obtain ⟨-, -, h⟩ := h
  by_cases hr : t.rows.any (key · == key r)
  · simp only [if_pos hr, bind_eq_ok, pure_eq_ok, Prod.exists] at h
    obtain ⟨n, t₁, hu, rfl⟩ := h
    simpa [hr] using update_eq_ok hu
  · rw [if_neg hr] at h
    simp only [bind_eq_ok, pure_eq_ok] at h
    obtain ⟨-, -, rfl⟩ := h
    simp [hr]

theorem delete_eq_ok {selected : ρ → Bool} {n : Nat} (h : t.delete σ selected = .ok (n, t')) :
    n = (t.rows.filter selected).length ∧ { t with rows := t.rows.filter (!selected ·) } = t' := by
  rw [delete] at h
  simp only [bind_eq_ok, pure_eq_ok, Prod.mk.injEq] at h
  obtain ⟨-, -, rfl, rfl⟩ := h
  exact ⟨rfl, rfl⟩

end Table

variable {s : Store} {t u : Relation}

/-- The store with other rows in one of its tables. A table that is missing stays missing. -/
def withRows (s : Store) (t : Relation) (rows : List t.Row) : Store :=
  s.setTable t ((s.table t).map fun x => { x with rows })

def Complete (s : Store) : Prop :=
  ∀ t, (s.table t).isSome

theorem setTable_table (s : Store) (t : Relation) : s.setTable t (s.table t) = s := by
  cases t <;> rfl

theorem setTable_setTable (s : Store) (t : Relation) (x y : Option (Table t.Row)) :
    (s.setTable t x).setTable t y = s.setTable t y := by
  cases t <;> rfl

theorem rows_of_table {x : Table t.Row} (h : s.table t = some x) : s.rows t = x.rows := by
  simp [rows, h]

theorem withRows_of_table {x : Table t.Row} (h : s.table t = some x) (rows : List t.Row) :
    s.withRows t rows = s.setTable t (some { x with rows }) := by
  simp [withRows, h]

theorem table_withRows_of_ne (h : u ≠ t) (rows : List t.Row) :
    (s.withRows t rows).table u = s.table u :=
  table_setTable_of_ne s h _

theorem isSome_table_withRows (rows : List t.Row) :
    ((s.withRows t rows).table u).isSome = (s.table u).isSome := by
  by_cases h : u = t
  · subst u
    simp [withRows]
  · rw [table_withRows_of_ne h]

theorem Complete.withRows (h : s.Complete) (t : Relation) (rows : List t.Row) :
    (s.withRows t rows).Complete := by
  intro u
  rw [isSome_table_withRows]
  exact h u

theorem rows_withRows_self (h : (s.table t).isSome) (rows : List t.Row) :
    (s.withRows t rows).rows t = rows := by
  obtain ⟨x, hx⟩ := Option.isSome_iff_exists.mp h
  simp [withRows, Store.rows, hx]

theorem rows_withRows_of_ne (h : u ≠ t) (rows : List t.Row) :
    (s.withRows t rows).rows u = s.rows u := by
  simp [Store.rows, table_withRows_of_ne h]

theorem withRows_rows (s : Store) (t : Relation) : s.withRows t (s.rows t) = s := by
  cases h : s.table t with
  | none =>
      have ht := setTable_table s t
      rw [h] at ht
      simpa [withRows, h] using ht
  | some x => rw [withRows_of_table h, rows_of_table h, ← h, setTable_table]

theorem withRows_withRows (s : Store) (t : Relation) (xs ys : List t.Row) :
    (s.withRows t xs).withRows t ys = s.withRows t ys := by
  cases h : s.table t <;> simp [withRows, h, setTable_setTable]

theorem require_eq_ok {x : Table t.Row} : s.require t = .ok x ↔ s.table t = some x := by
  rw [require]
  cases s.table t <;> simp

theorem require_bind_congr {β : Type} {s' : Store} {f f' : Table t.Row → Except StoreError β}
    (ht : (s'.table t).isSome = (s.table t).isSome)
    (hf : ∀ x x', s.table t = some x → s'.table t = some x' → f' x' = f x) :
    (s'.require t >>= f') = (s.require t >>= f) := by
  cases hx : s.table t with
  | none =>
      rw [hx, Option.isSome_none, Option.isSome_eq_false_iff, Option.isNone_iff_eq_none] at ht
      simp only [require, hx, ht]
      rfl
  | some x =>
      rw [hx, Option.isSome_some, Option.isSome_iff_exists] at ht
      obtain ⟨x', hx'⟩ := ht
      rw [require_eq_ok.mpr hx, require_eq_ok.mpr hx']
      exact hf x x' hx hx'

end Markbook.Store
