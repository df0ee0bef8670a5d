import Markbook.Proofs.RowChanges

namespace Markbook

open Store Work

theorem filter_key_eq {α κ : Type} [DecidableEq κ] {key : α → κ} {x : α} {xs : List α}
    (h : (xs.map key).Nodup) (hx : x ∈ xs) : xs.filter (key · == key x) = [x] := by
  induction xs with
  | nil => cases hx
  | cons y ys ih =>
      obtain ⟨hy, hys⟩ := List.nodup_cons.mp h
      rcases List.mem_cons.mp hx with rfl | hx
      · have hrest : ys.filter (key · == key x) = [] := by
          rw [List.filter_eq_nil_iff]
          intro z hz hkey
          exact hy (List.mem_map.mpr ⟨z, hz, by simpa using hkey⟩)
        simp [hrest]
      · have hne : ¬ key y = key x := fun hkey => hy (hkey ▸ List.mem_map_of_mem hx)
        simp [hne, ih hys hx]

namespace Store

theorem Cell.clashes_comm (a b : Cell) : a.clashes b = b.clashes a := by
  have himp {a b : Cell} (h : a.clashes b) : b.clashes a := by
    simp only [clashes, Bool.and_eq_true, bne_iff_ne, same_iff] at h ⊢
    have hkind : a.kind = b.kind := congrArg (fun x => (ofLex x).1) h.2
    exact ⟨hkind ▸ h.1, h.2.symm⟩
  exact Bool.eq_iff_iff.mpr ⟨himp, himp⟩

@[simp]
theorem Cell.clashes_int_int {m n : Int} : (int m).clashes (int n) = (m == n) := rfl

theorem Cell.clashes_int {n : Int} {c : Cell} : (int n).clashes c = c.same (int n) := by
  have hsame : (int n).same c = c.same (int n) := by
    rw [Bool.eq_iff_iff, same_iff, same_iff]
    exact eq_comm
  simp [clashes, kind, hsame]

@[simp]
theorem Cell.clashes_ofText {x y : Option String} :
    (ofText x).clashes (ofText y) = (x.isSome && x == y) := by
  cases x <;> cases y <;> simp [ofText, clashes, same, kind, units, words]

namespace Schema

variable {ρ : Type} {σ : Schema ρ} {a b : ρ}

def keys (σ : Schema ρ) : List (List (Column ρ)) :=
  (σ.rowId.map ([·.column])).toList ++ σ.unique

/-- The rows differ in every key. -/
def Apart (σ : Schema ρ) (a b : ρ) : Prop :=
  ∀ columns ∈ σ.keys, Table.clash columns a b = false

instance (σ : Schema ρ) (a b : ρ) : Decidable (σ.Apart a b) :=
  inferInstanceAs (Decidable (∀ columns ∈ σ.keys, Table.clash columns a b = false))

theorem Apart.symm (h : σ.Apart a b) : σ.Apart b a := by
  intro columns hcolumns
  rw [← h columns hcolumns, Table.clash, Table.clash]
  simp only [Cell.clashes_comm]

end Schema

theorem apart_user {a b : UserRow} :
    Relation.userSchema.Apart a b ↔
      a.id ≠ b.id ∧ (a.username.isSome → a.username ≠ b.username) := by
  simp [Schema.Apart, Schema.keys, Relation.userSchema, Table.clash, Column.key, Column.text]

theorem apart_exercise {a b : ExerciseRow} :
    Relation.exerciseSchema.Apart a b ↔ a.id ≠ b.id := by
  simp [Schema.Apart, Schema.keys, Relation.exerciseSchema, Table.clash, Column.key]

theorem apart_submission {a b : SubmissionRow} :
    Relation.submissionSchema.Apart a b ↔ a.id ≠ b.id := by
  simp [Schema.Apart, Schema.keys, Relation.submissionSchema, Table.clash, Column.key]

theorem apart_question {a b : QuestionRow} :
    Relation.questionSchema.Apart a b ↔
      a.exercise.clashes b.exercise = false ∨ a.question.clashes b.question = false := by
  simp [Schema.Apart, Schema.keys, Relation.questionSchema, Table.clash, Column.integer]

theorem apart_grade {a b : GradeRow} :
    Relation.gradeSchema.Apart a b ↔
      a.submission.clashes b.submission = false ∨ a.question.clashes b.question = false := by
  simp [Schema.Apart, Schema.keys, Relation.gradeSchema, Table.clash, Column.integer]

theorem apart_user_map {f : UserRow → UserRow}
    (hf : ∀ r, (f r).id = r.id ∧ (f r).username = r.username) (r o : UserRow) :
    Relation.userSchema.Apart (f r) o ↔ Relation.userSchema.Apart r o := by
  rw [apart_user, apart_user, (hf r).1, (hf r).2]

theorem apart_submission_map {f : SubmissionRow → SubmissionRow} (hf : ∀ r, (f r).id = r.id)
    (r o : SubmissionRow) :
    Relation.submissionSchema.Apart (f r) o ↔ Relation.submissionSchema.Apart r o := by
  rw [apart_submission, apart_submission, hf]

theorem nodup_userIds {rows : List UserRow} (h : rows.Pairwise Relation.userSchema.Apart) :
    (rows.map (·.id)).Nodup :=
  List.pairwise_map.mpr (h.imp fun hab => (apart_user.mp hab).1)

theorem nodup_submissionIds {rows : List SubmissionRow} :
    (rows.map (·.id)).Nodup ↔ rows.Pairwise Relation.submissionSchema.Apart := by
  rw [List.Nodup, List.pairwise_map]
  exact List.Pairwise.iff fun _ _ => apart_submission.symm

theorem apart_gradeRowOf {id : Int} {o : GradeRow} (h : ¬ Submissions.belongsTo id o)
    (x : Int × Float) : Relation.gradeSchema.Apart (Submissions.gradeRowOf id x) o := by
  have hother : o.submission.same (.int id) = false := Bool.eq_false_iff.mpr h
  refine apart_grade.mpr (.inl ?_)
  rw [Submissions.gradeRowOf, Cell.clashes_comm, Cell.clashes, hother, Bool.and_false]

theorem apart_gradeRowOf_of_lt (id : Int) {x y : Int × Float} (h : x.1 < y.1) :
    Relation.gradeSchema.Apart (Submissions.gradeRowOf id y) (Submissions.gradeRowOf id x) :=
  apart_grade.mpr (.inr (by simpa [Submissions.gradeRowOf] using h.ne'))

theorem forM_eq_ok {ε ι : Type} {f : ι → Except ε Unit} {xs : List ι} :
    xs.forM f = .ok () ↔ ∀ x ∈ xs, f x = .ok () := by
  induction xs with
  | nil => simp [List.forM, pure, Except.pure]
  | cons x xs ih =>
      change (f x >>= fun _ => xs.forM f) = .ok () ↔ _
      rw [bind_eq_ok, List.forall_mem_cons, ← ih]
      exact ⟨fun ⟨_, hx, hxs⟩ => ⟨hx, hxs⟩, fun ⟨hx, hxs⟩ => ⟨(), hx, hxs⟩⟩

namespace Table

variable {ρ : Type} {σ : Schema ρ} {t : Table ρ} {r : ρ} {f : ρ → ρ}

/-- Only the keys of the schema are unique, and no two rows share one. -/
structure Keyed (σ : Schema ρ) (t : Table ρ) : Prop where
  indexes : t.indexes = []
  rows : t.rows.Pairwise σ.Apart

theorem constraints_eq_keys (hi : t.indexes = []) : t.constraints σ = σ.keys := by
  simp [constraints, hi, Schema.keys]

theorem checkUnique_of_apart (hi : t.indexes = []) {others : List ρ}
    (hr : ∀ o ∈ others, σ.Apart r o) : t.checkUnique σ others r = .ok () := by
  have hfind : (t.constraints σ).find? (fun columns => others.any (clash columns r)) = none := by
    rw [constraints_eq_keys hi, List.find?_eq_none]
    intro columns hcolumns hany
    obtain ⟨o, ho, hclash⟩ := List.any_eq_true.mp hany
    simp [hr o ho columns hcolumns] at hclash
  simp [checkUnique, hfind]

theorem insert_of_apart (hi : t.indexes = []) (generated : Bool) (hr : ∀ o ∈ t.rows, σ.Apart r o) :
    t.insert σ generated r = do
      t.checkGuards σ .insert (σ.announced generated r)
      return { t with rows := t.rows ++ [r] } := by
  rw [insert, checkUnique_of_apart hi hr]
  rfl

theorem updateFrom_of_apart (hi : t.indexes = []) {selected : ρ → Bool}
    (hf : ∀ r o, σ.Apart (f r) o ↔ σ.Apart r o) {before rows : List ρ}
    (hrows : (before ++ rows).Pairwise σ.Apart) :
    t.updateFrom σ selected (fun r => .ok (f r)) before rows = do
      (rows.filter selected).forM fun r => t.checkGuards σ .update (f r)
      return before ++ rows.map fun r => if selected r then f r else r := by
  have hf' (r o : ρ) : σ.Apart o (f r) ↔ σ.Apart o r :=
    ⟨fun h => ((hf r o).mp h.symm).symm, fun h => ((hf r o).mpr h.symm).symm⟩
  -- A row is checked against those that are changed already and those that are not yet, so that
  -- the rows are apart at every step, whichever of them were changed.
  induction rows generalizing before with
  | nil =>
      rw [List.map_nil, List.append_nil]
      rfl
  | cons r after ih =>
      rw [updateFrom]
      split
      next hr =>
          have hrows' : (before ++ f r :: after).Pairwise σ.Apart := by
            simp only [List.pairwise_append, List.pairwise_cons, List.mem_cons,
              forall_eq_or_imp, hf, hf'] at hrows ⊢
            exact hrows
          have hunique : t.checkUnique σ (before ++ after) (f r) = .ok () := by
            obtain ⟨-, hafter, hbefore⟩ := List.pairwise_append.mp hrows'
            apply checkUnique_of_apart hi
            intro o ho
            rcases List.mem_append.mp ho with ho | ho
            · exact (hbefore o ho (f r) List.mem_cons_self).symm
            · exact (List.pairwise_cons.mp hafter).1 o ho
          rw [List.append_cons] at hrows'
          change (do
            t.checkGuards σ .update (f r)
            t.checkUnique σ (before ++ after) (f r)
            t.updateFrom σ selected (fun r => .ok (f r)) (before ++ [f r]) after) = _
          have hloop :
              ((r :: after).filter selected).forM (fun r => t.checkGuards σ .update (f r)) =
              (do
                t.checkGuards σ .update (f r)
                (after.filter selected).forM fun r => t.checkGuards σ .update (f r)) := by
            rw [List.filter_cons_of_pos hr]
            rfl
          rw [hunique, ih hrows', hloop, bind_assoc, List.map_cons, if_pos hr, List.append_assoc,
            List.singleton_append]
          rfl
      next hr =>
          rw [List.append_cons] at hrows
          rw [ih hrows, List.filter_cons_of_neg hr, List.map_cons, if_neg hr, List.append_assoc,
            List.singleton_append]

theorem update_of_apart (hi : t.indexes = []) {selected : ρ → Bool}
    (hf : ∀ r o, σ.Apart (f r) o ↔ σ.Apart r o) (hrows : t.rows.Pairwise σ.Apart) :
    t.update σ selected (fun r => .ok (f r)) = do
      (t.rows.filter selected).forM fun r => t.checkGuards σ .update (f r)
      return ((t.rows.filter selected).length,
        { t with rows := t.rows.map fun r => if selected r then f r else r }) := by
  rw [update, updateFrom_of_apart hi hf (by simpa using hrows)]
  cases (t.rows.filter selected).forM fun r => t.checkGuards σ .update (f r) <;> rfl

/-- The rows with what `f` makes of those that have the key of `r`, or with `r` at the end if there
is none. -/
def upserted (key : ρ → Int) (r : ρ) (f : ρ → ρ) (rows : List ρ) : List ρ :=
  if rows.any (key · == key r) then rows.map fun x => if key x == key r then f x else x
  else rows ++ [r]

theorem upsert_of_apart (hi : t.indexes = []) (key : ρ → Int)
    (hf : ∀ r o, σ.Apart (f r) o ↔ σ.Apart r o) (hrows : t.rows.Pairwise σ.Apart)
    (hr : (∀ o ∈ t.rows, key o ≠ key r) → ∀ o ∈ t.rows, σ.Apart r o) :
    t.upsert σ key r f = do
      t.checkGuards σ .insert r
      (t.rows.filter (key · == key r)).forM fun x => t.checkGuards σ .update (f x)
      return { t with rows := upserted key r f t.rows } := by
  rw [upsert]
  by_cases hany : t.rows.any (key · == key r)
  · rw [if_pos hany, update_of_apart hi hf hrows, upserted, if_pos hany]
    cases (t.rows.filter (key · == key r)).forM fun x => t.checkGuards σ .update (f x) <;> rfl
  · have hne : ∀ o ∈ t.rows, key o ≠ key r := by simpa using hany
    have hnone : t.rows.filter (key · == key r) = [] := by simpa using hne
    rw [if_neg hany, checkUnique_of_apart hi (hr hne), hnone, upserted, if_neg hany]
    rfl

end Table

def KeyedIn (s : Store) (t : Relation) : Prop :=
  ∀ x, s.table t = some x → x.Keyed t.schema

/-- All tables are keyed. What else their rows hold, and which of them belong together, is left
open. -/
def Keyed (s : Store) : Prop :=
  ∀ t, s.KeyedIn t

section

variable {s : Store} {t u : Relation}

theorem KeyedIn.rows (h : s.KeyedIn t) : (s.rows t).Pairwise t.schema.Apart := by
  cases ht : s.table t with
  | none => simp [Store.rows, ht]
  | some x =>
      rw [rows_of_table ht]
      exact (h x ht).rows

theorem KeyedIn.withRows (h : s.KeyedIn t) {rows : List t.Row}
    (hrows : rows.Pairwise t.schema.Apart) : (s.withRows t rows).KeyedIn t := by
  intro x hx
  rw [Store.withRows, table_setTable_self] at hx
  obtain ⟨y, hy, rfl⟩ := Option.map_eq_some_iff.mp hx
  exact ⟨(h y hy).indexes, hrows⟩

theorem KeyedIn.withRows_of_ne (h : s.KeyedIn u) (hu : u ≠ t) (rows : List t.Row) :
    (s.withRows t rows).KeyedIn u := by
  intro x hx
  rw [table_withRows_of_ne hu] at hx
  exact h x hx

end

end Store

end Markbook
