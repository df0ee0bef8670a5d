import Markbook.Proofs.Atomicity
import Markbook.Proofs.Keys
import Mathlib.Data.List.Find

namespace Markbook

open Store Work

namespace Work

variable {α β : Type} {R : Store → Store → Prop} {a : Access}

/-- On related stores the work has the same result, and it leaves related stores. -/
def InStep (R : Store → Store → Prop) (a : Access) (w : Work α) : Prop :=
  ∀ s s', R s s' → (w a s').result = (w a s).result ∧ R (w a s).store (w a s').store

theorem InStep.bind_of_result {w : Work α} {f : α → Work β} (hw : InStep R a w)
    (hf : ∀ x s s', R s s' → (w a s).result = .ok x → InStep R a (f x)) :
    InStep R a (w >>= f) := by
  intro s s' h
  obtain ⟨hresult, hstore⟩ := hw s s' h
  cases hr : (w a s).result with
  | ok x =>
      obtain ⟨h₁, h₂⟩ := bind_of_gives (f := f) ⟨hr, rfl⟩
      obtain ⟨h₁', h₂'⟩ := bind_of_gives (f := f) ⟨hresult.trans hr, rfl⟩
      rw [h₁, h₂, h₁', h₂']
      exact hf x s s' h hr _ _ hstore
  | error e =>
      obtain ⟨h₁, h₂⟩ := bind_of_error (f := f) hr
      obtain ⟨h₁', h₂'⟩ := bind_of_error (f := f) (hresult.trans hr)
      rw [h₁, h₂, h₁', h₂']
      exact ⟨rfl, hstore⟩

theorem InStep.bind {w : Work α} {f : α → Work β} (hw : InStep R a w)
    (hf : ∀ x, InStep R a (f x)) : InStep R a (w >>= f) :=
  hw.bind_of_result fun x _ _ _ _ => hf x

theorem inStep_pure {x : α} : InStep R a (pure x) :=
  fun _ _ h => ⟨rfl, h⟩

theorem inStep_report {e : Event} : InStep R a (report e) :=
  fun _ _ h => ⟨rfl, h⟩

theorem inStep_ofExcept {r : Except Fault α} : InStep R a (ofExcept r) := by
  intro s s' h
  cases r <;> exact ⟨rfl, h⟩

theorem inStep_read {f : Store → Except StoreError α} (hf : ∀ s s', R s s' → f s' = f s) :
    InStep R a (read f) := by
  intro s s' h
  rw [read, read, hf s s' h]
  cases a.fault? <;> exact ⟨rfl, h⟩

theorem inStep_forM {ι : Type} {f : ι → Work Unit} (hf : ∀ x, InStep R a (f x)) (xs : List ι) :
    InStep R a (xs.forM f) := by
  induction xs with
  | nil => exact inStep_pure
  | cons x xs ih => exact (hf x).bind fun _ => ih

theorem InStep.transaction {w : Work α} (hw : InStep R a w) : InStep R a (transaction w) := by
  refine InStep.bind ?_ fun _ => ?_
  · intro s s' h
    rw [connected, connected]
    split <;> exact ⟨rfl, h⟩
  · intro s s' h
    obtain ⟨hresult, hstore⟩ := hw s s' h
    cases hr : (w a s).result with
    | ok x =>
        rw [hr] at hresult
        simp only [atomically, hr, hresult]
        exact ⟨trivial, hstore⟩
    | error e =>
        rw [hr] at hresult
        simp only [atomically, hr, hresult]
        exact ⟨trivial, h⟩

end Work

namespace Users

/-- What a user row keeps when the user is renamed. -/
def account (r : UserRow) : Int × Option String × Option String :=
  (r.id, r.username, r.password)

def rowOfAccount (u : User) (x : Int × Option String × Option String) : UserRow :=
  ⟨x.1, x.2.1, some u.firstname, some u.lastname, x.2.2⟩

theorem pairwise_apart_iff {rows : List UserRow} :
    rows.Pairwise Relation.userSchema.Apart ↔
      (rows.map account).Pairwise fun x y => x.1 ≠ y.1 ∧ (x.2.1.isSome → x.2.1 ≠ y.2.1) := by
  rw [List.pairwise_map]
  exact List.Pairwise.iff fun _ _ => apart_user

theorem map_id_find? (rows : List UserRow) (username : String) :
    (rows.find? (hasUsername username)).map (·.id) =
      ((rows.map account).find? (·.2.1 == some username)).map (·.1) := by
  rw [List.find?_map, Option.map_map]
  rfl

end Users

namespace Store

def frame (s : Store) (t : Relation) : Option (List (Column t.Row) × List (Guard t.Row)) :=
  (s.table t).map fun x => (x.indexes, x.guards)

/-- Users and submissions are keyed, and no column of the grades is unique by itself. -/
structure Tidy (s : Store) : Prop where
  users : s.KeyedIn .user
  submissions : s.KeyedIn .submission
  grades : ∀ x, s.table .grade = some x → x.indexes = []

/-- Two stores that agree in what storing `x` under its id depends on. -/
structure AgreeOn (x : Submission) (s s' : Store) : Prop where
  tidy : s.Tidy
  tidy' : s'.Tidy
  frame : ∀ t, s'.frame t = s.frame t
  known : ∃ u ∈ s.rows .user, u.username = some x.user.username
  accounts : (s'.rows .user).map Users.account = (s.rows .user).map Users.account
  submissions : (s'.rows .submission).any (·.id == x.id) = (s.rows .submission).any (·.id == x.id)
  grades : (s'.rows .grade).filter (Submissions.belongsTo x.id) =
    (s.rows .grade).filter (Submissions.belongsTo x.id)

variable {s s' : Store} {t u : Relation} {x : Submission}

theorem frame_withRows (rows : List t.Row) : (s.withRows t rows).frame u = s.frame u := by
  by_cases h : u = t
  · subst u
    rw [frame, frame, withRows, table_setTable_self, Option.map_map]
    rfl
  · rw [frame, frame, table_withRows_of_ne h]

theorem isSome_of_frame (h : s'.frame t = s.frame t) :
    (s'.table t).isSome = (s.table t).isSome := by
  have hsome := congrArg Option.isSome h
  simpa [frame] using hsome

theorem guards_of_frame (h : s'.frame t = s.frame t) {x x' : Table t.Row} (hx : s.table t = some x)
    (hx' : s'.table t = some x') (σ : Schema t.Row) (change : Change) (r : t.Row) :
    x'.checkGuards σ change r = x.checkGuards σ change r := by
  simp only [frame, hx, hx', Option.map_some, Option.some.injEq, Prod.mk.injEq] at h
  rw [Table.checkGuards, Table.checkGuards, h.2]

theorem Tidy.withUsers (h : s.Tidy) {rows : List UserRow}
    (hrows : rows.map Users.account = (s.rows .user).map Users.account) :
    (s.withRows .user rows).Tidy where
  users := by
    refine h.users.withRows ?_
    refine Users.pairwise_apart_iff.mpr ?_
    rw [hrows]
    exact Users.pairwise_apart_iff.mp h.users.rows
  submissions := h.submissions.withRows_of_ne (by decide) _
  grades := by
    intro x hx
    rw [table_withRows_of_ne (by decide)] at hx
    exact h.grades x hx

theorem Tidy.withSubmissions (h : s.Tidy) {rows : List SubmissionRow}
    (hrows : (rows.map (·.id)).Nodup) : (s.withRows .submission rows).Tidy where
  users := h.users.withRows_of_ne (by decide) _
  submissions := h.submissions.withRows (nodup_submissionIds.mp hrows)
  grades := by
    intro x hx
    rw [table_withRows_of_ne (by decide)] at hx
    exact h.grades x hx

theorem Tidy.withGrades (h : s.Tidy) (rows : List GradeRow) : (s.withRows .grade rows).Tidy where
  users := h.users.withRows_of_ne (by decide) _
  submissions := h.submissions.withRows_of_ne (by decide) _
  grades := by
    intro x hx
    rw [withRows, table_setTable_self] at hx
    obtain ⟨y, hy, rfl⟩ := Option.map_eq_some_iff.mp hx
    exact h.grades y hy

theorem Tidy.submissionIds (h : s.Tidy) : ((s.rows .submission).map (·.id)).Nodup :=
  nodup_submissionIds.mpr h.submissions.rows

theorem AgreeOn.withUsers (h : AgreeOn x s s') (ht : (s.table .user).isSome)
    {rows rows' : List UserRow} (hrows : rows.map Users.account = (s.rows .user).map Users.account)
    (hrows' : rows'.map Users.account = (s'.rows .user).map Users.account) :
    AgreeOn x (s.withRows .user rows) (s'.withRows .user rows') where
  tidy := h.tidy.withUsers hrows
  tidy' := h.tidy'.withUsers hrows'
  frame t := by rw [frame_withRows, frame_withRows, h.frame]
  known := by
    obtain ⟨u, hu, hname⟩ := h.known
    have hmem : Users.account u ∈ rows.map Users.account := hrows ▸ List.mem_map_of_mem hu
    obtain ⟨v, hv, haccount⟩ := List.mem_map.mp hmem
    rw [rows_withRows_self ht]
    refine ⟨v, hv, Eq.trans ?_ hname⟩
    exact congrArg (·.2.1) haccount
  accounts := by
    rw [rows_withRows_self ht, rows_withRows_self (isSome_of_frame (h.frame .user) ▸ ht), hrows,
      hrows', h.accounts]
  submissions := by
    rw [rows_withRows_of_ne (by decide), rows_withRows_of_ne (by decide), h.submissions]
  grades := by rw [rows_withRows_of_ne (by decide), rows_withRows_of_ne (by decide), h.grades]

theorem AgreeOn.withSubmissions (h : AgreeOn x s s') (ht : (s.table .submission).isSome)
    {rows rows' : List SubmissionRow} (hn : (rows.map (·.id)).Nodup)
    (hn' : (rows'.map (·.id)).Nodup)
    (hany : rows'.any (·.id == x.id) = rows.any (·.id == x.id)) :
    AgreeOn x (s.withRows .submission rows) (s'.withRows .submission rows') where
  tidy := h.tidy.withSubmissions hn
  tidy' := h.tidy'.withSubmissions hn'
  frame t := by rw [frame_withRows, frame_withRows, h.frame]
  known := by
    rw [rows_withRows_of_ne (by decide)]
    exact h.known
  accounts := by
    rw [rows_withRows_of_ne (by decide), rows_withRows_of_ne (by decide), h.accounts]
  submissions := by
    have ht' : (s'.table .submission).isSome := isSome_of_frame (h.frame .submission) ▸ ht
    rw [rows_withRows_self ht, rows_withRows_self ht', hany]
  grades := by rw [rows_withRows_of_ne (by decide), rows_withRows_of_ne (by decide), h.grades]

theorem AgreeOn.withGrades (h : AgreeOn x s s') (ht : (s.table .grade).isSome)
    {rows rows' : List GradeRow}
    (hrows : rows'.filter (Submissions.belongsTo x.id) = rows.filter (Submissions.belongsTo x.id)) :
    AgreeOn x (s.withRows .grade rows) (s'.withRows .grade rows') where
  tidy := h.tidy.withGrades rows
  tidy' := h.tidy'.withGrades rows'
  frame t := by rw [frame_withRows, frame_withRows, h.frame]
  known := by
    rw [rows_withRows_of_ne (by decide)]
    exact h.known
  accounts := by
    rw [rows_withRows_of_ne (by decide), rows_withRows_of_ne (by decide), h.accounts]
  submissions := by
    rw [rows_withRows_of_ne (by decide), rows_withRows_of_ne (by decide), h.submissions]
  grades := by
    rw [rows_withRows_self ht, rows_withRows_self (isSome_of_frame (h.frame .grade) ▸ ht), hrows]

end Store

section

variable {x : Submission} {a : Access}

theorem AgreeOn.inStep_write {α : Type} {t : Relation}
    {f : Table t.Row → Except StoreError (α × Table t.Row)}
    (check : Table t.Row → Except StoreError α) (rows : List t.Row → List t.Row)
    (hf : ∀ (s : Store) y, s.Tidy → s.table t = some y →
      f y = do return (← check y, { y with rows := rows y.rows }))
    (hR : ∀ (s s' : Store) y y', AgreeOn x s s' → s.table t = some y → s'.table t = some y' →
      check y' = check y ∧
        AgreeOn x (s.withRows t (rows (s.rows t))) (s'.withRows t (rows (s'.rows t)))) :
    InStep (AgreeOn x) a (write t f) := by
  intro s s' h
  have hsome := isSome_of_frame (h.frame t)
  rw [write, write]
  cases a.fault? with
  | some e => exact ⟨rfl, h⟩
  | none =>
      cases hy : s.table t with
      | none =>
          rw [hy, Option.isSome_none, Option.isSome_eq_false_iff,
            Option.isNone_iff_eq_none] at hsome
          rw [hsome]
          exact ⟨rfl, h⟩
      | some y =>
          rw [hy, Option.isSome_some, Option.isSome_iff_exists] at hsome
          obtain ⟨y', hy'⟩ := hsome
          rw [hy']
          cases a.refusal? with
          | some e => exact ⟨rfl, h⟩
          | none =>
              obtain ⟨hcheck, hstore⟩ := hR s s' y y' h hy hy'
              rw [withRows_of_table hy, withRows_of_table hy', rows_of_table hy,
                rows_of_table hy'] at hstore
              dsimp only
              rw [hf s y h.tidy hy, hf s' y' h.tidy' hy', hcheck]
              cases check y with
              | ok v => exact ⟨rfl, hstore⟩
              | error e => exact ⟨rfl, h⟩

namespace Users

theorem map_account_renewed (u : User) (k : Int) (rows : List UserRow) :
    (rows.map fun r => if r.id == k then renewed u id r else r).map account = rows.map account := by
  rw [List.map_map]
  apply List.map_congr_left
  intro r _
  simp only [Function.comp_apply]
  split <;> rfl

theorem forM_renewed (u : User) (k : Int) (check : UserRow → Except StoreError Unit)
    (rows : List UserRow) :
    (rows.filter (·.id == k)).forM (fun r => check (renewed u id r)) =
      (((rows.map account).filter (·.1 == k)).map (rowOfAccount u)).forM check := by
  rw [List.filter_map, List.map_map]
  exact List.forM_map.symm

theorem inStep_update (u : User) (k : Int) : InStep (AgreeOn x) a (update k (renewed u id)) := by
  refine AgreeOn.inStep_write (t := .user)
    (fun y => (y.rows.filter (·.id == k)).forM fun r =>
      y.checkGuards Relation.userSchema .update (renewed u id r))
    (fun rows => rows.map fun r => if r.id == k then renewed u id r else r) ?_ ?_
  · intro s y hs hy
    have hkeys := hs.users y hy
    have hapart := apart_user_map (f := renewed u id) fun _ => ⟨rfl, rfl⟩
    rw [Table.update_of_apart hkeys.indexes hapart hkeys.rows, bind_assoc]
    rfl
  · intro s s' y y' h hy hy'
    refine ⟨?_, h.withUsers (by rw [hy]; rfl) (map_account_renewed u k _)
      (map_account_renewed u k _)⟩
    have haccounts := h.accounts
    rw [rows_of_table hy, rows_of_table hy'] at haccounts
    have hguards : y'.checkGuards Relation.userSchema .update =
        y.checkGuards Relation.userSchema .update := by
      funext r
      exact guards_of_frame (h.frame .user) hy hy' _ _ r
    rw [hguards, forM_renewed, forM_renewed, haccounts]

theorem inStep_idOf : InStep (AgreeOn x) a (idOf x.user.username) := by
  apply inStep_read
  intro s s' h
  simp only [rowOf?, bind_assoc, pure_bind]
  refine require_bind_congr (isSome_of_frame (h.frame .user)) fun y y' hy hy' => ?_
  rw [map_id_find?, map_id_find?, ← rows_of_table hy, ← rows_of_table hy', h.accounts]

/-- The user is known, so that storing the submission adds no user. -/
theorem inStep_identify : InStep (AgreeOn x) a (identify x.user) := by
  rw [identify_eq_settle]
  refine inStep_idOf.bind_of_result ?_
  intro found s s' h hfound
  obtain ⟨-, -, rfl, -⟩ := gives_idOf.mp ⟨hfound, rfl⟩
  cases hr : (s.rows .user).find? (hasUsername x.user.username) with
  | none =>
      obtain ⟨u, hu, hname⟩ := h.known
      exact absurd (hasUsername_iff.mpr hname) (List.find?_eq_none.mp hr u hu)
  | some r => exact (inStep_update x.user r.id).bind fun _ => inStep_pure

end Users

namespace Submissions

def overwritten (user exercise ms : Int) (r : SubmissionRow) : SubmissionRow :=
  { r with user := .int user, exercise := .int exercise, time := .int ms }

theorem upserted_eq_setRow (id user exercise ms : Int) (rows : List SubmissionRow) :
    Table.upserted (·.id) ⟨id, .int user, .int exercise, .int ms⟩ (overwritten user exercise ms)
        rows =
      setRow ⟨id, .int user, .int exercise, .int ms⟩ rows := by
  rw [Table.upserted, setRow]
  split
  · apply List.map_congr_left
    intro r _
    by_cases hr : r.id = id <;> simp [overwritten, hr]
  · rfl

theorem forM_overwritten {rows : List SubmissionRow} (hn : (rows.map (·.id)).Nodup)
    (id user exercise ms : Int) (check : SubmissionRow → Except StoreError Unit) :
    (rows.filter (·.id == id)).forM (fun r => check (overwritten user exercise ms r)) =
      if rows.any (·.id == id) then check ⟨id, .int user, .int exercise, .int ms⟩ else .ok () := by
  split
  next hany =>
    obtain ⟨r, hr, hid⟩ := List.any_eq_true.mp hany
    obtain rfl : r.id = id := by simpa using hid
    rw [filter_key_eq hn hr]
    change (check (overwritten user exercise ms r) >>= fun _ => pure ()) =
      check (overwritten user exercise ms r)
    cases check (overwritten user exercise ms r) <;> rfl
  next hany =>
    have hnone : rows.filter (·.id == id) = [] := by simpa using hany
    rw [hnone]
    rfl

theorem inStep_put (user exercise ms : Int) :
    InStep (AgreeOn x) a (put x.id user exercise ms) := by
  let r : SubmissionRow := ⟨x.id, .int user, .int exercise, .int ms⟩
  refine AgreeOn.inStep_write (t := .submission)
    (fun y => do
      y.checkGuards Relation.submissionSchema .insert r
      if y.rows.any (·.id == x.id) then y.checkGuards Relation.submissionSchema .update r
      else .ok ())
    (setRow r) ?_ ?_
  · intro s y hs hy
    have hkeys := hs.submissions y hy
    have hapart := apart_submission_map (f := overwritten user exercise ms) fun _ => rfl
    have hnew (hne : ∀ o ∈ y.rows, o.id ≠ r.id) :
        ∀ o ∈ y.rows, Relation.submissionSchema.Apart r o :=
      fun o ho => apart_submission.mpr (hne o ho).symm
    have hupsert := Table.upsert_of_apart hkeys.indexes (·.id) hapart hkeys.rows hnew
    rw [upserted_eq_setRow, forM_overwritten (nodup_submissionIds.mpr hkeys.rows)] at hupsert
    change (y.upsert Relation.submissionSchema (·.id) r (overwritten user exercise ms) >>=
      fun y' => pure ((), y')) = _
    rw [hupsert]
    simp only [bind_assoc, pure_bind]
    rfl
  · intro s s' y y' h hy hy'
    refine ⟨?_, h.withSubmissions (by rw [hy]; rfl) (nodup_setRow h.tidy.submissionIds)
      (nodup_setRow h.tidy'.submissionIds) ?_⟩
    · have hany := h.submissions
      rw [rows_of_table hy, rows_of_table hy'] at hany
      have hguards := guards_of_frame (h.frame .submission) hy hy' Relation.submissionSchema
      rw [hany, hguards .insert r, hguards .update r]
    · have hself (rows : List SubmissionRow) : (setRow r rows).any (·.id == x.id) = true :=
        List.any_eq_true.mpr ⟨r, mem_setRow.mpr (.inl rfl), by simp [r]⟩
      rw [hself, hself]

theorem inStep_clearGrades : InStep (AgreeOn x) a (clearGrades x.id) := by
  refine AgreeOn.inStep_write (t := .grade)
    (fun y => do
      (y.rows.filter (belongsTo x.id)).forM (y.checkGuards Relation.gradeSchema .delete)
      return (y.rows.filter (belongsTo x.id)).length)
    (fun rows => rows.filter (!belongsTo x.id ·)) ?_ ?_
  · intro s y _ _
    rw [Table.delete, bind_assoc]
    rfl
  · intro s s' y y' h hy hy'
    refine ⟨?_, h.withGrades (by rw [hy]; rfl) ?_⟩
    · have hrows := h.grades
      rw [rows_of_table hy, rows_of_table hy'] at hrows
      have hguards : y'.checkGuards Relation.gradeSchema .delete =
          y.checkGuards Relation.gradeSchema .delete := by
        funext r
        exact guards_of_frame (h.frame .grade) hy hy' _ _ r
      rw [hrows, hguards]
    · simp [List.filter_filter]

theorem any_clash_gradeRowOf (id : Int) (g : Int × Float) {columns : List (Column GradeRow)}
    (hcolumns : columns ∈ Relation.gradeSchema.keys) (rows : List GradeRow) :
    rows.any (Table.clash columns (gradeRowOf id g)) =
      (rows.filter (belongsTo id)).any (Table.clash columns (gradeRowOf id g)) := by
  rw [List.any_filter]
  refine congrArg rows.any ?_
  funext o
  by_cases ho : belongsTo id o
  · rw [ho, Bool.true_and]
  · rw [apart_gradeRowOf ho g columns hcolumns, Bool.and_false]

theorem checkUnique_gradeRowOf {y y' : Table GradeRow} (hi : y.indexes = []) (hi' : y'.indexes = [])
    (id : Int) (g : Int × Float)
    (hrows : y'.rows.filter (belongsTo id) = y.rows.filter (belongsTo id)) :
    y'.checkUnique Relation.gradeSchema y'.rows (gradeRowOf id g) =
      y.checkUnique Relation.gradeSchema y.rows (gradeRowOf id g) := by
  have hany : ∀ columns ∈ Relation.gradeSchema.keys,
      y'.rows.any (Table.clash columns (gradeRowOf id g)) =
        y.rows.any (Table.clash columns (gradeRowOf id g)) := by
    intro columns hcolumns
    rw [any_clash_gradeRowOf id g hcolumns, hrows, ← any_clash_gradeRowOf id g hcolumns]
  rw [Table.checkUnique, Table.checkUnique, Table.constraints_eq_keys hi,
    Table.constraints_eq_keys hi', List.find?_congr hany]

theorem inStep_addGrade (number : Int) (grade : Float) :
    InStep (AgreeOn x) a (addGrade x.id number grade) := by
  let r : GradeRow := gradeRowOf x.id (number, grade)
  refine AgreeOn.inStep_write (t := .grade)
    (fun y => do
      y.checkGuards Relation.gradeSchema .insert r
      y.checkUnique Relation.gradeSchema y.rows r)
    (· ++ [r]) ?_ ?_
  · intro s y _ _
    change (y.insert Relation.gradeSchema false r >>= fun y' => pure ((), y')) = _
    rw [Table.insert]
    simp only [bind_assoc, pure_bind]
    rfl
  · intro s s' y y' h hy hy'
    have hrows := h.grades
    refine ⟨?_, h.withGrades (by rw [hy]; rfl) ?_⟩
    · rw [rows_of_table hy, rows_of_table hy'] at hrows
      rw [guards_of_frame (h.frame .grade) hy hy' Relation.gradeSchema .insert r,
        checkUnique_gradeRowOf (h.tidy.grades y hy) (h.tidy'.grades y' hy') x.id _ hrows]
    · rw [List.filter_append, List.filter_append, hrows]

end Submissions

namespace Book

theorem inStep_record (hx : x.isStored) : InStep (AgreeOn x) a (record x) := by
  refine Users.inStep_identify.bind fun user => ?_
  rw [if_pos hx]
  refine (Submissions.inStep_put user x.exercise.id x.time.toMillis).bind fun _ => ?_
  refine inStep_pure.bind_of_result ?_
  rintro id s s' - hid
  obtain rfl : x.id = id := Except.ok.inj hid
  refine Submissions.inStep_clearGrades.bind fun replaced => ?_
  refine (inStep_forM ?_ (numbered x.grades)).bind fun _ => inStep_pure
  rintro ⟨number, grade⟩
  exact Submissions.inStep_addGrade number grade

theorem inStep_submit (hx : x.isStored) : InStep (AgreeOn x) a (submit x) := by
  rw [submit_eq]
  refine inStep_ofExcept.bind fun _ => inStep_ofExcept.bind fun _ => ?_
  refine (inStep_record hx).transaction.bind fun stored => ?_
  dsimp only
  split <;> exact inStep_report.bind fun _ => inStep_pure

end Book

end

end Markbook
