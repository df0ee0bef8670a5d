import Markbook.Proofs.Execution
import Markbook.Proofs.Rows
import Markbook.Records.Users
import Mathlib.Data.List.Find

namespace Markbook

open Store Work

namespace Store

def UserRow.redacted (r : UserRow) : UserRow :=
  { r with password := r.password.map fun _ => "" }

def Column.Overlooks (c : Column UserRow) : Prop :=
  ∀ r, c.cell r.redacted = c.cell r

end Store

namespace Users

variable {t : Table UserRow} {r : UserRow}

def redacted (t : Table UserRow) : Table UserRow :=
  { t with rows := t.rows.map UserRow.redacted }

/-- Nothing that can refuse a write looks at passwords. -/
structure Overlooks (t : Table UserRow) : Prop where
  indexes : ∀ c ∈ t.indexes, c.Overlooks
  guards : ∀ g ∈ t.guards, ∀ c v, g.only = some (c, v) → c.Overlooks

theorem overlooks_empty : Overlooks .empty :=
  ⟨fun _ hc => absurd hc List.not_mem_nil, fun _ hg => absurd hg List.not_mem_nil⟩

theorem overlooks_of_mem_constraints (h : Overlooks t) {columns : List (Column UserRow)}
    (hcolumns : columns ∈ t.constraints Relation.userSchema) :
    ∀ c ∈ columns, c.Overlooks := by
  intro c hc
  rw [Table.constraints] at hcolumns
  rcases List.mem_append.mp hcolumns with hcolumns | hcolumns
  · rcases List.mem_append.mp hcolumns with hcolumns | hcolumns
    · cases List.mem_singleton.mp hcolumns
      cases List.mem_singleton.mp hc
      exact fun _ => rfl
    · obtain ⟨c', hc', rfl⟩ := List.mem_map.mp hcolumns
      cases List.mem_singleton.mp hc
      exact h.indexes c hc'
  · cases List.mem_singleton.mp hcolumns
    cases List.mem_singleton.mp hc
    exact fun _ => rfl

theorem clash_redacted {columns : List (Column UserRow)} (h : ∀ c ∈ columns, c.Overlooks)
    (r r' : UserRow) :
    Table.clash columns r.redacted r'.redacted = Table.clash columns r r' := by
  induction columns with
  | nil => rfl
  | cons c columns ih =>
      have hc := h c List.mem_cons_self
      have ih := ih fun c' hc' => h c' (List.mem_cons_of_mem c hc')
      simp only [Table.clash, List.all_cons] at ih ⊢
      rw [hc, hc, ih]

theorem checkUnique_redacted (h : Overlooks t) (others : List UserRow) (r : UserRow) :
    (redacted t).checkUnique Relation.userSchema (others.map UserRow.redacted) r.redacted =
      t.checkUnique Relation.userSchema others r := by
  have hfind : ((redacted t).constraints Relation.userSchema).find?
        (fun columns => (others.map UserRow.redacted).any (Table.clash columns r.redacted)) =
      (t.constraints Relation.userSchema).find? fun columns =>
        others.any (Table.clash columns r) := by
    apply List.find?_congr
    intro columns hcolumns
    have hall := overlooks_of_mem_constraints h hcolumns
    rw [List.any_map]
    congr 1
    funext r'
    exact clash_redacted hall r r'
  rw [Table.checkUnique, Table.checkUnique, hfind]

theorem checkGuards_redacted (h : Overlooks t) (change : Change) (r : UserRow) :
    (redacted t).checkGuards Relation.userSchema change r.redacted =
      t.checkGuards Relation.userSchema change r := by
  have hfind : (redacted t).guards.find? (Table.applies Relation.userSchema change r.redacted) =
      t.guards.find? (Table.applies Relation.userSchema change r) := by
    apply List.find?_congr
    intro g hg
    rw [Table.applies, Table.applies]
    cases honly : g.only with
    | none => rfl
    | some x =>
        have hc := h.guards g hg x.1 x.2 honly r
        simp only [Column.holds, hc]
  rw [Table.checkGuards, Table.checkGuards, hfind]

theorem insert_redacted (h : Overlooks t) (generated : Bool) (r : UserRow) :
    (redacted t).insert Relation.userSchema generated r.redacted =
      (t.insert Relation.userSchema generated r).map redacted := by
  have hannounced : Relation.userSchema.announced generated r.redacted =
      (Relation.userSchema.announced generated r).redacted := by
    cases generated <;> rfl
  have hunique : (redacted t).checkUnique Relation.userSchema (redacted t).rows r.redacted =
      t.checkUnique Relation.userSchema t.rows r := checkUnique_redacted h t.rows r
  rw [Table.insert, Table.insert, hannounced, checkGuards_redacted h, hunique]
  cases t.checkGuards Relation.userSchema .insert (Relation.userSchema.announced generated r) with
  | error e => rfl
  | ok _ =>
      cases t.checkUnique Relation.userSchema t.rows r with
      | error e => rfl
      | ok _ =>
          refine congrArg Except.ok ?_
          simp [redacted]

section

variable {selected : UserRow → Bool} {f f' : UserRow → UserRow}

theorem updateFrom_redacted (h : Overlooks t) (hselected : ∀ r, selected r.redacted = selected r)
    (hf : ∀ r, f' r.redacted = (f r).redacted) (before after : List UserRow) :
    (redacted t).updateFrom Relation.userSchema selected (fun r => .ok (f' r))
        (before.map UserRow.redacted) (after.map UserRow.redacted) =
      (t.updateFrom Relation.userSchema selected (fun r => .ok (f r)) before after).map
        (List.map UserRow.redacted) := by
  induction after generalizing before with
  | nil => rfl
  | cons r after ih =>
      rw [List.map_cons, Table.updateFrom, Table.updateFrom, hselected]
      split
      · have hguards := checkGuards_redacted h .update (f r)
        have hunique := checkUnique_redacted h (before ++ after) (f r)
        have ih := ih (before ++ [f r])
        simp only [← hf, List.map_append, List.map_singleton] at hguards hunique ih
        change ((redacted t).checkGuards Relation.userSchema .update (f' r.redacted) >>= fun _ =>
          (redacted t).checkUnique Relation.userSchema
            (before.map UserRow.redacted ++ after.map UserRow.redacted) (f' r.redacted) >>= fun _ =>
          (redacted t).updateFrom Relation.userSchema selected (fun r => .ok (f' r))
            (before.map UserRow.redacted ++ [f' r.redacted]) (after.map UserRow.redacted)) =
          Except.map _ (t.checkGuards Relation.userSchema .update (f r) >>= fun _ =>
            t.checkUnique Relation.userSchema (before ++ after) (f r) >>= fun _ =>
            t.updateFrom Relation.userSchema selected (fun r => .ok (f r)) (before ++ [f r]) after)
        rw [hguards, hunique, ih]
        cases t.checkGuards Relation.userSchema .update (f r) with
        | error e => rfl
        | ok _ =>
            cases t.checkUnique Relation.userSchema (before ++ after) (f r) with
            | error e => rfl
            | ok _ => rfl
      · have ih := ih (before ++ [r])
        rwa [List.map_append] at ih

theorem update_redacted (h : Overlooks t) (hselected : ∀ r, selected r.redacted = selected r)
    (hf : ∀ r, f' r.redacted = (f r).redacted) :
    (redacted t).update Relation.userSchema selected (fun r => .ok (f' r)) =
      (t.update Relation.userSchema selected fun r => .ok (f r)).map
        fun x => (x.1, redacted x.2) := by
  have hrows : (redacted t).updateFrom Relation.userSchema selected (fun r => .ok (f' r)) []
      (redacted t).rows = _ := updateFrom_redacted h hselected hf [] t.rows
  have hcount : ((redacted t).rows.filter selected).length = (t.rows.filter selected).length := by
    have hcomp : selected ∘ UserRow.redacted = selected := funext hselected
    simp only [redacted, List.filter_map, List.length_map, hcomp]
  rw [Table.update, Table.update, hrows, hcount]
  cases t.updateFrom Relation.userSchema selected (fun r => .ok (f r)) [] t.rows with
  | error e => rfl
  | ok rows => rfl

end

end Users

namespace Store

def redacted (s : Store) : Store :=
  { s with users := s.users.map Users.redacted }

def Overlooks (s : Store) : Prop :=
  ∀ t, s.users = some t → Users.Overlooks t

theorem table_redacted {t : Relation} (ht : t ≠ .user) (s : Store) :
    s.redacted.table t = s.table t := by
  cases t with
  | user => exact absurd rfl ht
  | _ => rfl

theorem table_redacted_cases (s : Store) (t : Relation) :
    (s.table t = none ∧ s.redacted.table t = none) ∨
      ∃ x y, s.table t = some x ∧ s.redacted.table t = some y ∧ y.indexes = x.indexes ∧
        y.guards = x.guards := by
  cases hx : s.table t with
  | none =>
      cases t with
      | user =>
          refine .inl ⟨rfl, ?_⟩
          change (s.table .user).map Users.redacted = none
          rw [hx]
          rfl
      | _ => exact .inl ⟨rfl, hx⟩
  | some x =>
      cases t with
      | user =>
          refine .inr ⟨x, Users.redacted x, rfl, ?_, rfl, rfl⟩
          change (s.table .user).map Users.redacted = some (Users.redacted x)
          rw [hx]
          rfl
      | _ => exact .inr ⟨x, x, rfl, hx, rfl, rfl⟩

theorem setTable_redacted {t : Relation} (ht : t ≠ .user) (s : Store) (x : Option (Table t.Row)) :
    (s.setTable t x).redacted = s.redacted.setTable t x := by
  cases t with
  | user => exact absurd rfl ht
  | _ => rfl

theorem Overlooks.setTable {s : Store} (hs : s.Overlooks) {t : Relation} (ht : t ≠ .user)
    (x : Option (Table t.Row)) : (s.setTable t x).Overlooks := by
  cases t with
  | user => exact absurd rfl ht
  | _ => exact hs

end Store

def Outcome.redacted {α : Type} (o : Outcome α) : Outcome α :=
  { o with store := o.store.redacted }

namespace Work

variable {α β : Type}

/-- The work does to a store what `w'` does to the store without its passwords. -/
def Redacts (w w' : Work α) : Prop :=
  ∀ a s, s.Overlooks → w' a s.redacted = (w a s).redacted ∧ (w a s).store.Overlooks

theorem Redacts.bind {w w' : Work α} {f f' : α → Work β} (hw : Redacts w w')
    (hf : ∀ x, Redacts (f x) (f' x)) : Redacts (w >>= f) (w' >>= f') := by
  intro a s hs
  obtain ⟨heq, hs₁⟩ := hw a s hs
  change andThen w' f' a s.redacted = (andThen w f a s).redacted ∧ (andThen w f a s).store.Overlooks
  rw [andThen, andThen, heq]
  generalize w a s = o at hs₁
  rcases o with ⟨result, s₁, log⟩
  cases result with
  | error e => exact ⟨rfl, hs₁⟩
  | ok x =>
      obtain ⟨heq, hs₂⟩ := hf x a s₁ hs₁
      refine ⟨?_, hs₂⟩
      simp only [Outcome.redacted, heq]

theorem redacts_pure {x : α} : Redacts (pure x) (pure x) :=
  fun _ _ hs => ⟨rfl, hs⟩

theorem Redacts.map {w w' : Work α} {f : α → β} (hw : Redacts w w') :
    Redacts (f <$> w) (f <$> w') :=
  hw.bind fun _ => redacts_pure

theorem redacts_fail {e : Fault} : Redacts (fail e : Work α) (fail e) :=
  fun _ _ hs => ⟨rfl, hs⟩

theorem redacts_ofExcept {r : Except Fault α} : Redacts (ofExcept r) (ofExcept r) := by
  cases r with
  | error e => exact redacts_fail
  | ok x => exact redacts_pure

theorem redacts_report {e : Event} : Redacts (report e) (report e) :=
  fun _ _ hs => ⟨rfl, hs⟩

theorem redacts_connected : Redacts connected connected := by
  intro a s hs
  by_cases h : a = .closed <;> simp [connected, h, hs, Outcome.redacted]

theorem Redacts.attempt {w w' : Work α} (hw : Redacts w w') : Redacts w.attempt w'.attempt := by
  intro a s hs
  obtain ⟨heq, hs₁⟩ := hw a s hs
  refine ⟨?_, hs₁⟩
  rw [Work.attempt, heq]
  rfl

theorem Redacts.mapFault {w w' : Work α} (hw : Redacts w w') (f : Fault → Fault) :
    Redacts (w.mapFault f) (w'.mapFault f) := by
  intro a s hs
  obtain ⟨heq, hs₁⟩ := hw a s hs
  refine ⟨?_, hs₁⟩
  rw [Work.mapFault, heq]
  rfl

theorem Redacts.atomically {w w' : Work α} (hw : Redacts w w') :
    Redacts w.atomically w'.atomically := by
  intro a s hs
  obtain ⟨heq, hs₁⟩ := hw a s hs
  rw [Work.atomically, Work.atomically, heq]
  generalize w a s = o at hs₁
  rcases o with ⟨result, s₁, log⟩
  cases result with
  | error e => exact ⟨rfl, hs⟩
  | ok x => exact ⟨rfl, hs₁⟩

theorem Redacts.transaction {w w' : Work α} (hw : Redacts w w') :
    Redacts w.transaction w'.transaction :=
  redacts_connected.bind fun _ => hw.atomically

theorem Redacts.forM {ι : Type} {f : ι → Work Unit} (hf : ∀ x, Redacts (f x) (f x))
    (xs : List ι) : Redacts (xs.forM f) (xs.forM f) := by
  induction xs with
  | nil => exact redacts_pure
  | cons x xs ih => exact (hf x).bind fun _ => ih

theorem redacts_read {f : Store → Except StoreError α} (hf : ∀ s, f s.redacted = f s) :
    Redacts (read f) (read f) := by
  intro a s hs
  rw [read, read, hf]
  cases a.fault? with
  | some e => exact ⟨rfl, hs⟩
  | none => exact ⟨rfl, hs⟩

theorem redacts_write {t : Relation} (ht : t ≠ .user)
    {f : Table t.Row → Except StoreError (α × Table t.Row)} : Redacts (write t f) (write t f) := by
  intro a s hs
  rw [write, write, Store.table_redacted ht]
  cases a.fault? with
  | some e => exact ⟨rfl, hs⟩
  | none =>
      cases s.table t with
      | none => exact ⟨rfl, hs⟩
      | some x =>
          cases a.refusal? with
          | some e => exact ⟨rfl, hs⟩
          | none =>
              dsimp only
              rcases f x with e | ⟨y, x'⟩
              · exact ⟨rfl, hs⟩
              · exact ⟨congrArg (Outcome.mk (.ok y) · []) (Store.setTable_redacted ht s _).symm,
                  hs.setTable ht _⟩

theorem redacts_write_user
    {f f' : Table UserRow → Except StoreError (α × Table UserRow)}
    (hf : ∀ t, Users.Overlooks t →
      f' (Users.redacted t) = (f t).map (fun x => (x.1, Users.redacted x.2)) ∧
        ∀ x, f t = .ok x → Users.Overlooks x.2) :
    Redacts (write .user f) (write .user f') := by
  intro a s hs
  have htable : s.redacted.table .user = (s.table .user).map Users.redacted := rfl
  rw [write, write, htable]
  cases a.fault? with
  | some e => exact ⟨rfl, hs⟩
  | none =>
      cases ht : s.table .user with
      | none => exact ⟨rfl, hs⟩
      | some t =>
          cases a.refusal? with
          | some e => exact ⟨rfl, hs⟩
          | none =>
              obtain ⟨heq, hkept⟩ := hf t (hs t ht)
              simp only [Option.map_some, heq]
              rcases hft : f t with e | ⟨y, t'⟩
              · exact ⟨rfl, hs⟩
              · refine ⟨rfl, ?_⟩
                intro t'' ht''
                cases ht''
                exact hkept (y, t') hft

theorem redacts_create (t : Relation) : Redacts (create t) (create t) := by
  intro a s hs
  rw [create, create]
  cases a.fault? with
  | some e => exact ⟨rfl, hs⟩
  | none =>
      rcases s.table_redacted_cases t with ⟨hx, hy⟩ | ⟨x, y, hx, hy, -, -⟩
      · rw [hx, hy]
        cases a.refusal? with
        | some e => exact ⟨rfl, hs⟩
        | none =>
            refine ⟨?_, ?_⟩
            · cases t <;> rfl
            · cases t with
              | user =>
                  intro x hx
                  cases hx
                  exact Users.overlooks_empty
              | _ => exact hs
      · rw [hx, hy]
        exact ⟨rfl, hs⟩

end Work

namespace Store

theorem require_redacted {t : Relation} (ht : t ≠ .user) (s : Store) :
    s.redacted.require t = s.require t := by
  rw [require, require, table_redacted ht]

theorem require_user_redacted (s : Store) :
    s.redacted.require .user = (s.require .user).map Users.redacted := by
  have htable : s.redacted.table .user = (s.table .user).map Users.redacted := rfl
  rw [require, require, htable]
  cases s.table .user <;> rfl

end Store

namespace Users

theorem rowOf?_redacted (username : String) (s : Store) :
    rowOf? username s.redacted = (rowOf? username s).map (Option.map UserRow.redacted) := by
  rw [rowOf?, rowOf?, require_user_redacted]
  cases s.require .user with
  | error e => rfl
  | ok t => exact congrArg Except.ok List.find?_map

theorem redacts_idOf (username : String) : Redacts (idOf username) (idOf username) := by
  apply redacts_read
  intro s
  rw [rowOf?_redacted]
  rcases rowOf? username s with e | _ | r <;> rfl

theorem redacts_find (username : String) : Redacts (find username) (find username) := by
  apply redacts_read
  intro s
  rw [rowOf?_redacted]
  rcases rowOf? username s with e | _ | r <;> rfl

theorem redacts_insert (u : User) (password : Option String) :
    Redacts (insert u password) (insert u (password.map fun _ => "")) := by
  apply redacts_write_user
  intro t ht
  let r : UserRow :=
    ⟨t.nextId (·.id), some u.username, some u.firstname, some u.lastname, password⟩
  have hid : (redacted t).nextId (·.id) = t.nextId (·.id) := by
    rw [Table.nextId, Table.nextId, redacted, List.map_map]
    rfl
  have hinsert := insert_redacted ht true r
  refine ⟨?_, ?_⟩
  · rw [hid]
    change ((redacted t).insert Relation.userSchema true r.redacted >>= _) =
      Except.map _ (t.insert Relation.userSchema true r >>= _)
    rw [hinsert]
    cases t.insert Relation.userSchema true r <;> rfl
  · intro x hx
    obtain ⟨t', ht', heq⟩ := bind_eq_ok.mp hx
    obtain ⟨-, -, rfl⟩ := Table.insert_eq_ok.mp ht'
    cases heq
    exact ⟨ht.indexes, ht.guards⟩

theorem redacts_update (id : Int) {f f' : UserRow → UserRow}
    (hf : ∀ r, f' r.redacted = (f r).redacted) : Redacts (update id f) (update id f') := by
  apply redacts_write_user
  intro t ht
  refine ⟨?_, ?_⟩
  · rw [update_redacted ht (fun _ => rfl) hf]
    cases t.update Relation.userSchema (·.id == id) fun r => .ok (f r) <;> rfl
  · intro x hx
    obtain ⟨y, hy, heq⟩ := bind_eq_ok.mp hx
    cases heq
    rw [← Table.update_eq_ok hy]
    exact ⟨ht.indexes, ht.guards⟩

theorem redacts_enrol (u : User) (password : String) :
    Redacts (enrol u password) (enrol u "") := by
  refine (redacts_idOf u.username).bind ?_
  intro id
  cases id with
  | none => exact redacts_insert u (some password)
  | some id =>
      have hset : Redacts (setCredentials id u password) (setCredentials id u "") :=
        redacts_update id fun _ => rfl
      exact hset.bind fun _ => redacts_pure

theorem redacts_identify (u : User) : Redacts (identify u) (identify u) := by
  refine (redacts_idOf u.username).bind ?_
  intro id
  cases id with
  | none => exact redacts_insert u none
  | some id =>
      have hrename : Redacts (rename id u) (rename id u) := redacts_update id fun _ => rfl
      exact hrename.bind fun _ => redacts_pure

end Users

end Markbook
