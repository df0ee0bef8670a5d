import Markbook.Store.Work

namespace Markbook.Work

open Store

variable {α β : Type} {a : Access} {s s' : Store}

/-- The work ends well, with the value `x` and the store `s'`. -/
def Gives (w : Work α) (a : Access) (s : Store) (x : α) (s' : Store) : Prop :=
  (w a s).result = .ok x ∧ (w a s).store = s'

/-- Where the work fails, it leaves the store as it was. -/
def Restores (w : Work α) : Prop :=
  ∀ a s e, (w a s).result = .error e → (w a s).store = s

def LeavesStore (w : Work α) : Prop :=
  ∀ a s, (w a s).store = s

def Succeeds (w : Work α) : Prop :=
  ∀ a s, ∃ x, (w a s).result = .ok x

theorem gives_pure {x y : α} : Gives (pure x) a s y s' ↔ x = y ∧ s = s' := by
  change (Except.ok x = Except.ok y ∧ s = s') ↔ _
  simp

theorem bind_of_gives {w : Work α} {f : α → Work β} {x : α} {s₁ : Store} (h : Gives w a s x s₁) :
    ((w >>= f) a s).result = (f x a s₁).result ∧ ((w >>= f) a s).store = (f x a s₁).store := by
  obtain ⟨hx, rfl⟩ := h
  change (andThen w f a s).result = _ ∧ (andThen w f a s).store = _
  rw [andThen]
  generalize w a s = o at hx ⊢
  rcases o with ⟨result, s₁, log⟩
  subst hx
  exact ⟨rfl, rfl⟩

theorem bind_of_error {w : Work α} {f : α → Work β} {e : Fault} (h : (w a s).result = .error e) :
    ((w >>= f) a s).result = .error e ∧ ((w >>= f) a s).store = (w a s).store := by
  change (andThen w f a s).result = _ ∧ (andThen w f a s).store = _
  rw [andThen]
  generalize w a s = o at h ⊢
  rcases o with ⟨result, s₁, log⟩
  subst h
  exact ⟨rfl, rfl⟩

theorem gives_bind {w : Work α} {f : α → Work β} {y : β} :
    Gives (w >>= f) a s y s' ↔ ∃ x s₁, Gives w a s x s₁ ∧ Gives (f x) a s₁ y s' := by
  constructor
  · intro h
    cases hw : (w a s).result with
    | ok x =>
        have hb := bind_of_gives (f := f) ⟨hw, rfl⟩
        exact ⟨x, _, ⟨hw, rfl⟩, hb.1.symm.trans h.1, hb.2.symm.trans h.2⟩
    | error e => simp [Gives, (bind_of_error (f := f) hw).1] at h
  · rintro ⟨x, s₁, hw, hf⟩
    have hb := bind_of_gives (f := f) hw
    exact ⟨hb.1.trans hf.1, hb.2.trans hf.2⟩

theorem exists_gives_bind {w : Work α} {f : α → Work β} {x : α} {s₁ : Store}
    (hw : Gives w a s x s₁) (hf : ∃ y s', Gives (f x) a s₁ y s') :
    ∃ y s', Gives (w >>= f) a s y s' := by
  obtain ⟨y, s', hf⟩ := hf
  exact ⟨y, s', gives_bind.mpr ⟨x, s₁, hw, hf⟩⟩

theorem result_map {w : Work α} {f : α → β} :
    ((f <$> w) a s).result = (w a s).result.map f := by
  change (andThen w (fun x => done (f x)) a s).result = _
  rw [andThen]
  rcases w a s with ⟨_ | x, s', log⟩
  · rfl
  · rfl

theorem gives_map {w : Work α} {f : α → β} {y : β} :
    Gives (f <$> w) a s y s' ↔ ∃ x, Gives w a s x s' ∧ f x = y := by
  change Gives (w >>= fun x => pure (f x)) a s y s' ↔ _
  simp only [gives_bind, gives_pure]
  constructor
  · rintro ⟨x, s₁, hx, hy, rfl⟩
    exact ⟨x, hx, hy⟩
  · rintro ⟨x, hx, hy⟩
    exact ⟨x, s', hx, hy, rfl⟩

theorem gives_fail {e : Fault} {x : α} : ¬ Gives (fail e) a s x s' := by
  simp [Gives, fail]

theorem gives_ofExcept {r : Except Fault α} {x : α} :
    Gives (ofExcept r) a s x s' ↔ r = .ok x ∧ s = s' := by
  cases r <;> simp [Gives, ofExcept, done, fail]

theorem gives_report {e : Event} {x : Unit} : Gives (report e) a s x s' ↔ s = s' := by
  simp [Gives, report]

theorem gives_connected {x : Unit} : Gives connected a s x s' ↔ a ≠ .closed ∧ s = s' := by
  by_cases h : a = .closed <;> simp [Gives, connected, h]

theorem mapError_eq_ok {ε ε' : Type} {f : ε → ε'} {r : Except ε α} {x : α} :
    r.mapError f = .ok x ↔ r = .ok x := by
  constructor
  · intro h
    cases r <;> cases h
    rfl
  · rintro rfl
    rfl

theorem gives_read {f : Store → Except StoreError α} {x : α} :
    Gives (read f) a s x s' ↔ a.fault? = none ∧ f s = .ok x ∧ s = s' := by
  rw [Gives, read]
  cases a.fault? with
  | some e => simp
  | none => simp [mapError_eq_ok]

theorem gives_write {t : Relation} {f : Table t.Row → Except StoreError (α × Table t.Row)} {y : α} :
    Gives (write t f) a s y s' ↔
      a.fault? = none ∧ a.refusal? = none ∧
        ∃ x x', s.table t = some x ∧ f x = .ok (y, x') ∧ s.setTable t (some x') = s' := by
  rw [Gives, write]
  cases a.fault? with
  | some e => simp
  | none =>
      cases hx : s.table t with
      | none => simp
      | some x =>
          cases a.refusal? with
          | some e => simp
          | none =>
              rcases hf : f x with e | ⟨y', x'⟩
              · simp [hf]
              · simp [hf, and_assoc]

theorem gives_attempt {w : Work α} {r : Except Fault α} :
    Gives (attempt w) a s r s' ↔ (w a s).result = r ∧ (w a s).store = s' := by
  simp [Gives, attempt]

theorem gives_mapFault {f : Fault → Fault} {w : Work α} {x : α} :
    Gives (mapFault f w) a s x s' ↔ Gives w a s x s' := by
  unfold Gives mapFault
  simp only [mapError_eq_ok]

theorem gives_atomically {w : Work α} {x : α} :
    Gives (atomically w) a s x s' ↔ Gives w a s x s' := by
  unfold Gives atomically
  cases h : (w a s).result <;> simp [h]

theorem gives_transaction {w : Work α} {x : α} :
    Gives (transaction w) a s x s' ↔ a ≠ .closed ∧ Gives w a s x s' := by
  rw [transaction]
  simp only [gives_bind, gives_connected, gives_atomically]
  constructor
  · rintro ⟨-, s₁, ⟨ha, rfl⟩, hw⟩
    exact ⟨ha, hw⟩
  · rintro ⟨ha, hw⟩
    exact ⟨(), s, ⟨ha, rfl⟩, hw⟩

theorem gives_forM_nil {ι : Type} {f : ι → Work Unit} {u : Unit} :
    Gives ([].forM f) a s u s' ↔ s = s' := by
  change Gives (pure ()) a s u s' ↔ _
  simp [gives_pure]

theorem gives_forM_cons {ι : Type} {x : ι} {xs : List ι} {f : ι → Work Unit} {u : Unit} :
    Gives ((x :: xs).forM f) a s u s' ↔
      ∃ s₁, Gives (f x) a s () s₁ ∧ Gives (xs.forM f) a s₁ () s' := by
  change Gives (f x >>= fun _ => xs.forM f) a s u s' ↔ _
  rw [gives_bind]
  exact ⟨fun ⟨_, s₁, h⟩ => ⟨s₁, h⟩, fun ⟨s₁, h⟩ => ⟨(), s₁, h⟩⟩

theorem leavesStore_read {f : Store → Except StoreError α} : LeavesStore (read f) := by
  intro a s
  rw [read]
  cases a.fault? <;> rfl

theorem leavesStore_connected : LeavesStore connected := by
  intro a s
  by_cases h : a = .closed <;> simp [connected, h]

theorem leavesStore_ofExcept {r : Except Fault α} : LeavesStore (ofExcept r) := by
  intro a s
  cases r <;> rfl

theorem leavesStore_pure {x : α} : LeavesStore (pure x) := fun _ _ => rfl

theorem leavesStore_report {e : Event} : LeavesStore (report e) := fun _ _ => rfl

theorem store_bind {w : Work α} {f : α → Work β} (hw : (w a s).store = s)
    (hf : ∀ x, (f x a s).store = s) : ((w >>= f) a s).store = s := by
  cases h : (w a s).result with
  | ok x => exact (bind_of_gives ⟨h, hw⟩).2.trans (hf x)
  | error e => exact (bind_of_error h).2.trans hw

theorem LeavesStore.bind {w : Work α} {f : α → Work β} (hw : LeavesStore w)
    (hf : ∀ x, LeavesStore (f x)) : LeavesStore (w >>= f) :=
  fun a s => store_bind (hw a s) fun x => hf x a s

theorem LeavesStore.map {w : Work α} {f : α → β} (hw : LeavesStore w) : LeavesStore (f <$> w) :=
  hw.bind fun _ => leavesStore_pure

theorem LeavesStore.restores {w : Work α} (hw : LeavesStore w) : Restores w :=
  fun a s _ _ => hw a s

theorem restores_write {t : Relation} {f : Table t.Row → Except StoreError (α × Table t.Row)} :
    Restores (write t f) := by
  intro a s e
  rw [write]
  split
  · simp
  · simp
  · simp
  · split <;> simp

theorem restores_atomically (w : Work α) : Restores (atomically w) := by
  intro a s e
  rw [atomically]
  cases h : (w a s).result <;> simp [h]

theorem succeeds_pure {x : α} : Succeeds (pure x) := fun _ _ => ⟨x, rfl⟩

theorem succeeds_report {e : Event} : Succeeds (report e) := fun _ _ => ⟨(), rfl⟩

theorem Succeeds.bind {w : Work α} {f : α → Work β} (hw : Succeeds w) (hf : ∀ x, Succeeds (f x)) :
    Succeeds (w >>= f) := by
  intro a s
  obtain ⟨x, hx⟩ := hw a s
  obtain ⟨y, hy⟩ := hf x a (w a s).store
  exact ⟨y, (gives_bind.mpr ⟨x, _, ⟨hx, rfl⟩, ⟨hy, rfl⟩⟩).1⟩

theorem Restores.bind_of_leavesStore {w : Work α} {f : α → Work β} (hw : LeavesStore w)
    (hf : ∀ x, Restores (f x)) : Restores (w >>= f) := by
  intro a s e h
  cases hr : (w a s).result with
  | ok x =>
      obtain ⟨hb, hs⟩ := bind_of_gives (f := f) ⟨hr, hw a s⟩
      exact hs.trans (hf x a s e (hb.symm.trans h))
  | error e' => exact (bind_of_error hr).2.trans (hw a s)

theorem Restores.bind_of_succeeds {w : Work α} {f : α → Work β} (hw : Restores w)
    (hf : ∀ x, Succeeds (f x)) : Restores (w >>= f) := by
  intro a s e h
  cases hr : (w a s).result with
  | ok x =>
      obtain ⟨y, hy⟩ := hf x a (w a s).store
      have hb := (bind_of_gives (f := f) ⟨hr, rfl⟩).1.trans hy
      simp [hb] at h
  | error e' => exact (bind_of_error hr).2.trans (hw a s e' hr)

theorem Restores.map {w : Work α} {f : α → β} (hw : Restores w) : Restores (f <$> w) :=
  hw.bind_of_succeeds fun _ => succeeds_pure

theorem restores_transaction (w : Work α) : Restores (transaction w) :=
  Restores.bind_of_leavesStore leavesStore_connected fun _ => restores_atomically w

end Markbook.Work
