import Markbook.Proofs.Reachable

namespace Markbook

open Store Work

section

variable {α β : Type} [BEq α] [LawfulBEq α] (keep : α → Bool) {k : α}

theorem lookup_filter (h : keep k) (xs : List (α × β)) :
    (xs.filter fun x => keep x.1).lookup k = xs.lookup k := by
  induction xs with
  | nil => rfl
  | cons x xs ih =>
      by_cases hx : keep x.1
      · rw [List.filter_cons, if_pos hx, List.lookup_cons, List.lookup_cons, ih]
      · have hk : (k == x.1) = false := by
          rw [beq_eq_false_iff_ne]
          rintro rfl
          exact hx h
        rw [List.filter_cons, if_neg hx, ih, List.lookup_cons, hk]

theorem lookup_filter_of_not (h : keep k = false) (xs : List (α × β)) :
    (xs.filter fun x => keep x.1).lookup k = none := by
  rw [List.lookup_eq_none_iff]
  intro x hx
  rw [bne_iff_ne]
  rintro rfl
  exact Bool.false_ne_true (h.symm.trans (List.mem_filter.mp hx).2)

end

namespace Connection

variable {α : Type} {c : Connection} {m : Media}

theorem perform_of_isClosed (h : c.isClosed) (reads : List Relation) (w : Work α) :
    c.perform m reads w = ⟨(w .closed .bare).result, (w .closed .bare).log, c, m⟩ := by
  rw [perform, if_pos h]

theorem close_of_isClosed (h : c.isClosed) : c.close m = (c, m, []) := by
  rw [close, if_pos h]

theorem access_leave (c : Connection) (m : Media) : (c.leave m).1.access = .closed := by
  rw [leave]
  split <;> rfl

theorem isClosed_close (c : Connection) (m : Media) : (c.close m).1.isClosed := by
  rw [close]
  split
  next h => exact h
  next =>
    change ((c.leave m).1.access == .closed) = true
    rw [access_leave]
    rfl

/-- Work leaves a connection as it is, but for a store of its own and for what it has seen of a
file. -/
theorem perform_connection (c : Connection) (m : Media) (reads : List Relation) (w : Work α) :
    (c.perform m reads w).connection.access = c.access ∧
      (c.perform m reads w).connection.memoryName? = c.memoryName? := by
  rw [perform]
  split
  · exact ⟨rfl, rfl⟩
  · split
    next hplace =>
      refine ⟨rfl, ?_⟩
      rw [memoryName?, memoryName?, hplace]
    next => exact ⟨rfl, rfl⟩
    next =>
      rw [performFile]
      split <;> exact ⟨rfl, rfl⟩
    next =>
      rw [performSnapshot]
      split <;> exact ⟨rfl, rfl⟩

theorem mem_memory_perform {reads : List Relation} {w : Work α} {n : MemoryName} {s : Store}
    (h : (n, s) ∈ (c.perform m reads w).media.memory) :
    (∃ s', (n, s') ∈ m.memory) ∨ c.memoryName? = some n := by
  rw [perform] at h
  split at h
  · exact .inl ⟨s, h⟩
  next hopen =>
    split at h
    next => exact .inl ⟨s, h⟩
    next n' hplace =>
      rcases List.mem_cons.mp h with heq | h
      · cases heq
        refine .inr ?_
        rw [memoryName?, hplace]
        exact if_neg hopen
      · exact .inl ⟨s, List.mem_of_mem_filter h⟩
    next =>
      rw [performFile] at h
      split at h <;> exact .inl ⟨s, h⟩
    next =>
      rw [performSnapshot] at h
      split at h <;> exact .inl ⟨s, h⟩

theorem isClosed_toPlace (settings : StoreSettings) (f : FileName) (mode : OpenMode) (place : Place)
    (m : Media) : (toPlace settings f mode place m).isClosed = false := by
  unfold toPlace
  dsimp only
  split
  · split
    · dsimp only [isClosed]
      split <;> rfl
    · rfl
  · dsimp only [isClosed]
    split <;> rfl

theorem isClosed_join (hc : c.isClosed = false) (others : List Connection) :
    (c.join others).isClosed = false := by
  rw [join]
  split
  next other hother =>
    have hshares := List.find?_some hother
    simp only [sharesWith, Bool.and_eq_true, Bool.not_eq_true'] at hshares
    exact hshares.1.1.2
  next => exact hc

theorem isClosed_of_connect {settings : StoreSettings} {l : Location} {others : List Connection}
    {m' : Media} (h : connect settings l m others = .ok (c, m')) : c.isClosed = false := by
  obtain ⟨f, mode, place, -, -, -, rfl, -⟩ := connect_eq_ok h
  exact isClosed_join (isClosed_toPlace ..) others

end Connection

namespace Media

variable {m m' : Media} {place : Place} {n : MemoryName} {s : Store}

theorem mem_memory_openMemory {n' : MemoryName} (h : (n, s) ∈ (m.openMemory n').2.memory) :
    (n, s) ∈ m.memory ∨ (m.openMemory n').1 = .memory n := by
  rw [openMemory] at h ⊢
  dsimp only at h
  split at h
  · exact .inl h
  · rcases List.mem_cons.mp h with heq | h
    · cases heq
      exact .inr rfl
    · exact .inl (List.mem_of_mem_filter h)

theorem mem_memory_openPlace {f : FileName} {mode : OpenMode}
    (h : m.openPlace f mode = .ok (place, m')) (hn : (n, s) ∈ m'.memory) :
    (n, s) ∈ m.memory ∨ place = .memory n := by
  cases opened_of_openPlace h with
  | own | found | made => exact .inl hn
  | memory => exact mem_memory_openMemory hn

end Media

namespace Connection

variable {settings : StoreSettings} {m : Media} {others : List Connection} {c : Connection}

theorem establish_eq_ok (h : (establish settings m others).result = .ok c) :
    ∃ l c₀ m₀, Location.ofText settings.url = .ok l ∧ connect settings l m others = .ok (c₀, m₀) ∧
      (c₀.perform m₀ [] Book.createTables).result = .ok () ∧
      c = (c₀.perform m₀ [] Book.createTables).connection ∧
      (establish settings m others).media = (c₀.perform m₀ [] Book.createTables).media := by
  unfold establish at h ⊢
  cases hl : Location.ofText settings.url with
  | error e =>
      rw [hl] at h
      cases h
  | ok l =>
      rw [hl] at h
      dsimp only at h ⊢
      rcases hconnect : connect settings l m others with e | ⟨c₀, m₀⟩
      · rw [hconnect] at h
        cases h
      · rw [hconnect] at h
        dsimp only at h ⊢
        split at h
        · cases h
        next hbusy =>
          rw [if_neg hbusy]
          cases hr : (c₀.perform m₀ [] Book.createTables).result with
          | error e =>
              rw [hr] at h
              cases h
          | ok u =>
              rw [hr] at h
              cases h
              exact ⟨l, c₀, m₀, rfl, hconnect, hr, rfl, rfl⟩

theorem mem_memory_establish {n : MemoryName} {s : Store}
    (hc : (establish settings m others).result = .ok c)
    (hn : (n, s) ∈ (establish settings m others).media.memory) :
    (∃ s', (n, s') ∈ m.memory) ∨ c.memoryName? = some n := by
  obtain ⟨l, c₀, m₀, -, hconnect, -, rfl, hmedia⟩ := establish_eq_ok hc
  rw [hmedia] at hn
  rw [(c₀.perform_connection m₀ [] Book.createTables).2]
  rcases mem_memory_perform hn with ⟨s', hs'⟩ | hname
  · obtain ⟨f, mode, place, -, -, hopen, -, hplace⟩ := connect_eq_ok hconnect
    rcases Media.mem_memory_openPlace hopen hs' with hs' | rfl
    · exact .inl ⟨s', hs'⟩
    · refine .inr ?_
      rw [memoryName?, hplace]
      dsimp only
      rw [isClosed_of_connect hconnect]
      rfl
  · exact .inr hname

end Connection

def Action.handle? : Action → Option String
  | .openBook handle _ | .book _ (.duplicate handle) => some handle
  | _ => none

namespace Workspace

variable {w : Workspace} {x : Action} {k : Nat} {c : Connection}

theorem connection?_eq_some {handle : String} :
    w.connection? handle = some (k, c) ↔
      w.handles.lookup handle = some k ∧ w.connections[k]? = some c := by
  rw [connection?]
  simp only [Option.bind_eq_bind, Option.bind_eq_some_iff, Option.pure_def, Option.some.injEq,
    Prod.mk.injEq]
  constructor
  · rintro ⟨k', hk, c', hc, rfl, rfl⟩
    exact ⟨hk, hc⟩
  · rintro ⟨hk, hc⟩
    exact ⟨k, hk, c, hc, rfl, rfl⟩

def Closes (w : Workspace) (x : Action) (k : Nat) : Prop :=
  ∃ handle, w.handles.lookup handle = some k ∧
    (x = .book handle .close ∨ ∃ settings, x = .openBook handle settings)

/-- All that a step can make of a connection. -/
inductive Turns (w : Workspace) (x : Action) (k : Nat) (c : Connection) : Connection → Prop
  | same : Turns w x k c c
  | worked (m : Media) (reads : List Relation) (work : Work Answer) :
      Turns w x k c (c.perform m reads work).connection
  | closed (m : Media) (h : w.Closes x k) : Turns w x k c (c.close m).1

theorem Turns.eq_of_isClosed {c' : Connection} (h : w.Turns x k c c') (hc : c.isClosed) :
    c' = c := by
  cases h with
  | same => rfl
  | worked m reads work => rw [Connection.perform_of_isClosed hc]
  | closed m => rw [Connection.close_of_isClosed hc]

theorem Turns.isClosed_eq {c' : Connection} (h : w.Turns x k c c') (hx : ¬ w.Closes x k) :
    c'.isClosed = c.isClosed := by
  cases h with
  | same => rfl
  | worked m reads work => simp only [Connection.isClosed, c.perform_connection]
  | closed m h => exact absurd h hx

theorem turns_set {d d' : Connection} {j : Nat} (hc : w.connections[k]? = some c)
    (hd : w.connections[j]? = some d) (h : j = k → w.Turns x k d d') :
    ∃ c', (w.connections.set j d')[k]? = some c' ∧ w.Turns x k c c' := by
  by_cases hjk : j = k
  · subst hjk
    obtain rfl : d = c := Option.some.inj (hd.symm.trans hc)
    refine ⟨d', ?_, h rfl⟩
    exact List.getElem?_set_self (List.getElem?_eq_some_iff.mp hc).1
  · exact ⟨c, by rw [List.getElem?_set_ne hjk, hc], .same⟩

theorem turns_drop (handle : String) (settings : StoreSettings) (hc : w.connections[k]? = some c) :
    ∃ c', (w.drop handle).connections[k]? = some c' ∧
      w.Turns (.openBook handle settings) k c c' := by
  rw [drop]
  split
  next => exact ⟨c, hc, .same⟩
  next j d hd =>
    obtain ⟨hhandle, hd⟩ := connection?_eq_some.mp hd
    refine turns_set hc hd ?_
    rintro rfl
    exact .closed _ ⟨handle, hhandle, .inr ⟨settings, rfl⟩⟩

theorem turns_openBook (handle : String) (settings : StoreSettings)
    (hc : w.connections[k]? = some c) :
    ∃ c', (w.openBook handle settings).workspace.connections[k]? = some c' ∧
      w.Turns (.openBook handle settings) k c c' := by
  obtain ⟨c', hc', hturns⟩ := turns_drop handle settings hc
  refine ⟨c', ?_, hturns⟩
  rw [openBook]
  dsimp only
  split
  · exact hc'
  next d _ =>
    change ((w.drop handle).connections ++ [d])[k]? = some c'
    rw [List.getElem?_append_left (List.getElem?_eq_some_iff.mp hc').1, hc']

theorem turns_step (w : Workspace) (x : Action) (hc : w.connections[k]? = some c) :
    ∃ c', (w.step x).workspace.connections[k]? = some c' ∧ w.Turns x k c c' := by
  cases x with
  | openBook handle settings => exact turns_openBook handle settings hc
  | book handle a =>
      rw [step]
      split
      next => exact ⟨c, hc, .same⟩
      next j d hd =>
        obtain ⟨hhandle, hd⟩ := connection?_eq_some.mp hd
        cases a with
        | duplicate | isClosed | settings | testConnection => exact ⟨c, hc, .same⟩
        | close =>
            refine turns_set hc hd ?_
            rintro rfl
            exact .closed _ ⟨handle, hhandle, .inl rfl⟩
        | createTables | request | task | transaction =>
            exact turns_set hc hd fun _ => .worked _ _ _
  | files | writeFile | makeFolder => exact ⟨c, hc, .same⟩
  | provision env =>
      obtain ⟨d, hw, -⟩ := step_provision w env
      rw [hw]
      exact ⟨c, hc, .same⟩

theorem lookup_setHandle {g handle : String} (h : g ≠ handle) (w : Workspace) (j : Nat) :
    (w.setHandle handle j).handles.lookup g = w.handles.lookup g := by
  have hg : (g == handle) = false := beq_eq_false_iff_ne.mpr h
  rw [setHandle, List.lookup_cons, hg]
  exact lookup_filter (· != handle) (bne_iff_ne.mpr h) w.handles

theorem lookup_drop {g handle : String} (h : g ≠ handle) (w : Workspace) :
    (w.drop handle).handles.lookup g = w.handles.lookup g := by
  rw [drop]
  split
  · rfl
  · exact lookup_filter (· != handle) (bne_iff_ne.mpr h) w.handles

theorem lookup_step (w : Workspace) {x : Action} {g : String} (hx : x.handle? ≠ some g) :
    (w.step x).workspace.handles.lookup g = w.handles.lookup g := by
  cases x with
  | openBook handle settings =>
      have hg : g ≠ handle := fun h => hx (h ▸ rfl)
      rw [step, openBook]
      dsimp only
      split
      · exact lookup_drop hg w
      · rw [lookup_setHandle hg]
        exact lookup_drop hg w
  | book handle a =>
      rw [step]
      split
      · rfl
      · cases a with
        | duplicate handle' =>
            have hg : g ≠ handle' := fun h => hx (h ▸ rfl)
            exact lookup_setHandle hg w _
        | _ => rfl
  | provision env =>
      obtain ⟨d, hw, -⟩ := step_provision w env
      rw [hw]
  | _ => rfl

def MemoryInUse (w : Workspace) : Prop :=
  ∀ n s, (n, s) ∈ w.media.memory → some n ∈ w.connections.map (·.memoryName?)

theorem memoryInUse_release (w : Workspace) : w.release.MemoryInUse := by
  intro n s h
  have hn := (List.mem_filter.mp h).2
  rw [List.contains_iff_mem, List.mem_filterMap] at hn
  exact List.mem_map.mpr hn

theorem MemoryInUse.release_eq (h : w.MemoryInUse) : w.release = w := by
  have hmemory : w.media.memory.filter
      (fun x => (w.connections.filterMap (·.memoryName?)).contains x.1) = w.media.memory := by
    rw [List.filter_eq_self]
    intro x hx
    rw [List.contains_iff_mem, List.mem_filterMap]
    exact List.mem_map.mp (h x.1 x.2 hx)
  rw [Workspace.release, Media.release, hmemory]

theorem MemoryInUse.perform (h : w.MemoryInUse) (hc : w.connections[k]? = some c)
    (reads : List Relation) (work : Work Answer) :
    (w.perform k c reads work).workspace.MemoryInUse := by
  have hnames : (w.connections.set k (c.perform w.media reads work).connection).map
      (·.memoryName?) = w.connections.map (·.memoryName?) := by
    have hname : (w.connections.map (·.memoryName?))[k]? = some c.memoryName? := by simp [hc]
    obtain ⟨hk, hget⟩ := List.getElem?_eq_some_iff.mp hname
    rw [List.map_set, (c.perform_connection w.media reads work).2, ← hget, List.set_getElem_self]
  intro n s hn
  change some n ∈ (w.connections.set k (c.perform w.media reads work).connection).map _
  rw [hnames]
  rcases Connection.mem_memory_perform hn with ⟨s', hs'⟩ | hname
  · exact h n s' hs'
  · exact List.mem_map.mpr ⟨c, List.mem_of_getElem? hc, hname⟩

theorem MemoryInUse.drop (h : w.MemoryInUse) (handle : String) : (w.drop handle).MemoryInUse := by
  rw [Workspace.drop]
  split
  · exact h
  · exact memoryInUse_release _

theorem MemoryInUse.openBook (h : w.MemoryInUse) (handle : String) (settings : StoreSettings) :
    (w.openBook handle settings).workspace.MemoryInUse := by
  have hdrop := h.drop handle
  rw [Workspace.openBook]
  dsimp only
  split
  · exact memoryInUse_release _
  next c hc =>
    intro n s hn
    change some n ∈ ((w.drop handle).connections ++ [c]).map _
    rw [List.map_append, List.mem_append]
    rcases Connection.mem_memory_establish hc hn with ⟨s', hs'⟩ | hname
    · exact .inl (hdrop n s' hs')
    · exact .inr (List.mem_singleton.mpr hname.symm)

theorem MemoryInUse.step (h : w.MemoryInUse) (x : Action) : (w.step x).workspace.MemoryInUse := by
  cases x with
  | openBook handle settings => exact h.openBook handle settings
  | book handle a =>
      rw [Workspace.step]
      split
      · exact h
      next j c hc =>
        have hc := (connection?_eq_some.mp hc).2
        cases a with
        | duplicate | isClosed | settings | testConnection => exact h
        | close => exact memoryInUse_release _
        | createTables | request | task | transaction => exact h.perform hc _ _
  | files | writeFile | makeFolder => exact h
  | provision env =>
      obtain ⟨d, hw, -⟩ := step_provision w env
      rw [hw]
      exact h

end Workspace

end Markbook
