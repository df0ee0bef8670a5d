import Markbook.Proofs.Integrity
import Markbook.Proofs.Sparing
import Markbook.Workspace

namespace Markbook

open Store Work

variable {α : Type} {P : Store → Prop}

/-- The work keeps a property of stores, whether it ends well or fails. -/
def Work.Keeps (P : Store → Prop) (w : Work α) : Prop :=
  ∀ a s, P s → P (w a s).store

theorem Work.LeavesStore.keeps {w : Work α} (h : LeavesStore w) : Keeps P w := by
  intro a s hs
  rwa [h a s]

theorem Work.Keeps.bind {β : Type} {w : Work α} {f : α → Work β} (hw : Keeps P w)
    (hf : ∀ x, Keeps P (f x)) : Keeps P (w >>= f) := by
  intro a s hs
  cases h : (w a s).result with
  | ok x =>
      rw [(bind_of_gives ⟨h, rfl⟩).2]
      exact hf x a _ (hw a s hs)
  | error e =>
      rw [(bind_of_error h).2]
      exact hw a s hs

namespace Directory

variable {d : Directory} {p : Path}

def AllStores (P : Store → Prop) (d : Directory) : Prop :=
  ∀ p s, (p, Entry.store s) ∈ d → P s

theorem AllStores.remove (h : d.AllStores P) (p : Path) : (d.remove p).AllStores P :=
  fun q s hs => h q s (List.mem_of_mem_filter hs)

theorem AllStores.put {e : Entry} (h : d.AllStores P) (p : Path) (he : ∀ s, e = .store s → P s) :
    (d.put p e).AllStores P := by
  intro q s hs
  rcases List.mem_cons.mp hs with heq | hs
  · exact he s (congrArg Prod.snd heq).symm
  · exact h.remove p q s hs

theorem AllStores.of_find? {s : Store} (h : d.AllStores P) (hs : d.find? p = some (.store s)) :
    P s := by
  obtain ⟨before, after, hd, -⟩ := List.lookup_eq_some_iff.mp hs
  exact h p s (hd ▸ by simp)

theorem AllStores.of_storeAt {s : Store} (hbare : P .bare) (h : d.AllStores P)
    (hs : d.storeAt p = .ok s) : P s := by
  rw [storeAt] at hs
  split at hs
  next s' hfind =>
      cases hs
      exact h.of_find? hfind
  next =>
      split at hs <;> cases hs
      exact hbare

theorem AllStores.keepStore {s : Store} (h : d.AllStores P) (hs : P s) :
    (d.keepStore p s).AllStores P := by
  rw [Directory.keepStore]
  split
  · exact h
  · exact h.put p fun s' hs' => by cases hs'; exact hs

theorem AllStores.settleJournal {f : Finding} (h : f.directory.AllStores P) :
    (f.settleJournal p).directory.AllStores P := by
  rw [Finding.settleJournal]
  split
  · split <;> exact h
  · repeat' split
    all_goals first | exact h | exact h.remove _
  · exact h

theorem AllStores.settleLog {f : Finding} {layer : String} (h : f.directory.AllStores P) :
    (f.settleLog p layer).directory.AllStores P := by
  rw [Finding.settleLog]
  split
  · exact h
  · split
    · exact h
    · split
      · exact h.remove _
      · split
        · exact h
        · exact h.put _ fun _ he => by cases he
  · exact h

theorem AllStores.approach (h : d.AllStores P) (layer : String) (a : Access) (logged : Bool) :
    (d.approach p layer a logged).directory.AllStores P := by
  have hf : (if logged then ⟨d, a, logged⟩
      else (Finding.settleJournal ⟨d, a, logged⟩ p).settleLog p layer).directory.AllStores P := by
    split
    · exact h
    · exact AllStores.settleLog (AllStores.settleJournal h)
  rw [Directory.approach, Finding.checkName]
  split <;> exact hf

theorem AllStores.leaveLog {a : Access} (h : d.AllStores P) : (d.leaveLog p a).AllStores P := by
  rw [Directory.leaveLog]
  split
  · split
    · exact (h.remove _).remove _
    · exact h.put _ fun _ he => by cases he
  · exact h

end Directory

namespace Media

structure AllStores (P : Store → Prop) (m : Media) : Prop where
  directory : m.directory.AllStores P
  memory : ∀ n s, (n, s) ∈ m.memory → P s

variable {m : Media}

theorem AllStores.putMemory {s : Store} (h : m.AllStores P) (n : MemoryName) (hs : P s) :
    (m.putMemory n s).AllStores P := by
  refine ⟨h.directory, ?_⟩
  intro n' s' hs'
  rcases List.mem_cons.mp hs' with heq | hs'
  · cases heq
    exact hs
  · exact h.memory n' s' (List.mem_of_mem_filter hs')

theorem AllStores.release (h : m.AllStores P) (inUse : List MemoryName) :
    (m.release inUse).AllStores P :=
  ⟨h.directory, fun n s hs => h.memory n s (List.mem_of_mem_filter hs)⟩

theorem AllStores.lookup (hbare : P .bare) (h : m.AllStores P) (n : MemoryName) :
    P ((m.memory.lookup n).getD .bare) := by
  cases hs : m.memory.lookup n with
  | none => exact hbare
  | some s =>
      obtain ⟨before, after, hm, -⟩ := List.lookup_eq_some_iff.mp hs
      exact h.memory n s (hm ▸ by simp)

theorem AllStores.openMemory (hbare : P .bare) (h : m.AllStores P) (n : MemoryName) :
    (m.openMemory n).2.AllStores P := by
  rw [Media.openMemory]
  dsimp only
  split
  · exact h
  · exact h.putMemory n hbare

inductive Opened (m : Media) (f : FileName) (mode : OpenMode) : Place → Media → Prop
  | own (h : f.isVolatile mode ∨ mode.layer = memoryLayer) : Opened m f mode (.own .bare) m
  | memory (h : f.isVolatile mode ∨ mode.layer = memoryLayer) (n : MemoryName) :
      Opened m f mode (.memory n) (m.openMemory n).2
  | found {p : Path} (hp : m.directory.resolve f.path = .ok p)
      (hfolder : m.directory.isFolder p = false) : Opened m f mode (.file p) m
  | made {p : Path} (hp : m.directory.resolve f.path = .ok p)
      (hfolder : m.directory.isFolder p = false) (hnone : m.directory.find? p = none) :
      Opened m f mode (.file p) { m with directory := m.directory.put p (.text "") }

variable {f : FileName} {mode : OpenMode} {place : Place} {m' : Media}

theorem opened_of_openFile (h : m.openFile f mode = .ok (place, m')) :
    m.Opened f mode place m' := by
  rw [openFile] at h
  obtain ⟨p, hp, h⟩ := bind_eq_ok.mp h
  cases hfolder : m.directory.isFolder p with
  | true =>
      simp only [hfolder, if_true] at h
      repeat' split at h
      all_goals cases h
  | false =>
      dsimp only at h
      repeat' split at h
      all_goals cases h
      all_goals first
        | exact .found hp hfolder
        | exact .made hp hfolder (by simpa using ‹¬ (m.directory.find? p).isSome = true›)

theorem opened_of_openPlace (h : m.openPlace f mode = .ok (place, m')) :
    m.Opened f mode place m' := by
  rw [openPlace] at h
  dsimp only at h
  split at h
  next hvolatile =>
    split at h <;> cases h
    · exact .memory (.inl hvolatile) _
    · exact .own (.inl hvolatile)
  · split at h
    next hlayer =>
      split at h
      · cases h
        exact .memory (.inr hlayer) _
      · split at h <;> cases h
        · exact .memory (.inr hlayer) _
        · exact .own (.inr hlayer)
    · exact opened_of_openFile h

theorem AllStores.openPlace (hbare : P .bare) (h : m.AllStores P)
    (hopen : m.openPlace f mode = .ok (place, m')) :
    m'.AllStores P ∧ ∀ s, place = .own s → P s := by
  cases opened_of_openPlace hopen with
  | own =>
      refine ⟨h, ?_⟩
      rintro s ⟨⟩
      exact hbare
  | memory _ n => exact ⟨h.openMemory hbare n, by simp⟩
  | found => exact ⟨h, by simp⟩
  | made => exact ⟨⟨h.directory.put _ (by simp), h.memory⟩, by simp⟩

end Media

namespace Connection

def OwnStore (P : Store → Prop) (c : Connection) : Prop :=
  ∀ s, c.place = .own s → P s

variable {c : Connection} {m : Media}

theorem allStores_performFile {w : Work α} {p : Path} (hbare : P .bare) (hw : Keeps P w)
    (hm : m.AllStores P) : (c.performFile m p w).media.AllStores P := by
  have hd := hm.directory.approach (p := p) c.layer c.access c.logged
  rw [performFile]
  generalize m.directory.approach p c.layer c.access c.logged = f at hd
  dsimp only
  split
  next => exact ⟨hd, hm.memory⟩
  next s hs =>
      refine ⟨?_, hm.memory⟩
      have hkept := hd.keepStore (p := p) (hw f.access s (hd.of_storeAt hbare hs))
      dsimp only
      split
      · exact hkept.remove _
      · exact hkept

theorem allStores_perform {w : Work α} (hbare : P .bare) (hw : Keeps P w) (hm : m.AllStores P)
    (hc : c.OwnStore P) (reads : List Relation) :
    (c.perform m reads w).media.AllStores P ∧ (c.perform m reads w).connection.OwnStore P := by
  rw [perform]
  split
  · exact ⟨hm, hc⟩
  · split
    next _ _ s hplace =>
        refine ⟨hm, ?_⟩
        intro s' hs'
        cases hs'
        exact hw _ _ (hc s hplace)
    next _ _ n hplace => exact ⟨hm.putMemory n (hw _ _ (hm.lookup hbare n)), hc⟩
    next =>
        refine ⟨allStores_performFile hbare hw hm, ?_⟩
        rw [performFile]
        split <;> exact hc
    next =>
        rw [performSnapshot]
        split <;> exact ⟨hm, hc⟩

theorem allStores_leave (hbare : P .bare) (hm : m.AllStores P) (hc : c.OwnStore P) :
    (c.leave m).2.AllStores P ∧ (c.leave m).1.OwnStore P := by
  rw [leave]
  split
  next =>
      refine ⟨hm, ?_⟩
      intro s' hs'
      cases hs'
      exact hbare
  next => exact ⟨hm, hc⟩
  next =>
      refine ⟨⟨?_, hm.memory⟩, hc⟩
      dsimp only
      split
      · exact hm.directory.leaveLog
      · exact hm.directory

theorem allStores_close (hbare : P .bare) (hm : m.AllStores P) (hc : c.OwnStore P) :
    (c.close m).2.1.AllStores P ∧ (c.close m).1.OwnStore P := by
  rw [close]
  split
  · exact ⟨hm, hc⟩
  · exact allStores_leave hbare hm hc

theorem place_toPlace (settings : StoreSettings) (f : FileName) (mode : OpenMode) (place : Place)
    (m : Media) : (toPlace settings f mode place m).place = place := by
  unfold toPlace
  dsimp only
  split
  · split <;> rfl
  · rfl

theorem place_join (c : Connection) (others : List Connection) :
    (c.join others).place = c.place := by
  rw [join]
  split <;> rfl

theorem connect_eq_ok {settings : StoreSettings} {l : Location} {others : List Connection}
    {m' : Media} (h : connect settings l m others = .ok (c, m')) :
    ∃ f mode place, FileName.ofLocation l = .ok f ∧ f.openMode (.ofLocation l) = .ok mode ∧
      m.openPlace f mode = .ok (place, m') ∧ c = (toPlace settings f mode place m').join others ∧
      c.place = place := by
  rw [connect] at h
  obtain ⟨f, hf, h⟩ := bind_eq_ok.mp h
  obtain ⟨mode, hmode, h⟩ := bind_eq_ok.mp h
  obtain ⟨⟨place, m₁⟩, hopen, h⟩ := bind_eq_ok.mp h
  cases h
  refine ⟨f, mode, place, hf, hmode, hopen, rfl, ?_⟩
  rw [place_join, place_toPlace]

theorem allStores_connect {settings : StoreSettings} {l : Location} {others : List Connection}
    {x : Connection × Media} (hbare : P .bare) (hm : m.AllStores P)
    (hx : connect settings l m others = .ok x) : x.2.AllStores P ∧ x.1.OwnStore P := by
  obtain ⟨f, mode, place, -, -, hopen, -, hplace⟩ := connect_eq_ok hx
  obtain ⟨hm', hown⟩ := hm.openPlace hbare hopen
  exact ⟨hm', fun s hs => hown s (hplace ▸ hs)⟩

theorem allStores_establish (hbare : P .bare) (hw : Keeps P Book.createTables) (hm : m.AllStores P)
    (settings : StoreSettings) (others : List Connection) :
    (establish settings m others).media.AllStores P ∧
      ∀ c, (establish settings m others).result = .ok c → c.OwnStore P := by
  rw [establish]
  split
  · exact ⟨hm, fun c hc => by cases hc⟩
  · split
    · exact ⟨hm, fun c hc => by cases hc⟩
    next c' m' hconnect =>
        obtain ⟨hm', hown⟩ := allStores_connect hbare hm hconnect
        have hr := allStores_perform hbare hw hm' hown []
        dsimp only at hm' hown ⊢
        split
        · exact ⟨hm', fun c hc => by cases hc⟩
        · split
          · exact ⟨(allStores_leave hbare hr.1 hr.2).1, fun c hc => by cases hc⟩
          · exact ⟨hr.1, fun c hc => by cases hc; exact hr.2⟩

end Connection

/-- A store without tables has the property, and requests, the making of tables and the choice of
what is refused all keep it. -/
structure Lasting (P : Store → Prop) : Prop where
  bare : P .bare
  createTables : Keeps P Book.createTables
  request : ∀ r : Request, Keeps P r.run
  refusal : ∀ t : Task, t.isRefusal → Keeps P t.run

theorem Provision.allStores_visit (hP : Lasting P) {d : Directory} (hd : d.AllStores P)
    (settings : StoreSettings) : (visit settings d).2.2.AllStores P := by
  have hcount : Keeps P Book.catalogueSize := leavesStore_read.keeps
  have ho := Connection.allStores_establish (m := { directory := d }) hP.bare hP.createTables
    ⟨hd, by simp⟩ settings []
  rw [visit]
  dsimp only
  split
  · exact ho.1.directory
  next c hc =>
      have hr := Connection.allStores_perform hP.bare hcount ho.1 (ho.2 c hc) [.exercise]
      have hclose := (Connection.allStores_close hP.bare hr.1 hr.2).1.directory
      split <;> exact hclose

theorem Provision.run_cases {env : Environment} {d d' : Directory} {r : Run}
    (h : run env d = .ok (r, d')) : d' = d ∨ ∃ settings, d' = (visit settings d).2.2 := by
  rw [run] at h
  cases hsettings : settings env d with
  | error p =>
      rw [hsettings] at h
      cases h
  | ok checked =>
      rw [hsettings] at h
      cases checked with
      | error e =>
          cases h
          exact .inl rfl
      | ok settings =>
          cases h
          exact .inr ⟨settings.store, rfl⟩

/-- Whether an action changes stores by the requests of a book only. What is refused may change, and
files that are no stores may come and go. -/
def Action.isLawful : Action → Bool
  | .book _ (.task t) => t.isRefusal
  | .book _ (.transaction ..) => false
  | _ => true

namespace Workspace

variable {M : Media → Prop} {C : Connection → Prop} {w : Workspace} {m : Media} {k : Nat}
  {c : Connection}

structure Everywhere (M : Media → Prop) (C : Connection → Prop) (w : Workspace) : Prop where
  media : M w.media
  connections : ∀ c ∈ w.connections, C c

structure ClosingKeeps (M : Media → Prop) (C : Connection → Prop) : Prop where
  close : ∀ {m : Media} {c : Connection}, M m → C c → M (c.close m).2.1 ∧ C (c.close m).1
  release : ∀ {m : Media} (inUse : List MemoryName), M m → M (m.release inUse)

theorem Everywhere.connection? {handle : String} (h : Everywhere M C w)
    (hc : w.connection? handle = some (k, c)) : C c := by
  obtain ⟨k', -, hc⟩ := Option.bind_eq_some_iff.mp hc
  obtain ⟨c', hc', heq⟩ := Option.bind_eq_some_iff.mp hc
  cases heq
  exact h.connections c (List.mem_of_getElem? hc')

theorem Everywhere.setConnection {N : Media → Prop} (h : Everywhere M C w) (hm : N m) (hc : C c) :
    Everywhere N C { w with media := m, connections := w.connections.set k c } := by
  refine ⟨hm, ?_⟩
  intro c' hc'
  rcases List.mem_or_eq_of_mem_set hc' with hc' | rfl
  · exact h.connections c' hc'
  · exact hc

theorem Everywhere.closeAt (hclosing : ClosingKeeps M C) (h : Everywhere M C w) (hc : C c) :
    Everywhere M C (w.closeAt k c).1 := by
  obtain ⟨hm, hc'⟩ := hclosing.close h.media hc
  have hset := h.setConnection (k := k) hm hc'
  exact ⟨hclosing.release _ hset.media, hset.connections⟩

theorem Everywhere.drop (hclosing : ClosingKeeps M C) (h : Everywhere M C w) (handle : String) :
    Everywhere M C (w.drop handle) := by
  rw [Workspace.drop]
  split
  · exact h
  next k c hc =>
      have hclose := h.closeAt (k := k) hclosing (h.connection? hc)
      exact ⟨hclose.media, hclose.connections⟩

theorem Everywhere.openBook {settings : StoreSettings} (hclosing : ClosingKeeps M C)
    (hopening : ∀ m others, M m → (∀ c ∈ others, C c) →
      M (Connection.establish settings m others).media ∧
        ∀ c, (Connection.establish settings m others).result = .ok c → C c)
    (h : Everywhere M C w) (handle : String) :
    Everywhere M C (w.openBook handle settings).workspace := by
  have hd := h.drop hclosing handle
  obtain ⟨hm, hc⟩ := hopening _ _ hd.media hd.connections
  rw [Workspace.openBook]
  dsimp only
  split
  · exact ⟨hclosing.release _ hm, hd.connections⟩
  next c hresult =>
      refine ⟨hm, ?_⟩
      intro c' hc'
      rcases List.mem_append.mp hc' with hc' | hc'
      · exact hd.connections c' hc'
      · rw [List.mem_singleton.mp hc']
        exact hc c hresult

/-- Every store in a file, in memory or in the reach of one connection has the property. -/
structure AllStores (P : Store → Prop) (w : Workspace) : Prop where
  media : w.media.AllStores P
  connections : ∀ c ∈ w.connections, c.OwnStore P

theorem allStores_iff :
    w.AllStores P ↔ w.Everywhere (Media.AllStores P) (Connection.OwnStore P) :=
  ⟨fun h => ⟨h.media, h.connections⟩, fun h => ⟨h.media, h.connections⟩⟩

theorem closingKeeps_allStores (hbare : P .bare) :
    ClosingKeeps (Media.AllStores P) (Connection.OwnStore P) where
  close hm hc := Connection.allStores_close hbare hm hc
  release inUse hm := hm.release inUse

theorem allStores_empty : empty.AllStores P := by
  refine ⟨⟨?_, ?_⟩, ?_⟩
  · intro p s hs
    cases hs
  · intro n s hs
    cases hs
  · intro c hc
    cases hc

theorem AllStores.openBook (hP : Lasting P) (h : w.AllStores P) (handle : String)
    (settings : StoreSettings) : (w.openBook handle settings).workspace.AllStores P := by
  have hcloses := closingKeeps_allStores hP.bare
  refine allStores_iff.mpr ((allStores_iff.mp h).openBook hcloses ?_ handle)
  intro m others hm _
  exact Connection.allStores_establish hP.bare hP.createTables hm settings others

theorem AllStores.perform {work : Work Answer} (hP : Lasting P) (h : w.AllStores P)
    (hw : Keeps P work) (hc : c.OwnStore P) (reads : List Relation) :
    (w.perform k c reads work).workspace.AllStores P := by
  have hr := Connection.allStores_perform hP.bare hw h.media hc reads
  exact allStores_iff.mpr ((allStores_iff.mp h).setConnection hr.1 hr.2)

theorem AllStores.putEntry {e : Entry} (h : w.AllStores P) (name : String)
    (he : ∀ s, e = .store s → P s) : (w.putEntry name e).AllStores P :=
  ⟨⟨h.media.directory.put _ he, h.media.memory⟩, h.connections⟩

theorem AllStores.act {handle : String} {a : BookAction} (hP : Lasting P) (h : w.AllStores P)
    (hc : c.OwnStore P) (ha : (Action.book handle a).isLawful) :
    (w.act k c a).workspace.AllStores P := by
  cases a with
  | duplicate => exact ⟨h.media, h.connections⟩
  | close =>
      exact allStores_iff.mpr ((allStores_iff.mp h).closeAt (closingKeeps_allStores hP.bare) hc)
  | isClosed | settings | testConnection => exact h
  | createTables =>
      have hw := hP.createTables.bind fun _ => (leavesStore_pure (x := Answer.done)).keeps
      exact h.perform hP hw hc []
  | request r => exact h.perform hP (hP.request r) hc r.reads
  | task t =>
      have hw := leavesStore_connected.keeps.bind fun _ => hP.refusal t ha
      exact h.perform hP hw hc t.reads
  | transaction => cases ha

theorem step_provision (w : Workspace) (env : Environment) :
    ∃ d, (w.step (.provision env)).workspace = { w with media.directory := d } ∧
      (d = w.media.directory ∨ ∃ settings, d = (Provision.visit settings w.media.directory).2.2) := by
  rw [Workspace.step]
  split
  · exact ⟨_, rfl, .inl rfl⟩
  next r d hrun => exact ⟨d, rfl, Provision.run_cases hrun⟩

theorem AllStores.step {x : Action} (hP : Lasting P) (h : w.AllStores P) (hx : x.isLawful) :
    (w.step x).workspace.AllStores P := by
  cases x with
  | openBook handle settings => exact h.openBook hP handle settings
  | book handle a =>
      rw [Workspace.step]
      split
      · exact h
      next k c hc => exact h.act hP ((allStores_iff.mp h).connection? hc) hx
  | files => exact h
  | writeFile name content => exact h.putEntry name fun _ he => by cases he
  | makeFolder name => exact h.putEntry name fun _ he => by cases he
  | provision env =>
      obtain ⟨d, hw, hd⟩ := step_provision w env
      rw [hw]
      refine ⟨⟨?_, h.media.memory⟩, h.connections⟩
      rcases hd with rfl | ⟨settings, rfl⟩
      · exact h.media.directory
      · exact Provision.allStores_visit hP h.media.directory settings

def after (w : Workspace) (actions : List Action) : Workspace :=
  actions.foldl (fun w x => (w.step x).workspace) w

theorem after_induction {Q : Workspace → Prop} {actions : List Action} (h : Q w)
    (hstep : ∀ x ∈ actions, ∀ w, Q w → Q (w.step x).workspace) : Q (w.after actions) := by
  induction actions generalizing w with
  | nil => exact h
  | cons x actions ih =>
      exact ih (hstep x List.mem_cons_self w h) fun y hy => hstep y (List.mem_cons_of_mem x hy)

theorem AllStores.after (hP : Lasting P) {actions : List Action}
    (hlawful : ∀ x ∈ actions, x.isLawful) (h : w.AllStores P) : (w.after actions).AllStores P :=
  after_induction h fun x hx _ hw => hw.step hP (hlawful x hx)

end Workspace

theorem Store.lasting_integrity : Lasting Integrity where
  bare := Sound.nil
  createTables a s h := h.of_rows_eq (Book.sparesRows_createTables a s).rows
  request r a _ h := h.run r a
  refusal _ ht a s h := h.of_rows_eq (Task.sparesRows_of_isRefusal ht a s).rows

namespace Workspace

/-- However books are opened, used, shared, closed and opened again, and whatever fails on the way,
every store in the workspace keeps its integrity. -/
theorem integrity_after (actions : List Action) (h : ∀ x ∈ actions, x.isLawful) :
    (empty.after actions).AllStores Integrity :=
  allStores_empty.after lasting_integrity h

/-- A submission is refused after its first grade. Then the book is closed and opened again, the
submission is stored, and it is given to another user with one grade less. -/
def troubledActions : List Action :=
  let url := "sqlite://marks.db?mode=rwc"
  let u : User := ⟨noId, "ann", "Ann", "Lee"⟩
  let t := Time.Instant.inFirstHour 60 0
  let e : Exercise := ⟨7, "Sums", t, [⟨"1 + 1", "", 1⟩, ⟨"1 + 2", "", 2⟩]⟩
  let x : Submission := ⟨noId, u, e, t, [1.0, 0.5]⟩
  let shorter := { e with questions := e.questions.take 1 }
  [.openBook "a" { url },
    .book "a" (.request (.register e)),
    .book "a" (.task (.addGuard .grade .insert "no second grade" (some ("QuestionId", .int 2)))),
    .book "a" (.request (.submit x)),
    .book "a" .close,
    .openBook "b" { url },
    .book "b" (.task (.removeGuard .grade .insert)),
    .book "b" (.request (.submit x)),
    .book "b" (.request (.submit ⟨1, { u with username := "bob" }, shorter, t, [0.5]⟩))]

theorem integrity_after_trouble :
    (∀ x ∈ troubledActions, x.isLawful) ∧
      ((empty.after troubledActions).media.directory.storeAt ["marks.db"]).toOption.map
          (fun s => Relation.all.map fun t => (s.rows t).length) = some [2, 1, 2, 1, 1] ∧
      (empty.after troubledActions).AllStores Integrity :=
  ⟨by decide, by decide +kernel, integrity_after troubledActions (by decide)⟩

end Workspace

end Markbook
