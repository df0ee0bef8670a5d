import Markbook.Proofs.Handles

namespace Markbook

open Store Work

namespace Directory

variable {d : Directory} {p q : Path} {e : Entry}

theorem find?_remove (d : Directory) (p q : Path) :
    (d.remove p).find? q = if q = p then none else d.find? q := by
  split
  next h => exact lookup_filter_of_not (· != p) (k := q) (by simp [h]) d
  next h => exact lookup_filter (· != p) (k := q) (by simp [h]) d

theorem find?_put (d : Directory) (p q : Path) (e : Entry) :
    (d.put p e).find? q = if q = p then some e else d.find? q := by
  rw [find?, put, List.lookup_cons]
  split
  next h =>
    rw [beq_iff_eq] at h
    rw [if_pos h]
  next h =>
    rw [beq_eq_false_iff_ne] at h
    rw [if_neg h]
    exact (find?_remove d p q).trans (if_neg h)

def OnlyBlank (d : Directory) : Prop :=
  ∀ p content, d.find? p = some (.text content) → content = ""

theorem OnlyBlank.remove (h : d.OnlyBlank) (p : Path) : (d.remove p).OnlyBlank := by
  intro q content hq
  rw [find?_remove] at hq
  split at hq
  · cases hq
  · exact h q content hq

theorem OnlyBlank.put (h : d.OnlyBlank) (p : Path)
    (he : ∀ content, e = .text content → content = "") : (d.put p e).OnlyBlank := by
  intro q content hq
  rw [find?_put] at hq
  split at hq
  · exact he content (Option.some.inj hq)
  · exact h q content hq

theorem OnlyBlank.keepStore (h : d.OnlyBlank) (p : Path) (s : Store) :
    (d.keepStore p s).OnlyBlank := by
  rw [Directory.keepStore]
  split
  · exact h
  · exact h.put p (by simp)

theorem settleJournal_of_onlyBlank {f : Finding} (h : f.directory.OnlyBlank) (p : Path) :
    (f.settleJournal p).directory = f.directory ∧ (f.settleJournal p).logged = f.logged := by
  rw [Finding.settleJournal]
  split
  · split <;> exact ⟨rfl, rfl⟩
  next content hfind =>
    rw [h _ content hfind, if_pos rfl]
    exact ⟨rfl, rfl⟩
  · exact ⟨rfl, rfl⟩

theorem settleLog_of_onlyBlank {f : Finding} (h : f.directory.OnlyBlank) (p : Path)
    (layer : String) :
    (f.settleLog p layer).directory = f.directory ∧ (f.settleLog p layer).logged = f.logged := by
  rw [Finding.settleLog]
  split
  · exact ⟨rfl, rfl⟩
  next content hfind =>
    rw [h _ content hfind, if_pos rfl]
    exact ⟨rfl, rfl⟩
  · exact ⟨rfl, rfl⟩

theorem approach_of_onlyBlank (h : d.OnlyBlank) (p : Path) (layer : String) (a : Access)
    (logged : Bool) :
    (d.approach p layer a logged).directory = d ∧
      (d.approach p layer a logged).logged = logged := by
  let f : Finding := ⟨d, a, logged⟩
  let g := if logged then f else (f.settleJournal p).settleLog p layer
  have hfound : g.directory = d ∧ g.logged = logged := by
    dsimp only [g]
    split
    · exact ⟨rfl, rfl⟩
    · obtain ⟨hd, hlogged⟩ := settleJournal_of_onlyBlank (f := f) h p
      have hblank : (f.settleJournal p).directory.OnlyBlank := by rwa [hd]
      have hlog := settleLog_of_onlyBlank hblank p layer
      exact ⟨hlog.1.trans hd, hlog.2.trans hlogged⟩
  rw [approach, Finding.checkName]
  split <;> exact hfound

end Directory

namespace Connection

variable {α : Type} {c : Connection} {m : Media}

theorem onlyBlank_perform (hm : m.directory.OnlyBlank) (reads : List Relation) (w : Work α) :
    (c.perform m reads w).media.directory.OnlyBlank ∧
      (c.perform m reads w).connection.logged = c.logged := by
  rw [perform]
  split
  · exact ⟨hm, rfl⟩
  · split
    next => exact ⟨hm, rfl⟩
    next => exact ⟨hm, rfl⟩
    next p _ _ =>
      obtain ⟨hd, hlogged⟩ :=
        Directory.approach_of_onlyBlank hm p c.layer c.access c.logged
      rw [performFile]
      generalize m.directory.approach p c.layer c.access c.logged = f at hd hlogged
      have hf : f.directory.OnlyBlank := by rwa [hd]
      dsimp only
      split
      · exact ⟨hf, hlogged⟩
      · refine ⟨?_, hlogged⟩
        dsimp only
        split
        · exact (hf.keepStore p _).remove _
        · exact hf.keepStore p _
    next =>
      rw [performSnapshot]
      split <;> exact ⟨hm, rfl⟩

theorem leave_of_not_logged (hc : c.logged = false) (m : Media) :
    (c.leave m).2 = m ∧ (c.leave m).1.logged = false := by
  rw [leave]
  split
  · exact ⟨rfl, hc⟩
  · exact ⟨rfl, hc⟩
  · rw [if_neg (by simp [hc])]
    exact ⟨rfl, rfl⟩

theorem close_of_not_logged (hc : c.logged = false) (m : Media) :
    (c.close m).2.1 = m ∧ (c.close m).1.logged = false := by
  rw [close]
  split
  · exact ⟨rfl, hc⟩
  · exact leave_of_not_logged hc m

end Connection

namespace Media

variable {m m' : Media} {f : FileName} {mode : OpenMode} {place : Place}

theorem onlyBlank_openMemory (hm : m.directory.OnlyBlank) (n : MemoryName) :
    (m.openMemory n).2.directory.OnlyBlank := by
  rw [openMemory]
  dsimp only
  split <;> exact hm

theorem onlyBlank_openPlace (hm : m.directory.OnlyBlank)
    (h : m.openPlace f mode = .ok (place, m')) : m'.directory.OnlyBlank := by
  cases opened_of_openPlace h with
  | own | found => exact hm
  | memory _ n => exact onlyBlank_openMemory hm n
  | made =>
      apply hm.put
      rintro content ⟨⟩
      rfl

end Media

namespace Connection

variable {c : Connection} {m m' : Media} {settings : StoreSettings} {l : Location}
  {others : List Connection}

theorem logged_connect (h : connect settings l m others = .ok (c, m')) : c.logged = false := by
  obtain ⟨f, mode, place, -, -, -, rfl, -⟩ := connect_eq_ok h
  have hmade : (toPlace settings f mode place m').logged = false := by
    unfold toPlace
    dsimp only
    split
    · split <;> rfl
    · rfl
  rw [join]
  split <;> exact hmade

theorem onlyBlank_connect (hm : m.directory.OnlyBlank)
    (h : connect settings l m others = .ok (c, m')) : m'.directory.OnlyBlank := by
  obtain ⟨f, mode, place, -, -, hopen, -, -⟩ := connect_eq_ok h
  exact Media.onlyBlank_openPlace hm hopen

theorem onlyBlank_establish (hm : m.directory.OnlyBlank) (settings : StoreSettings)
    (others : List Connection) :
    (establish settings m others).media.directory.OnlyBlank ∧
      ∀ c, (establish settings m others).result = .ok c → c.logged = false := by
  rw [establish]
  split
  · exact ⟨hm, fun c hc => by cases hc⟩
  · split
    · exact ⟨hm, fun c hc => by cases hc⟩
    next c₀ m₀ hconnect =>
      have hm₀ := onlyBlank_connect hm hconnect
      have hc₀ := logged_connect hconnect
      obtain ⟨hr, hlogged⟩ := onlyBlank_perform (c := c₀) hm₀ [] Book.createTables
      rw [hc₀] at hlogged
      dsimp only
      split
      · exact ⟨hm₀, fun c hc => by cases hc⟩
      · split
        · refine ⟨?_, fun c hc => by cases hc⟩
          rwa [(leave_of_not_logged hlogged _).1]
        · refine ⟨hr, ?_⟩
          rintro c ⟨⟩
          exact hlogged

end Connection

theorem Provision.onlyBlank_visit {d : Directory} (hd : d.OnlyBlank) (settings : StoreSettings) :
    (visit settings d).2.2.OnlyBlank := by
  obtain ⟨ho, hlogged⟩ := Connection.onlyBlank_establish (m := { directory := d }) hd settings []
  rw [visit]
  dsimp only
  split
  · exact ho
  next c hc =>
    obtain ⟨hr, hc'⟩ := Connection.onlyBlank_perform (c := c) ho [.exercise] Book.catalogueSize
    have hclose := (Connection.close_of_not_logged (hc'.trans (hlogged c hc))
      (c.perform (Connection.establish settings { directory := d } []).media [.exercise]
        Book.catalogueSize).media).1
    split
    · rwa [hclose]
    · rwa [hclose]

def Action.writesFile : Action → Bool
  | .writeFile .. => true
  | _ => false

namespace Workspace

/-- Nobody has written files into the directory, and no connection has found a log. -/
abbrev Undisturbed (w : Workspace) : Prop :=
  w.Everywhere (fun m => m.directory.OnlyBlank) (fun c => c.logged = false)

variable {w : Workspace} {k : Nat} {c : Connection}

theorem undisturbed_empty : empty.Undisturbed := by
  constructor
  · intro p content h
    cases h
  · intro c h
    cases h

theorem closingKeeps_undisturbed :
    ClosingKeeps (fun m => m.directory.OnlyBlank) (fun c => c.logged = false) where
  close := by
    intro m c hm hc
    obtain ⟨hmedia, hlogged⟩ := Connection.close_of_not_logged hc m
    rw [hmedia]
    exact ⟨hm, hlogged⟩
  release _ hm := hm

theorem undisturbed_perform (h : w.Undisturbed) (hc : c.logged = false) (reads : List Relation)
    (work : Work Answer) : (w.perform k c reads work).workspace.Undisturbed := by
  obtain ⟨hm, hc'⟩ := Connection.onlyBlank_perform (c := c) h.media reads work
  exact h.setConnection hm (hc'.trans hc)

theorem undisturbed_step (h : w.Undisturbed) {x : Action} (hx : x.writesFile = false) :
    (w.step x).workspace.Undisturbed := by
  cases x with
  | openBook handle settings =>
      exact h.openBook closingKeeps_undisturbed
        (fun m others hm _ => Connection.onlyBlank_establish hm settings others) handle
  | book handle a =>
      rw [step]
      split
      · exact h
      next j c hc =>
        have hc := h.connection? hc
        cases a with
        | duplicate => exact ⟨h.media, h.connections⟩
        | isClosed | settings | testConnection => exact h
        | close => exact h.closeAt closingKeeps_undisturbed hc
        | createTables | request | task | transaction => exact undisturbed_perform h hc _ _
  | files => exact h
  | writeFile name content => cases hx
  | makeFolder name => exact ⟨h.media.put _ (by simp), h.connections⟩
  | provision env =>
      obtain ⟨d, hw, hd⟩ := step_provision w env
      rw [hw]
      refine ⟨?_, h.connections⟩
      rcases hd with rfl | ⟨settings, rfl⟩
      · exact h.media
      · exact Provision.onlyBlank_visit h.media settings

theorem undisturbed_after {actions : List Action} (hactions : ∀ x ∈ actions, x.writesFile = false)
    (h : w.Undisturbed) : (w.after actions).Undisturbed :=
  after_induction h fun x hx _ hw => undisturbed_step hw (hactions x hx)

end Workspace

end Markbook
