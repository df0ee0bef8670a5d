import Markbook.Proofs.Files
import Markbook.Proofs.Tables

namespace Markbook

open Store Work

namespace Path

variable {p : Path} {x y : String}

theorem beside_eq (hp : p ≠ []) (x : String) :
    p.beside x = p.dropLast ++ [p.getLast hp ++ x] := by
  rw [beside, List.getLast?_eq_some_getLast hp]
  rfl

theorem beside_inj (hp : p ≠ []) : p.beside x = p.beside y ↔ x = y := by
  simp [beside_eq hp]

theorem beside_ne (hp : p ≠ []) (hx : x ≠ "") : p.beside x ≠ p := by
  have hempty : p.beside "" = p := by
    rw [beside_eq hp, String.append_empty, List.dropLast_append_getLast]
  intro h
  exact hx ((beside_inj hp).mp (h.trans hempty.symm))

def access (p : Path) : Access :=
  if (p.beside journalEnding).any (Directory.nameLimit < ·.utf8ByteSize) then .readOnly .cannotOpen
  else .readWrite

theorem fault?_access (p : Path) : p.access.fault? = none := by
  rw [access]
  split <;> rfl

end Path

theorem Access.fault?_refuse (a : Access) (e : StoreError) : (a.refuse e).fault? = a.fault? := by
  cases a <;> rfl

namespace Directory

variable {d d' d'' : Directory} {p q : Path} {e : Entry} {s : Store}

/-- The entry at a path has stayed, and no folder has come up. -/
structure Spares (p : Path) (d d' : Directory) : Prop where
  entry : d'.find? p = d.find? p
  folders : ∀ q, d'.find? q = some .folder → d.find? q = some .folder

theorem Spares.refl (p : Path) (d : Directory) : Spares p d d :=
  ⟨rfl, fun _ h => h⟩

theorem Spares.trans (h : Spares p d d') (h' : Spares p d' d'') : Spares p d d'' :=
  ⟨h'.entry.trans h.entry, fun q hq => h.folders q (h'.folders q hq)⟩

theorem Spares.isBlank_eq (h : Spares p d d') : d'.isBlank p = d.isBlank p := by
  rw [isBlank, isBlank, h.entry]

theorem spares_remove (d : Directory) (hq : q ≠ p) : Spares p d (d.remove q) := by
  constructor
  · rw [find?_remove, if_neg hq.symm]
  · intro r hr
    rw [find?_remove] at hr
    split at hr
    · cases hr
    · exact hr

theorem spares_put (d : Directory) (hq : q ≠ p) (he : e ≠ .folder) : Spares p d (d.put q e) := by
  constructor
  · rw [find?_put, if_neg hq.symm]
  · intro r hr
    rw [find?_put] at hr
    split at hr
    · exact absurd (Option.some.inj hr) he
    · exact hr

theorem journal_ne (hp : p ≠ []) : p.beside journalEnding ≠ p :=
  Path.beside_ne hp (by decide)

theorem log_ne (hp : p ≠ []) : p.beside logEnding ≠ p :=
  Path.beside_ne hp (by decide)

theorem index_ne (hp : p ≠ []) : p.beside logIndexEnding ≠ p :=
  Path.beside_ne hp (by decide)

theorem spares_settleJournal (hp : p ≠ []) (f : Finding) :
    Spares p f.directory (f.settleJournal p).directory := by
  have hremoved := spares_remove f.directory (journal_ne hp)
  rw [Finding.settleJournal]
  repeat' split
  all_goals first
    | exact .refl p _
    | exact hremoved

theorem spares_settleLog (hp : p ≠ []) (f : Finding) (layer : String) :
    Spares p f.directory (f.settleLog p layer).directory := by
  rw [Finding.settleLog]
  dsimp only
  repeat' split
  all_goals first
    | exact .refl p _
    | exact spares_remove _ (log_ne hp)
    | exact spares_put _ (index_ne hp) (by simp)

theorem spares_approach (hp : p ≠ []) (d : Directory) (layer : String) (a : Access)
    (logged : Bool) : Spares p d (d.approach p layer a logged).directory := by
  let f : Finding := ⟨d, a, logged⟩
  let g := if logged then f else (f.settleJournal p).settleLog p layer
  have hfound : Spares p d g.directory := by
    dsimp only [g]
    split
    · exact .refl p d
    · exact (spares_settleJournal hp f).trans (spares_settleLog hp _ layer)
  rw [approach, Finding.checkName]
  split <;> exact hfound

theorem spares_leaveLog (hp : p ≠ []) (d : Directory) (a : Access) :
    Spares p d (d.leaveLog p a) := by
  rw [leaveLog]
  split
  · split
    · exact (spares_remove d (index_ne hp)).trans (spares_remove _ (log_ne hp))
    · exact spares_put d (index_ne hp) (by simp)
  · exact .refl p d

theorem access_settleJournal {f : Finding}
    (h : f.directory.find? (p.beside journalEnding) ≠ some .folder) (ha : f.access = .readWrite) :
    (f.settleJournal p).access = .readWrite := by
  rw [Finding.settleJournal]
  split
  next hfolder => exact absurd hfolder h
  · simp only [if_pos ha]
    repeat' split
    all_goals exact ha
  · exact ha

theorem access_settleLog {f : Finding} {layer : String}
    (h : f.directory.find? (p.beside logEnding) ≠ some .folder) (hl : layer ∈ indexLayers) :
    (f.settleLog p layer).access = f.access := by
  rw [Finding.settleLog]
  split
  next hfolder => exact absurd hfolder h
  · simp only [List.contains_iff_mem.mpr hl]
    repeat' split
    all_goals first
      | rfl
      | contradiction
  · rfl

theorem access_approach (hp : p ≠ []) {layer : String} (hl : layer ∈ indexLayers)
    (hj : d.find? (p.beside journalEnding) ≠ some .folder)
    (hlog : d.find? (p.beside logEnding) ≠ some .folder) (logged : Bool) :
    (d.approach p layer .readWrite logged).access = p.access := by
  let f : Finding := ⟨d, .readWrite, logged⟩
  let g := if logged then f else (f.settleJournal p).settleLog p layer
  have hfound : g.access = .readWrite := by
    dsimp only [g]
    split
    · rfl
    · have hlog' : (f.settleJournal p).directory.find? (p.beside logEnding) ≠ some .folder :=
        fun h => hlog ((spares_settleJournal hp f).folders _ h)
      exact (access_settleLog hlog' hl).trans (access_settleJournal hj rfl)
  rw [approach, Finding.checkName, Path.access]
  split
  · change g.access.refuse .cannotOpen = _
    rw [hfound]
    rfl
  · exact hfound

theorem settleLog_of_fault?_eq_none {f : Finding} {layer : String}
    (h : (f.settleLog p layer).access.fault? = none) :
    (f.settleLog p layer).access = f.access ∧
      f.directory.find? (p.beside logEnding) ≠ some .folder := by
  rw [Finding.settleLog] at h ⊢
  split
  next hfolder =>
    rw [hfolder] at h
    cases h
  next content htext =>
    rw [htext] at h ⊢
    refine ⟨?_, by simp⟩
    dsimp only at h ⊢
    repeat' split
    all_goals first
      | rfl
      | simp_all [Access.fault?]
  next hfolder _ => exact ⟨rfl, hfolder⟩

theorem find?_settleJournal {f : Finding} (hq : q ≠ p.beside journalEnding) :
    (f.settleJournal p).directory.find? q = f.directory.find? q := by
  have hremoved : (f.directory.remove (p.beside journalEnding)).find? q = f.directory.find? q := by
    rw [find?_remove, if_neg hq]
  rw [Finding.settleJournal]
  repeat' split
  all_goals first
    | rfl
    | exact hremoved

theorem fault?_checkName (f : Finding) (p : Path) :
    (f.checkName p).access.fault? = f.access.fault? := by
  rw [Finding.checkName]
  split
  · exact f.access.fault?_refuse .cannotOpen
  · rfl

theorem access_checkName_of_ne {f : Finding} (h : f.access ≠ .readWrite) :
    (f.checkName p).access = f.access := by
  rw [Finding.checkName]
  split
  · exact if_neg h
  · rfl

theorem not_folder_of_approach (hp : p ≠ []) (layer : String)
    (hfault : (d.approach p layer .readWrite false).access.fault? = none)
    (hrefusal : d.isBlank p → (d.approach p layer .readWrite false).access.refusal? = none) :
    d.find? (p.beside journalEnding) ≠ some .folder ∧
      d.find? (p.beside logEnding) ≠ some .folder := by
  let f : Finding := ⟨d, .readWrite, false⟩
  change (((f.settleJournal p).settleLog p layer).checkName p).access.fault? = none at hfault
  rw [fault?_checkName] at hfault
  obtain ⟨haccess, hlog⟩ := settleLog_of_fault?_eq_none hfault
  have hne : p.beside logEnding ≠ p.beside journalEnding := by
    rw [Ne, Path.beside_inj hp]
    decide
  rw [find?_settleJournal hne] at hlog
  refine ⟨?_, hlog⟩
  intro hfolder
  rw [haccess] at hfault
  -- With a folder in place of the journal, a blank file cannot be written and no other can be used.
  cases hblank : d.isBlank p with
  | true =>
      have hrefused : (f.settleJournal p).access = .readOnly .cannotOpen := by
        simp only [Finding.settleJournal, f, hfolder, hblank]
        rfl
      have hkept : (d.approach p layer .readWrite false).access = .readOnly .cannotOpen := by
        rw [hrefused] at haccess
        have hread : ((f.settleJournal p).settleLog p layer).access ≠ .readWrite := by
          simp [haccess]
        exact (access_checkName_of_ne hread).trans haccess
      have hnone := hrefusal hblank
      rw [hkept] at hnone
      cases hnone
  | false =>
      have hfailing : (f.settleJournal p).access = .failing (.inputOutput .read) := by
        simp only [Finding.settleJournal, f, hfolder, hblank]
        rfl
      rw [hfailing] at hfault
      cases hfault

/-- A store lies at a path, and no folder stands in its way. -/
structure Holds (d : Directory) (p : Path) (s : Store) : Prop where
  path : p ≠ []
  store : d.find? p = some (.store s)
  journal : d.find? (p.beside journalEnding) ≠ some .folder
  log : d.find? (p.beside logEnding) ≠ some .folder

theorem Holds.spares (h : d.Holds p s) (h' : Spares p d d') : d'.Holds p s where
  path := h.path
  store := h'.entry.trans h.store
  journal := fun hq => h.journal (h'.folders _ hq)
  log := fun hq => h.log (h'.folders _ hq)

theorem Holds.storeAt (h : d.Holds p s) : d.storeAt p = .ok s := by
  rw [Directory.storeAt, h.store]

theorem Holds.keepStore_eq (h : d.Holds p s) (s' : Store) :
    d.keepStore p s' = d.put p (.store s') := by
  refine if_neg ?_
  rintro ⟨hblank, -⟩
  rw [isBlank, h.store] at hblank
  cases hblank

theorem holds_put (hp : p ≠ []) (hj : d.find? (p.beside journalEnding) ≠ some .folder)
    (hlog : d.find? (p.beside logEnding) ≠ some .folder) (s : Store) :
    (d.put p (.store s)).Holds p s where
  path := hp
  store := by rw [find?_put, if_pos rfl]
  journal := by rwa [find?_put, if_neg (journal_ne hp)]
  log := by rwa [find?_put, if_neg (log_ne hp)]

theorem storeAt_of_isBlank (h : d.isBlank p) : d.storeAt p = .ok .bare := by
  rw [Directory.storeAt]
  split
  next hstore =>
    rw [isBlank, hstore] at h
    cases h
  · exact if_pos h

theorem keepStore_of_complete (hs : s.Complete) : d.keepStore p s = d.put p (.store s) := by
  refine if_neg ?_
  rintro ⟨-, hnone⟩
  have huser : (s.table .user).isNone := List.all_eq_true.mp hnone .user (by decide)
  rw [Option.isNone_iff_eq_none] at huser
  have hsome := hs .user
  rw [huser] at hsome
  cases hsome

end Directory

namespace Connection

variable {α : Type} {c : Connection} {m : Media} {p : Path} {s : Store}

/-- A connection to a file that reads and writes it, in a layer that can share logs. -/
structure Plain (c : Connection) (p : Path) : Prop where
  place : c.place = .file p
  access : c.access = .readWrite
  snapshot : c.snapshot = none
  layer : c.layer ∈ indexLayers

theorem Plain.isClosed (h : c.Plain p) : c.isClosed = false := by
  rw [Connection.isClosed, h.access]
  rfl

theorem Plain.perform_eq (h : c.Plain p) (m : Media) (reads : List Relation) (w : Work α) :
    c.perform m reads w = c.performFile m p w := by
  rw [perform, h.isClosed, h.place, h.snapshot]
  rfl

theorem Plain.perform (hc : c.Plain p) (hd : m.directory.Holds p s) (reads : List Relation)
    (w : Work α) :
    (c.perform m reads w).result = (w p.access s).result ∧
      (c.perform m reads w).log = (w p.access s).log ∧
      (c.perform m reads w).connection.Plain p ∧
      (c.perform m reads w).media.directory.Holds p (w p.access s).store := by
  have hspares := Directory.spares_approach hd.path m.directory c.layer .readWrite c.logged
  have haccess := Directory.access_approach hd.path hc.layer hd.journal hd.log c.logged
  have hd' := hd.spares hspares
  rw [hc.perform_eq, performFile, hc.access]
  generalize m.directory.approach p c.layer .readWrite c.logged = f at haccess hd'
  dsimp only
  rw [hd'.storeAt]
  dsimp only
  rw [haccess, hd'.keepStore_eq]
  have hkept := Directory.holds_put hd'.path hd'.journal hd'.log (w p.access s).store
  refine ⟨rfl, rfl, ⟨hc.place, rfl, hc.snapshot, hc.layer⟩, ?_⟩
  split
  · exact hkept.spares (Directory.spares_remove _ (Directory.journal_ne hd.path))
  · exact hkept

theorem Plain.close (hc : c.Plain p) (hd : m.directory.Holds p s) :
    (c.close m).2.1.directory.Holds p s := by
  rw [Connection.close, if_neg (by simp [hc.isClosed]), leave, hc.place]
  dsimp only
  split
  · exact hd.spares (Directory.spares_leaveLog hd.path _ _)
  · exact hd

theorem Plain.createTables (hc : c.Plain p) (hp : p ≠ []) (hlogged : c.logged = false)
    (h : (c.perform m [] Book.createTables).result = .ok ()) :
    (c.perform m [] Book.createTables).connection.Plain p ∧
      ∃ s, s.Complete ∧ (c.perform m [] Book.createTables).media.directory.Holds p s := by
  have hspares := Directory.spares_approach hp m.directory c.layer .readWrite false
  have hfolder := Directory.not_folder_of_approach (d := m.directory) hp c.layer
  rw [hc.perform_eq, performFile, hc.access, hlogged] at h ⊢
  generalize m.directory.approach p c.layer .readWrite false = f at h hspares hfolder ⊢
  dsimp only at h ⊢
  cases hstore : f.directory.storeAt p with
  | error e =>
      rw [hstore] at h
      dsimp only at h
      -- Nothing can be done with a file that is no store.
      obtain ⟨hfault, -⟩ := Book.allows_of_gives_createTables ⟨h, rfl⟩
      exfalso
      cases hf : f.access <;> simp [hf, Access.fault?] at hfault
  | ok s =>
      rw [hstore] at h
      dsimp only at h ⊢
      have hgives : Gives Book.createTables f.access s () (Book.createTables f.access s).store :=
        ⟨h, rfl⟩
      obtain ⟨hfault, hrefusal⟩ := Book.allows_of_gives_createTables hgives
      have hcomplete := Book.complete_of_gives_createTables hgives
      have hblank : m.directory.isBlank p → s = .bare := by
        intro hblank
        rw [← hspares.isBlank_eq] at hblank
        exact Except.ok.inj (hstore.symm.trans (Directory.storeAt_of_isBlank hblank))
      obtain ⟨hj, hlog⟩ := hfolder hfault fun hb => hrefusal (hblank hb)
      have hkept := Directory.holds_put (d := f.directory) hp (fun h => hj (hspares.folders _ h))
        (fun h => hlog (hspares.folders _ h)) (Book.createTables f.access s).store
      rw [Directory.keepStore_of_complete hcomplete]
      refine ⟨⟨hc.place, rfl, hc.snapshot, hc.layer⟩, _, hcomplete, ?_⟩
      split
      · exact hkept.spares (Directory.spares_remove _ (Directory.journal_ne hp))
      · exact hkept

end Connection

end Markbook
