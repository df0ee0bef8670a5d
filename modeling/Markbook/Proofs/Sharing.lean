import Markbook.Proofs.Approach
import Markbook.Proofs.Closing

namespace Markbook

open Store Work

/-- The settings lead to the file at a path, to be read and written in a layer that can share the
index of a log. -/
def StoreSettings.OpensFile (settings : StoreSettings) (p : Path) : Prop :=
  ∃ l f mode, Location.ofText settings.url = .ok l ∧ FileName.ofLocation l = .ok f ∧
    f.openMode (.ofLocation l) = .ok mode ∧ f.isVolatile mode = false ∧ f.isImmutable = false ∧
    mode.right ≠ .read ∧ mode.layer ∈ indexLayers ∧ Path.ofName f.path = p

theorem StoreSettings.OpensFile.of_name {settings : StoreSettings} (name : String)
    (hl : Location.ofText settings.url = .ok { target := .file name })
    (hname : FileName.ofName name = .ok { path := name }) (hempty : name ≠ "")
    (hmemory : name ≠ ":memory:") : settings.OpensFile (Path.ofName name) := by
  let mode : OpenMode :=
    { right := .create, memory := false, shared := false, layer := defaultLayer }
  refine ⟨_, { path := name }, mode, hl, hname, rfl, ?_, rfl, by decide, by decide, rfl⟩
  simp [FileName.isVolatile, mode, hempty, hmemory]

namespace Directory

variable {d : Directory} {p q : Path}

theorem eq_of_foldlM_follow {steps : List String} (h : steps.foldlM d.follow q = .ok p) :
    p = steps.foldl Path.follow q := by
  induction steps generalizing q with
  | nil => exact (Except.ok.inj h).symm
  | cons step steps ih =>
      rw [List.foldlM_cons] at h
      obtain ⟨q', hq', h⟩ := bind_eq_ok.mp h
      rw [Directory.follow] at hq'
      split at hq' <;> cases hq'
      exact ih h

theorem ne_nil_of_isFolder (h : d.isFolder p = false) : p ≠ [] := by
  rintro rfl
  cases h

theorem eq_of_resolve {name : String} (h : d.resolve name = .ok p) : p = Path.ofName name := by
  rw [resolve] at h
  obtain ⟨q, hq, h⟩ := bind_eq_ok.mp h
  dsimp only at h
  split at h <;> cases h
  exact eq_of_foldlM_follow hq

end Directory

namespace Connection

variable {settings : StoreSettings} {l : Location} {m m' : Media} {others : List Connection}
  {c : Connection} {p : Path}

theorem plain_join (hc : c.Plain p) (hothers : ∀ d ∈ others, d.isClosed ∨ d.Plain p) :
    (c.join others).Plain p := by
  rw [join]
  split
  next other hother =>
    have hshares := List.find?_some hother
    simp only [sharesWith, Bool.and_eq_true, Bool.not_eq_true'] at hshares
    have hplain : other.Plain p := by
      rcases hothers other (List.mem_of_find?_eq_some hother) with hclosed | hplain
      · rw [hshares.1.1.2] at hclosed
        cases hclosed
      · exact hplain
    exact ⟨hc.place, hplain.access, hplain.snapshot, hc.layer⟩
  next => exact hc

theorem plain_connect (hsettings : settings.OpensFile p)
    (hothers : ∀ d ∈ others, d.isClosed ∨ d.Plain p) (hl : Location.ofText settings.url = .ok l)
    (h : connect settings l m others = .ok (c, m')) :
    c.Plain p ∧ p ≠ [] ∧ ((m.directory.find? p).isSome → m' = m) := by
  obtain ⟨l', f, mode, hl', hf, hmode, hvolatile, himmutable, hright, hlayer, rfl⟩ := hsettings
  obtain rfl : l' = l := Except.ok.inj (hl'.symm.trans hl)
  obtain ⟨f', mode', place, hf', hmode', hopen, rfl, -⟩ := connect_eq_ok h
  obtain rfl : f = f' := Except.ok.inj (hf.symm.trans hf')
  obtain rfl : mode = mode' := Except.ok.inj (hmode.symm.trans hmode')
  have hkept : ¬ (f.isVolatile mode ∨ mode.layer = memoryLayer) := by
    rintro (hvolatile' | hmemory)
    · simp [hvolatile] at hvolatile'
    · rw [hmemory] at hlayer
      exact absurd hlayer (by decide)
  have hplain :
      (toPlace settings f mode (.file (Path.ofName f.path)) m').Plain (.ofName f.path) := by
    have hmade : toPlace settings f mode (.file (Path.ofName f.path)) m' =
        { settings, place := .file (Path.ofName f.path), access := .readWrite, layer := mode.layer,
          sharesCache := mode.shared } := by
      simp [toPlace, himmutable, hright]
    rw [hmade]
    exact ⟨rfl, rfl, rfl, hlayer⟩
  cases Media.opened_of_openPlace hopen with
  | own hmemory => exact absurd hmemory hkept
  | memory hmemory => exact absurd hmemory hkept
  | found hp hfolder =>
      obtain rfl := Directory.eq_of_resolve hp
      exact ⟨plain_join hplain hothers, Directory.ne_nil_of_isFolder hfolder, fun _ => rfl⟩
  | made hp hfolder hnone =>
      obtain rfl := Directory.eq_of_resolve hp
      refine ⟨plain_join hplain hothers, Directory.ne_nil_of_isFolder hfolder, ?_⟩
      intro hsome
      rw [hnone] at hsome
      cases hsome

theorem holds_establish {s : Store} (hsettings : settings.OpensFile p)
    (hothers : ∀ d ∈ others, d.isClosed ∨ d.Plain p) (hd : m.directory.Holds p s)
    (hs : s.Complete) :
    (establish settings m others).media.directory.Holds p s ∧
      ∀ c, (establish settings m others).result = .ok c → c.Plain p := by
  have hplain (l : Location) (hl : Location.ofText settings.url = .ok l) (c : Connection)
      (m' : Media) (hconnect : connect settings l m others = .ok (c, m')) : c.Plain p ∧ m' = m := by
    obtain ⟨hc, -, hsame⟩ := plain_connect hsettings hothers hl hconnect
    exact ⟨hc, hsame (by simp [hd.store])⟩
  rw [establish]
  split
  · exact ⟨hd, fun c hc => by cases hc⟩
  next l hl =>
    split
    · exact ⟨hd, fun c hc => by cases hc⟩
    next c m' hconnect =>
      obtain ⟨hc, rfl⟩ := hplain l hl c m' hconnect
      -- All tables are there, so that making them is no write and cannot be refused.
      obtain ⟨hcreate, hstore⟩ := Book.gives_createTables_of_complete p.fault?_access hs
      obtain ⟨hresult, -, hc', hm⟩ := hc.perform hd [] Book.createTables
      rw [hcreate] at hresult
      rw [hstore] at hm
      dsimp only
      split
      · exact ⟨hd, fun c hc => by cases hc⟩
      · rw [hresult]
        refine ⟨hm, ?_⟩
        rintro c ⟨⟩
        exact hc'

end Connection

namespace Workspace

variable {w : Workspace} {p : Path} {s : Store} {k : Nat} {c : Connection}

/-- All open connections of a workspace lead to one file, where a store with all tables lies. -/
structure Shares (p : Path) (s : Store) (w : Workspace) : Prop extends
    Everywhere (fun m => m.directory.Holds p s) (fun c => c.isClosed ∨ c.Plain p) w where
  complete : s.Complete

theorem Shares.plain (h : Shares p s w) (hc : w.connections[k]? = some c)
    (hopen : c.isClosed = false) : c.Plain p := by
  rcases h.connections c (List.mem_of_getElem? hc) with hclosed | hplain
  · rw [hopen] at hclosed
    cases hclosed
  · exact hplain

theorem closingKeeps_shares (p : Path) (s : Store) :
    ClosingKeeps (fun m => m.directory.Holds p s) (fun c => c.isClosed ∨ c.Plain p) where
  close := by
    intro m c hm hc
    refine ⟨?_, .inl (c.isClosed_close m)⟩
    rcases hc with hclosed | hplain
    · rwa [Connection.close_of_isClosed hclosed]
    · exact hplain.close hm
  release _ hm := hm

theorem Shares.perform (h : Shares p s w) (hc : w.connections[k]? = some c)
    (hopen : c.isClosed = false) (reads : List Relation) {work : Work Answer}
    (hwork : Keeps Complete work) :
    (w.perform k c reads work).value =
        ((work p.access s).result.map .answer).mapError .fault ∧
      (w.perform k c reads work).log = (work p.access s).log ∧
      Shares p (work p.access s).store (w.perform k c reads work).workspace := by
  obtain ⟨hresult, hlog, hplain, hm⟩ := (h.plain hc hopen).perform h.media reads work
  refine ⟨by rw [Workspace.perform, hresult], hlog, ?_, hwork _ s h.complete⟩
  exact h.toEverywhere.setConnection hm (.inr hplain)

theorem Shares.openBook {settings : StoreSettings} (h : Shares p s w)
    (hsettings : settings.OpensFile p) (handle : String) :
    Shares p s (w.openBook handle settings).workspace := by
  refine ⟨h.toEverywhere.openBook (closingKeeps_shares p s) ?_ handle, h.complete⟩
  intro m others hm hothers
  obtain ⟨hm', hc⟩ := Connection.holds_establish hsettings hothers hm h.complete
  exact ⟨hm', fun c hresult => .inr (hc c hresult)⟩

def opening (d : Directory) (handle : String) (settings : StoreSettings) : Step :=
  step ⟨{ directory := d }, [], []⟩ (.openBook handle settings)

def HasOpen (w : Workspace) (handle : String) : Prop :=
  (w.connection? handle).map (·.2.isClosed) = some false

instance (w : Workspace) (handle : String) : Decidable (w.HasOpen handle) :=
  inferInstanceAs (Decidable ((w.connection? handle).map (·.2.isClosed) = some false))

theorem HasOpen.exists_connection {handle : String} (h : w.HasOpen handle) :
    ∃ k c, w.connection? handle = some (k, c) ∧ c.isClosed = false := by
  obtain ⟨⟨k, c⟩, hc, hopen⟩ := Option.map_eq_some_iff.mp h
  exact ⟨k, c, hc, hopen⟩

theorem shares_opening {d : Directory} {settings : StoreSettings} {handle : String}
    (hsettings : settings.OpensFile p) (hopen : (opening d handle settings).value.isOk) :
    (opening d handle settings).workspace.HasOpen handle ∧
      ∃ s, Shares p s (opening d handle settings).workspace := by
  let w : Workspace := ⟨{ directory := d }, [], []⟩
  have hdrop : w.drop handle = w := rfl
  rw [opening, step, Workspace.openBook, hdrop] at hopen ⊢
  dsimp only at hopen ⊢
  cases hc : (Connection.establish settings w.media w.connections).result with
  | error e =>
      rw [hc] at hopen
      cases hopen
  | ok c =>
      obtain ⟨l, c₀, m₀, hl, hconnect, hcreate, rfl, hmedia⟩ := Connection.establish_eq_ok hc
      obtain ⟨hplain, hp, -⟩ := Connection.plain_connect hsettings (by simp [w]) hl hconnect
      obtain ⟨hplain', s, hs, hd⟩ :=
        hplain.createTables hp (Connection.logged_connect hconnect) hcreate
      constructor
      · simp [HasOpen, connection?, setHandle, w, hplain'.isClosed]
      · refine ⟨s, ⟨?_, ?_⟩, hs⟩
        · change (Connection.establish _ _ _).media.directory.Holds p s
          rwa [hmedia]
        · intro c' hc'
          rw [List.mem_singleton.mp hc']
          exact .inr hplain'

end Workspace

/-- The work of an operation on a store. To manage a handle is no operation, and neither is to take
a table away. -/
def BookAction.operation? : BookAction → Option (Work Answer)
  | .duplicate _ | .close | .isClosed | .settings => none
  | .testConnection => some do
    Work.connected
    return .done
  | .createTables => some Book.reopening
  | .request r => some r.run
  | .task t => if t.dropsTable then none else some t.runAlone
  | .transaction tasks commit =>
    if tasks.any Task.dropsTable then none else some (Task.runAll tasks commit)

def BookAction.isManagement : BookAction → Bool
  | .duplicate _ | .close | .isClosed | .settings => true
  | _ => false

def Action.operation? : Action → Option BookAction
  | .book _ a => if a.operation?.isSome then some a else none
  | _ => none

theorem BookAction.keeps_complete {a : BookAction} {work : Work Answer}
    (h : a.operation? = some work) : Keeps Complete work := by
  cases a with
  | duplicate | close | isClosed | settings => cases h
  | testConnection =>
      cases h
      exact leavesStore_connected.keeps.bind fun _ => leavesStore_pure.keeps
  | createTables =>
      cases h
      exact Book.keeps_complete_reopening
  | request r =>
      cases h
      exact r.keeps_complete
  | task t =>
      rw [operation?] at h
      split at h <;> cases h
      next hdrops => exact Task.keeps_complete_runAlone (by simpa using hdrops)
  | transaction tasks commit =>
      rw [operation?] at h
      split at h <;> cases h
      next hdrops => exact Task.keeps_complete_runAll (by simpa using hdrops) commit

namespace Workspace

variable {w : Workspace} {p : Path} {s : Store}

theorem Shares.operate {handle : String} {a : BookAction} {work : Work Answer} (h : Shares p s w)
    (hopen : w.HasOpen handle) (ha : a.operation? = some work) :
    (w.step (.book handle a)).value = ((work p.access s).result.map .answer).mapError .fault ∧
      (w.step (.book handle a)).log = (work p.access s).log ∧
      Shares p (work p.access s).store (w.step (.book handle a)).workspace := by
  have hkeeps := BookAction.keeps_complete ha
  obtain ⟨k, c, hc, hopen⟩ := hopen.exists_connection
  obtain ⟨-, hk⟩ := connection?_eq_some.mp hc
  have hstep : w.step (.book handle a) = w.act k c a := by rw [step, hc]
  rw [hstep]
  cases a with
  | duplicate | close | isClosed | settings => cases ha
  | testConnection =>
      have hcheck : c.check = .ok () := by
        rw [Connection.check, (h.plain hk hopen).access]
        rfl
      have hwork : work p.access s = ⟨.ok .done, s, []⟩ := by
        cases ha
        rw [Path.access]
        split <;> rfl
      rw [act, hcheck, hwork]
      exact ⟨rfl, rfl, h⟩
  | createTables | request =>
      cases ha
      exact h.perform hk hopen _ hkeeps
  | task t =>
      rw [BookAction.operation?] at ha
      split at ha <;> cases ha
      exact h.perform hk hopen _ hkeeps
  | transaction tasks commit =>
      rw [BookAction.operation?] at ha
      split at ha <;> cases ha
      exact h.perform hk hopen _ hkeeps

/-- What may happen to a shared file: it is opened once more, a handle is managed, or there is an
operation through a handle that is open. -/
inductive Serves (p : Path) (w : Workspace) : Action → Prop
  | opens (handle : String) {settings : StoreSettings} (h : settings.OpensFile p) :
      Serves p w (.openBook handle settings)
  | manages (handle : String) {a : BookAction} (h : a.isManagement) :
      Serves p w (.book handle a)
  | operates {handle : String} {a : BookAction} (h : a.operation?.isSome)
      (hopen : w.HasOpen handle) : Serves p w (.book handle a)

theorem Shares.manage (h : Shares p s w) (handle : String) {a : BookAction}
    (ha : a.isManagement) : Shares p s (w.step (.book handle a)).workspace := by
  rw [step]
  split
  · exact h
  next k c hc =>
    cases a with
    | duplicate => exact ⟨⟨h.media, h.connections⟩, h.complete⟩
    | close =>
        exact ⟨h.toEverywhere.closeAt (closingKeeps_shares p s) (h.connection? hc), h.complete⟩
    | isClosed | settings => exact h
    | _ => cases ha

theorem HasOpen.operate {handle : String} {a : BookAction} (h : w.HasOpen handle)
    (ha : a.operation?.isSome) : (w.step (.book handle a)).workspace.HasOpen handle := by
  obtain ⟨k, c, hc, hopen⟩ := h.exists_connection
  obtain ⟨hhandle, hk⟩ := connection?_eq_some.mp hc
  obtain ⟨c', hk', hturns⟩ := w.turns_step (.book handle a) hk
  have hsame : (Action.book handle a).handle? ≠ some handle := by
    cases a with
    | duplicate => cases ha
    | _ => simp [Action.handle?]
  have hcloses : ¬ w.Closes (.book handle a) k := by
    rintro ⟨g, -, hclose | ⟨settings, hopens⟩⟩
    · cases hclose
      cases ha
    · cases hopens
  have hc' : (w.step (.book handle a)).workspace.connection? handle = some (k, c') :=
    connection?_eq_some.mpr ⟨(w.lookup_step hsame).trans hhandle, hk'⟩
  rw [HasOpen, hc']
  exact congrArg some ((hturns.isClosed_eq hcloses).trans hopen)

def operationAnswers (w : Workspace) :
    List Action → List (Except StepError StepValue × List Event)
  | [] => []
  | x :: later =>
    let answers := (w.step x).workspace.operationAnswers later
    if x.operation?.isSome then ((w.step x).value, (w.step x).log) :: answers else answers

def throughOne (handle : String) (script : List Action) : List Action :=
  (script.filterMap Action.operation?).map (.book handle)

theorem Shares.operationAnswers_eq {w' : Workspace} {first : String} {script : List Action}
    (hscript : Along (Serves p) w script) (h : Shares p s w) (h' : Shares p s w')
    (hfirst : w'.HasOpen first) :
    w.operationAnswers script = w'.answers (throughOne first script) ∧
      ∃ s', Shares p s' (w.after script) ∧ Shares p s' (w'.after (throughOne first script)) := by
  -- Whatever handles there are, both workspaces hold the same store after every action. An action
  -- that is no operation moves the first workspace only, and leaves the store.
  induction script generalizing w w' s with
  | nil => exact ⟨rfl, s, h, h'⟩
  | cons x script ih =>
      obtain ⟨hx, hscript⟩ := hscript
      cases hx with
      | opens handle hsettings => exact ih hscript (h.openBook hsettings handle) h' hfirst
      | @manages handle a ha =>
          have hnone : (Action.book handle a).operation? = none := by
            cases a with
            | duplicate | close | isClosed | settings => rfl
            | _ => cases ha
          have hskip : throughOne first (.book handle a :: script) = throughOne first script := by
            rw [throughOne, List.filterMap_cons_none hnone, throughOne]
          rw [operationAnswers, hnone, hskip]
          exact ih hscript (h.manage handle ha) h' hfirst
      | @operates handle a ha hopen =>
          obtain ⟨work, hwork⟩ := Option.isSome_iff_exists.mp ha
          obtain ⟨hvalue, hlog, hw⟩ := h.operate hopen hwork
          obtain ⟨hvalue', hlog', hw'⟩ := h'.operate hfirst hwork
          obtain ⟨hanswers, hstores⟩ := ih hscript hw hw' (hfirst.operate ha)
          have hsome : (Action.book handle a).operation? = some a := if_pos ha
          have hgo : throughOne first (.book handle a :: script) =
              .book first a :: throughOne first script := by
            rw [throughOne, List.filterMap_cons_some hsome, List.map_cons, throughOne]
          rw [operationAnswers, hsome, hgo, answers, hvalue, hlog, hvalue', hlog', hanswers]
          exact ⟨rfl, hstores⟩

/-- A file was opened by the first handle. Then operations on it answer the same, and leave the same
tables, through any handles that are open at their time and through the first handle alone. -/
theorem operationAnswers_eq_throughOne (d : Directory) {settings : StoreSettings}
    (hsettings : settings.OpensFile p) {first : String}
    (hopen : (opening d first settings).value.isOk) {script : List Action}
    (hscript : Along (Serves p) (opening d first settings).workspace script) :
    (opening d first settings).workspace.operationAnswers script =
        (opening d first settings).workspace.answers (throughOne first script) ∧
      ∃ s, s.Complete ∧
        ((opening d first settings).workspace.after script).media.directory.storeAt p = .ok s ∧
        ((opening d first settings).workspace.after
          (throughOne first script)).media.directory.storeAt p = .ok s := by
  obtain ⟨hfirst, s, h⟩ := shares_opening hsettings hopen
  obtain ⟨hanswers, s', hs, hs'⟩ := h.operationAnswers_eq hscript h hfirst
  exact ⟨hanswers, s', hs.complete, hs.media.storeAt, hs'.media.storeAt⟩

/-- A second handle enrols a user. Then the first handle is duplicated and closed by its duplicate,
and the file is opened again for a submission and a login. -/
def relay : List Action :=
  let u : User := ⟨noId, "ann", "Ann", "Lee"⟩
  let t := Time.Instant.inFirstHour 60 0
  [.openBook "b" { url := "./marks.db" },
    .book "b" (.request (.storeUser u "first")),
    .book "a" (.duplicate "c"),
    .book "c" .close,
    .openBook "c" { url := "jdbc:sqlite:marks.db" },
    .book "c" (.request (.submit ⟨noId, u, ⟨7, "Sums", t, [⟨"1 + 1", "", 1⟩]⟩, t, [1.0]⟩)),
    .book "b" (.request (.checkLogin "ann" "first"))]

def relayStart : Step := opening .empty "a" { url := "sqlite://marks.db" }

theorem operationAnswers_relay :
    relayStart.value.isOk ∧ Along (Serves ["marks.db"]) relayStart.workspace relay ∧
      (relayStart.workspace.operationAnswers relay).map (·.1.isOk) = [true, true, true] ∧
      relayStart.workspace.operationAnswers relay =
        relayStart.workspace.answers (throughOne "a" relay) := by
  have hurl : StoreSettings.OpensFile { url := "sqlite://marks.db" } ["marks.db"] :=
    .of_name "marks.db" (by decide +kernel) (by decide +kernel) (by decide) (by decide)
  have hbare : StoreSettings.OpensFile { url := "./marks.db" } ["marks.db"] :=
    .of_name "./marks.db" (by decide +kernel) (by decide +kernel) (by decide) (by decide)
  have hjdbc : StoreSettings.OpensFile { url := "jdbc:sqlite:marks.db" } ["marks.db"] :=
    .of_name "marks.db" (by decide +kernel) (by decide +kernel) (by decide) (by decide)
  have hopen : relayStart.value.isOk := by decide +kernel
  have hrelay : Along (Serves ["marks.db"]) relayStart.workspace relay :=
    ⟨.opens "b" hbare, .operates rfl (by decide +kernel), .manages "a" rfl, .manages "c" rfl,
      .opens "c" hjdbc, .operates rfl (by decide +kernel), .operates rfl (by decide +kernel),
      trivial⟩
  have hsame := operationAnswers_eq_throughOne .empty hurl hopen hrelay
  exact ⟨hopen, hrelay, by decide +kernel, hsame.1⟩

end Workspace

end Markbook
