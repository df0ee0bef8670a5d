import Markbook.Proofs.Files

namespace Markbook

open Store Work

/-- Why a request fails on a closed connection: what it is about is checked first. -/
def Request.closedFault : Request → Fault
  | storeUser u _ => if u.hasName then .closed else .invalid .username
  | submit x =>
    if x.grades.length ≠ x.exercise.size then
      .invalid (.gradeCount x.grades.length x.exercise.id x.exercise.size)
    else if x.user.hasName then .closed
    else .invalid .username
  | _ => .closed

theorem Request.run_closed (r : Request) (s : Store) :
    r.run .closed s = ⟨.error r.closedFault, s, []⟩ := by
  cases r with
  | storeUser u password =>
      rw [closedFault]
      cases hname : u.hasName with
      | false =>
          have hcheck : Book.checkName u = .error (.invalid .username) := by
            simp [Book.checkName, hname]
          rw [run, Book.storeUser_eq, hcheck]
          rfl
      | true =>
          have hcheck : Book.checkName u = .ok () := by simp [Book.checkName, hname]
          rw [run, Book.storeUser_eq, hcheck]
          rfl
  | submit x =>
      rw [closedFault, run, Book.submit_eq, Submission.checkGrades, Book.checkName]
      by_cases hgrades : x.grades.length = x.exercise.size
      · rw [if_pos hgrades, if_neg (not_not.mpr hgrades)]
        split <;> rfl
      · rw [if_neg hgrades, if_pos hgrades]
        rfl
  | _ => rfl

namespace Workspace

variable {w w' : Workspace} {k : Nat} {c : Connection} {x : Action}

/-- What is answered through a handle whose connection is closed. Nothing is left behind, neither in
the workspace nor in the values of the caller. -/
structure FindsClosed (w : Workspace) (g : String) : Prop where
  isClosed : w.step (.book g .isClosed) = ⟨.ok (.answer (.flag true)), [], w⟩
  close : w.step (.book g .close) = ⟨.ok (.answer (.flag true)), [], w⟩
  request : ∀ r : Request, w.step (.book g (.request r)) = ⟨.error (.fault r.closedFault), [], w⟩ ∧
    (∀ s, r.left .closed s = r) ∧ r.after (.error r.closedFault) = r
  testConnection : w.step (.book g .testConnection) = ⟨.error (.fault .closed), [], w⟩
  createTables : w.step (.book g .createTables) = ⟨.error (.fault .closed), [], w⟩
  task : ∀ t, w.step (.book g (.task t)) = ⟨.error (.fault .closed), [], w⟩
  transaction : ∀ tasks commit,
    w.step (.book g (.transaction tasks commit)) = ⟨.error (.fault .closed), [], w⟩

theorem set_connection (hc : w.connections[k]? = some c) :
    { w with connections := w.connections.set k c } = w := by
  obtain ⟨hk, rfl⟩ := List.getElem?_eq_some_iff.mp hc
  rw [List.set_getElem_self]

theorem perform_of_isClosed (hc : w.connections[k]? = some c) (hclosed : c.isClosed)
    (reads : List Relation) (work : Work Answer) :
    w.perform k c reads work =
      ⟨((work .closed .bare).result.map .answer).mapError .fault, (work .closed .bare).log, w⟩ := by
  rw [perform, Connection.perform_of_isClosed hclosed]
  congr 1
  exact set_connection hc

theorem closeAt_fst (w : Workspace) (k : Nat) (c : Connection) :
    (w.closeAt k c).1 = release { w with
      media := (c.close w.media).2.1
      connections := w.connections.set k (c.close w.media).1 } :=
  rfl

theorem connection_closeAt (hc : w.connections[k]? = some c) :
    (w.closeAt k c).1.connections[k]? = some (c.close w.media).1 :=
  List.getElem?_set_self (List.getElem?_eq_some_iff.mp hc).1

theorem closeAt_of_isClosed (hw : w.MemoryInUse) (hc : w.connections[k]? = some c)
    (hclosed : c.isClosed) : w.closeAt k c = (w, []) := by
  rw [closeAt, Connection.close_of_isClosed hclosed]
  dsimp only
  rw [set_connection hc, hw.release_eq]

theorem findsClosed (hw : w.MemoryInUse) {g : String} (hc : w.connection? g = some (k, c))
    (hclosed : c.isClosed) : w.FindsClosed g := by
  have hstep (a : BookAction) : w.step (.book g a) = w.act k c a := by rw [step, hc]
  have hk := (connection?_eq_some.mp hc).2
  have haccess : c.access = .closed := beq_iff_eq.mp hclosed
  constructor
  case isClosed => rw [hstep, act, hclosed]
  case close =>
    rw [hstep, act, closeAt_of_isClosed hw hk hclosed, Connection.close_of_isClosed hclosed,
      hclosed]
  case request =>
    intro r
    rw [hstep, act, perform_of_isClosed hk hclosed, r.run_closed]
    have hafter : r.after (.error r.closedFault) = r := by cases r <;> rfl
    refine ⟨rfl, fun s => ?_, hafter⟩
    rw [r.left_eq_after, r.run_closed]
    exact hafter
  case testConnection =>
    rw [hstep, act, Connection.check, haccess]
    rfl
  case createTables | task | transaction =>
    intros
    rw [hstep, act, perform_of_isClosed hk hclosed]
    rfl

theorem connection_after_of_isClosed (later : List Action) (hc : w.connections[k]? = some c)
    (hclosed : c.isClosed) : (w.after later).connections[k]? = some c := by
  refine after_induction (Q := fun w => w.connections[k]? = some c) hc ?_
  intro x _ w hc
  obtain ⟨c', hc', hturns⟩ := w.turns_step x hc
  rwa [hturns.eq_of_isClosed hclosed] at hc'

theorem lookup_after {later : List Action} {g : String} (hg : w.handles.lookup g = some k)
    (h : ∀ x ∈ later, x.handle? ≠ some g) : (w.after later).handles.lookup g = some k :=
  after_induction (Q := fun w => w.handles.lookup g = some k) hg fun x hx w hg =>
    (w.lookup_step (h x hx)).trans hg

theorem memoryInUse_after (hw : w.MemoryInUse) (actions : List Action) :
    (w.after actions).MemoryInUse :=
  after_induction hw fun x _ _ hw => hw.step x

def Along (P : Workspace → Action → Prop) : Workspace → List Action → Prop
  | _, [] => True
  | w, x :: later => P w x ∧ Along P (w.step x).workspace later

theorem isClosed_after {later : List Action} (h : Along (fun w x => ¬ w.Closes x k) w later)
    (hc : w.connections[k]? = some c) :
    ∃ c', (w.after later).connections[k]? = some c' ∧ c'.isClosed = c.isClosed := by
  induction later generalizing w c with
  | nil => exact ⟨c, hc, rfl⟩
  | cons x later ih =>
      obtain ⟨c', hc', hturns⟩ := w.turns_step x hc
      obtain ⟨c'', hc'', hsame⟩ := ih h.2 hc'
      exact ⟨c'', hc'', hsame.trans (hturns.isClosed_eq h.1)⟩

end Workspace

/-- Two media have the same files, and the same stores in memory under the names of `P`. -/
structure Media.AgreeOn (P : MemoryName → Prop) (m m' : Media) : Prop where
  directory : m'.directory = m.directory
  memory : ∀ n, P n → m'.memory.lookup n = m.memory.lookup n

namespace Media

variable {P : MemoryName → Prop} {m m' : Media}

theorem AgreeOn.putMemory (h : m.AgreeOn P m') (n : MemoryName) (s : Store) :
    (m.putMemory n s).AgreeOn P (m'.putMemory n s) := by
  refine ⟨h.directory, ?_⟩
  intro n' hn'
  rw [Media.putMemory, Media.putMemory, List.lookup_cons, List.lookup_cons]
  cases hn : n' == n with
  | true => rfl
  | false =>
      have hkeep : (n' != n) = true := by rw [bne, hn]; rfl
      rw [lookup_filter (· != n) hkeep, lookup_filter (· != n) hkeep]
      exact h.memory n' hn'

theorem agreeOn_release (m : Media) {inUse : List MemoryName} (h : ∀ n, P n → n ∈ inUse) :
    m.AgreeOn P (m.release inUse) := by
  refine ⟨rfl, ?_⟩
  intro n hn
  exact lookup_filter inUse.contains (List.contains_iff_mem.mpr (h n hn)) m.memory

theorem AgreeOn.release (h : m.AgreeOn P m') {inUse inUse' : List MemoryName}
    (huse : ∀ n, P n → n ∈ inUse) (huse' : ∀ n, P n → n ∈ inUse') :
    (m.release inUse).AgreeOn P (m'.release inUse') := by
  refine ⟨h.directory, ?_⟩
  intro n hn
  have hkept := (m.agreeOn_release huse).memory n hn
  have hkept' := (m'.agreeOn_release huse').memory n hn
  exact hkept'.trans ((h.memory n hn).trans hkept.symm)

end Media

namespace Connection

variable {α : Type} {P : MemoryName → Prop} {m m' : Media} {c : Connection}

structure Result.AgreeOn (P : MemoryName → Prop) (r r' : Result α) : Prop where
  result : r'.result = r.result
  log : r'.log = r.log
  connection : r'.connection = r.connection
  media : r.media.AgreeOn P r'.media

theorem agreeOn_performFile (h : m.AgreeOn P m') (p : Path) (w : Work α) :
    (c.performFile m p w).AgreeOn P (c.performFile m' p w) := by
  rw [performFile, performFile, h.directory]
  split
  · exact ⟨rfl, rfl, rfl, ⟨rfl, h.memory⟩⟩
  · exact ⟨rfl, rfl, rfl, ⟨rfl, h.memory⟩⟩

theorem agreeOn_performSnapshot (h : m.AgreeOn P m') (p : Path) (n : Snapshot)
    (reads : List Relation) (w : Work α) :
    (c.performSnapshot m p n reads w).AgreeOn P (c.performSnapshot m' p n reads w) := by
  rw [performSnapshot, performSnapshot, h.directory]
  split
  · exact ⟨rfl, rfl, rfl, h⟩
  · exact ⟨rfl, rfl, rfl, h⟩

theorem agreeOn_perform (h : m.AgreeOn P m') (hc : ∀ n, c.memoryName? = some n → P n)
    (reads : List Relation) (w : Work α) :
    (c.perform m reads w).AgreeOn P (c.perform m' reads w) := by
  rw [perform, perform]
  split
  · exact ⟨rfl, rfl, rfl, h⟩
  next hopen =>
    split
    next => exact ⟨rfl, rfl, rfl, h⟩
    next n hplace =>
      have hname : c.memoryName? = some n := by
        rw [memoryName?, hplace]
        exact if_neg hopen
      rw [h.memory n (hc n hname)]
      exact ⟨rfl, rfl, rfl, h.putMemory n _⟩
    next p _ _ => exact agreeOn_performFile h p w
    next p n _ _ => exact agreeOn_performSnapshot h p n reads w

theorem agreeOn_leave (h : m.AgreeOn P m') (c : Connection) :
    (c.leave m').1 = (c.leave m).1 ∧ (c.leave m).2.AgreeOn P (c.leave m').2 := by
  rw [leave, leave, h.directory]
  split
  · exact ⟨rfl, h⟩
  · exact ⟨rfl, h⟩
  · exact ⟨rfl, ⟨rfl, h.memory⟩⟩

theorem agreeOn_close (h : m.AgreeOn P m') (c : Connection) :
    (c.close m').1 = (c.close m).1 ∧ (c.close m').2.2 = (c.close m).2.2 ∧
      (c.close m).2.1.AgreeOn P (c.close m').2.1 := by
  rw [close, close]
  split
  · exact ⟨rfl, rfl, h⟩
  · obtain ⟨hconnection, hm⟩ := agreeOn_leave h c
    exact ⟨hconnection, rfl, hm⟩

theorem memoryName?_of_isClosed (h : c.isClosed) : c.memoryName? = none := by
  rw [memoryName?]
  split
  · exact if_pos h
  · rfl

end Connection

namespace Workspace

variable {w w' : Workspace} {k j : Nat} {c : Connection} {x : Action}

def UsedBeside (w : Workspace) (k : Nat) (n : MemoryName) : Prop :=
  ∃ j c, j ≠ k ∧ w.connections[j]? = some c ∧ c.memoryName? = some n

/-- Two workspaces differ in the connection `k` and in what it alone can reach. -/
structure SameBeside (k : Nat) (w w' : Workspace) : Prop where
  handles : w'.handles = w.handles
  connections : ∀ j, j ≠ k → w'.connections[j]? = w.connections[j]?
  media : w.media.AgreeOn (w.UsedBeside k) w'.media

theorem UsedBeside.mem_inUse {n : MemoryName} (h : w.UsedBeside k n) :
    n ∈ w.connections.filterMap (·.memoryName?) := by
  obtain ⟨j, c, -, hc, hname⟩ := h
  exact List.mem_filterMap.mpr ⟨c, List.mem_of_getElem? hc, hname⟩

theorem SameBeside.release (h : SameBeside k w w') : SameBeside k w.release w'.release := by
  refine ⟨h.handles, h.connections, h.media.release (fun n hn => hn.mem_inUse) ?_⟩
  rintro n ⟨j, c, hj, hc, hname⟩
  exact UsedBeside.mem_inUse (k := k) ⟨j, c, hj, (h.connections j hj).trans hc, hname⟩

theorem SameBeside.setConnection {m m' : Media} (h : SameBeside k w w')
    (hc : w.connections[j]? = some c) {c' : Connection}
    (hname : ∀ n, c'.memoryName? = some n → c.memoryName? = some n)
    (hm : m.AgreeOn (w.UsedBeside k) m') :
    SameBeside k { w with media := m, connections := w.connections.set j c' }
      { w' with media := m', connections := w'.connections.set j c' } := by
  refine ⟨h.handles, ?_, hm.directory, ?_⟩
  · intro i hi
    dsimp only
    by_cases hij : j = i
    · subst hij
      have hc' := (h.connections j hi).trans hc
      rw [List.getElem?_set_self (List.getElem?_eq_some_iff.mp hc').1,
        List.getElem?_set_self (List.getElem?_eq_some_iff.mp hc).1]
    · rw [List.getElem?_set_ne hij, List.getElem?_set_ne hij, h.connections i hi]
  -- A name that is in use now was in use before, by the same connection.
  · rintro n ⟨i, d, hi, hd, hn⟩
    refine hm.memory n ?_
    by_cases hij : j = i
    · subst hij
      dsimp only at hd
      rw [List.getElem?_set_self (List.getElem?_eq_some_iff.mp hc).1] at hd
      cases hd
      exact ⟨j, c, hi, hc, hname n hn⟩
    · dsimp only at hd
      rw [List.getElem?_set_ne hij] at hd
      exact ⟨i, d, hi, hd, hn⟩

def PassesBy (k : Nat) (w : Workspace) (x : Action) : Prop :=
  ∃ g a, x = .book g a ∧ w.handles.lookup g ≠ some k

theorem SameBeside.act (h : SameBeside k w w') (hj : j ≠ k) (hc : w.connections[j]? = some c)
    (a : BookAction) :
    (w'.act j c a).value = (w.act j c a).value ∧ (w'.act j c a).log = (w.act j c a).log ∧
      SameBeside k (w.act j c a).workspace (w'.act j c a).workspace := by
  have hown : ∀ n, c.memoryName? = some n → w.UsedBeside k n := fun n hn => ⟨j, c, hj, hc, hn⟩
  have hwork (reads : List Relation) (work : Work Answer) :
      (w'.perform j c reads work).value = (w.perform j c reads work).value ∧
        (w'.perform j c reads work).log = (w.perform j c reads work).log ∧
        SameBeside k (w.perform j c reads work).workspace
          (w'.perform j c reads work).workspace := by
    obtain ⟨hresult, hlog, hconnection, hm⟩ := Connection.agreeOn_perform h.media hown reads work
    refine ⟨by rw [perform, perform, hresult], hlog, ?_⟩
    rw [perform, perform, hconnection]
    refine h.setConnection hc ?_ hm
    intro n hn
    rwa [(c.perform_connection w.media reads work).2] at hn
  cases a with
  | duplicate handle =>
      refine ⟨rfl, rfl, ?_⟩
      exact ⟨by simp only [Workspace.act, setHandle, h.handles], h.connections, h.media⟩
  | close =>
      obtain ⟨hclosed, hlog, hm⟩ := Connection.agreeOn_close h.media c
      have hnone := Connection.memoryName?_of_isClosed (c.isClosed_close w.media)
      refine ⟨by rw [Workspace.act, Workspace.act, hclosed], hlog, ?_⟩
      change SameBeside k (w.closeAt j c).1 (w'.closeAt j c).1
      rw [closeAt_fst, closeAt_fst, hclosed]
      refine (h.setConnection hc ?_ hm).release
      intro n hn
      rw [hnone] at hn
      cases hn
  | isClosed | settings | testConnection => exact ⟨rfl, rfl, h⟩
  | createTables | request | task | transaction => exact hwork _ _

theorem SameBeside.step (h : SameBeside k w w') (hx : w.PassesBy k x) :
    (w'.step x).value = (w.step x).value ∧ (w'.step x).log = (w.step x).log ∧
      SameBeside k (w.step x).workspace (w'.step x).workspace := by
  obtain ⟨g, a, rfl, hg⟩ := hx
  have hconnection : w'.connection? g = w.connection? g := by
    rw [Workspace.connection?, Workspace.connection?, h.handles]
    cases hj : w.handles.lookup g with
    | none => rfl
    | some j =>
        have hjk : j ≠ k := by
          rintro rfl
          exact hg hj
        simp only [Option.bind_eq_bind, Option.bind_some, h.connections j hjk]
  rw [Workspace.step, Workspace.step, hconnection]
  split
  · exact ⟨rfl, rfl, h⟩
  next j c hc =>
    obtain ⟨hj, hc⟩ := connection?_eq_some.mp hc
    refine h.act ?_ hc a
    rintro rfl
    exact hg hj

def answers (w : Workspace) : List Action → List (Except StepError StepValue × List Event)
  | [] => []
  | x :: later => ((w.step x).value, (w.step x).log) :: (w.step x).workspace.answers later

theorem SameBeside.answers_eq {later : List Action} (hlater : Along (PassesBy k) w later)
    (h : SameBeside k w w') : w'.answers later = w.answers later := by
  induction later generalizing w w' with
  | nil => rfl
  | cons x later ih =>
      obtain ⟨hvalue, hlog, hstep⟩ := h.step hlater.1
      rw [answers, answers, hvalue, hlog, ih hlater.2 hstep]

theorem sameBeside_closeAt (w : Workspace) (k : Nat) (hlogged : c.logged = false) :
    SameBeside k w (w.closeAt k c).1 := by
  have hm := (Connection.close_of_not_logged hlogged w.media).1
  have hne {j : Nat} (hj : j ≠ k) :
      (w.connections.set k (c.close w.media).1)[j]? = w.connections[j]? :=
    List.getElem?_set_ne hj.symm
  rw [closeAt_fst, hm]
  refine ⟨rfl, fun j hj => hne hj, w.media.agreeOn_release ?_⟩
  rintro n ⟨j, d, hj, hd, hname⟩
  exact List.mem_filterMap.mpr ⟨d, List.mem_of_getElem? ((hne hj).trans hd), hname⟩

theorem after_append (w : Workspace) (before later : List Action) :
    w.after (before ++ later) = (w.after before).after later :=
  List.foldl_append

/-- Once a connection has been closed through one of its handles, all of its handles find it closed,
for good. Every handle keeps its connection until its name is given away. Other connections stay
open until they are closed themselves, and as long as nobody writes files past all books, they
answer as they would have answered otherwise. -/
theorem closed_after_close (before later : List Action) {handle : String} {k : Nat} {c : Connection}
    (hc : (empty.after before).connection? handle = some (k, c)) :
    (∀ g, (empty.after (before ++ .book handle .close :: later)).handles.lookup g = some k →
      (empty.after (before ++ .book handle .close :: later)).FindsClosed g) ∧
    (∀ g, (empty.after before).handles.lookup g = some k → (∀ x ∈ later, x.handle? ≠ some g) →
      (empty.after (before ++ .book handle .close :: later)).handles.lookup g = some k) ∧
    (∀ j d, j ≠ k → (empty.after before).connections[j]? = some d →
      Along (fun w x => ¬ w.Closes x j) (empty.after (before ++ [.book handle .close])) later →
      ∃ d', (empty.after (before ++ .book handle .close :: later)).connections[j]? = some d' ∧
        d'.isClosed = d.isClosed) ∧
    ((∀ x ∈ before, x.writesFile = false) → Along (PassesBy k) (empty.after before) later →
      (empty.after (before ++ [.book handle .close])).answers later =
        (empty.after before).answers later) := by
  have hlogged : (∀ x ∈ before, x.writesFile = false) → c.logged = false := by
    intro hbefore
    have hfiles := undisturbed_after hbefore undisturbed_empty
    exact hfiles.connections c (List.mem_of_getElem? (connection?_eq_some.mp hc).2)
  have hrun (later : List Action) : empty.after (before ++ .book handle .close :: later) =
      ((empty.after before).closeAt k c).1.after later := by
    have hstep : ((empty.after before).step (.book handle .close)).workspace =
        ((empty.after before).closeAt k c).1 := by
      rw [step, hc]
      rfl
    rw [after_append, ← hstep]
    rfl
  rw [hrun later, hrun []]
  have hk := (connection?_eq_some.mp hc).2
  generalize empty.after before = w at hk ⊢
  -- Whatever comes later, the connection stays as closing has left it.
  have hclosed : ((w.closeAt k c).1.after later).connections[k]? = some (c.close w.media).1 :=
    connection_after_of_isClosed later (connection_closeAt hk) (c.isClosed_close w.media)
  refine ⟨?_, ?_, ?_, ?_⟩
  · intro g hg
    have hinUse : ((w.closeAt k c).1.after later).MemoryInUse :=
      memoryInUse_after (memoryInUse_release _) later
    exact findsClosed hinUse (connection?_eq_some.mpr ⟨hg, hclosed⟩) (c.isClosed_close w.media)
  · intro g hg hlater
    exact lookup_after hg hlater
  · intro j d hj hd hlater
    exact isClosed_after hlater ((List.getElem?_set_ne hj.symm).trans hd)
  · intro hbefore hlater
    exact (w.sameBeside_closeAt k (hlogged hbefore)).answers_eq hlater

/-- Two books are opened on one file. The first gets another handle, and a user is stored through
the second. -/
def twoBooks : List Action :=
  let url := "sqlite://marks.db?mode=rwc"
  [.openBook "a" { url }, .openBook "b" { url }, .book "a" (.duplicate "c"),
    .book "b" (.request (.storeUser ⟨noId, "ann", "Ann", "Lee"⟩ "first"))]

theorem closed_after_close_twoBooks :
    let later := [Action.book "b" (.request (.checkLogin "ann" "first"))]
    let w := empty.after (twoBooks ++ .book "c" .close :: later)
    ((empty.after twoBooks).connection? "c").map (·.1) = some 0 ∧
      w.FindsClosed "a" ∧ w.FindsClosed "c" ∧
      (empty.after (twoBooks ++ [.book "c" .close])).answers later =
        (empty.after twoBooks).answers later ∧
      ((empty.after twoBooks).answers later).map (·.1.isOk) = [true] := by
  intro later w
  have hfound : ((empty.after twoBooks).connection? "c").map (·.1) = some 0 := by decide +kernel
  obtain ⟨⟨k, c⟩, hc, hk⟩ := Option.map_eq_some_iff.mp hfound
  obtain rfl : k = 0 := hk
  obtain ⟨hclosed, -, -, hanswers⟩ := closed_after_close twoBooks later hc
  have hlater : Along (PassesBy 0) (empty.after twoBooks) later :=
    ⟨⟨"b", _, rfl, by decide +kernel⟩, trivial⟩
  exact ⟨hfound, hclosed "a" (by decide +kernel), hclosed "c" (by decide +kernel),
    hanswers (by decide) hlater, by decide +kernel⟩

end Workspace

end Markbook
