import Markbook.Provision
import Markbook.Request
import Markbook.Task

namespace Markbook

structure Workspace where
  media : Media
  connections : List Connection
  handles : List (String × Nat)

inductive BookAction
  | duplicate (handle : String)
  | close
  | isClosed
  | settings
  | testConnection
  | createTables
  | request (r : Request)
  | task (t : Task)
  | transaction (tasks : List Task) (commit : Bool)

inductive Action
  | openBook (handle : String) (settings : StoreSettings)
  | book (handle : String) (a : BookAction)
  | files
  | writeFile (name content : String)
  | makeFolder (name : String)
  | provision (env : Environment)

inductive StepValue
  | answer (a : Answer)
  | settings (s : StoreSettings)
  | names (names : List String)
  | run (r : Run)
  | done

inductive StepError
  | noSuchHandle (name : String)
  | fault (e : Fault)
  | panic (p : Panic)

structure Step where
  value : Except StepError StepValue
  log : List Event
  workspace : Workspace

namespace Workspace

def empty : Workspace := ⟨{ directory := .empty }, [], []⟩

def connection? (w : Workspace) (handle : String) : Option (Nat × Connection) := do
  let k ← w.handles.lookup handle
  let c ← w.connections[k]?
  return (k, c)

def setHandle (w : Workspace) (handle : String) (k : Nat) : Workspace :=
  { w with handles := (handle, k) :: w.handles.filter (·.1 != handle) }

def release (w : Workspace) : Workspace :=
  { w with media := w.media.release (w.connections.filterMap (·.memoryName?)) }

def closeAt (w : Workspace) (k : Nat) (c : Connection) : Workspace × List Event :=
  let (c', media, log) := c.close w.media
  (release { w with media, connections := w.connections.set k c' }, log)

def drop (w : Workspace) (handle : String) : Workspace :=
  match w.connection? handle with
  | none => w
  | some (k, c) =>
    { (w.closeAt k c).1 with handles := w.handles.filter (·.1 != handle) }

def openBook (w : Workspace) (handle : String) (settings : StoreSettings) : Step :=
  let w := w.drop handle
  let o := Connection.establish settings w.media w.connections
  let w := { w with media := o.media }
  match o.result with
  | .error e => ⟨.error (.fault e), o.log, w.release⟩
  | .ok c =>
    let w := { w with connections := w.connections ++ [c] }
    ⟨.ok .done, o.log, w.setHandle handle (w.connections.length - 1)⟩

def perform (w : Workspace) (k : Nat) (c : Connection) (reads : List Store.Relation)
    (work : Work Answer) : Step :=
  let r := c.perform w.media reads work
  let w := { w with media := r.media, connections := w.connections.set k r.connection }
  ⟨(r.result.map .answer).mapError .fault, r.log, w⟩

def putEntry (w : Workspace) (name : String) (e : Entry) : Workspace :=
  { w with media.directory := w.media.directory.put (Path.ofName name) e }

def act (w : Workspace) (k : Nat) (c : Connection) : BookAction → Step
  | .duplicate handle => ⟨.ok .done, [], w.setHandle handle k⟩
  | .close =>
    let (w', log) := w.closeAt k c
    ⟨.ok (.answer (.flag (c.close w.media).1.isClosed)), log, w'⟩
  | .isClosed => ⟨.ok (.answer (.flag c.isClosed)), [], w⟩
  | .settings => ⟨.ok (.settings c.settings), [], w⟩
  | .testConnection => ⟨(c.check.map fun _ => .answer .done).mapError .fault, [], w⟩
  | .createTables => w.perform k c [] (do Book.createTables; return .done)
  | .request r => w.perform k c r.reads r.run
  | .task t => w.perform k c t.reads t.runAlone
  | .transaction tasks commit => w.perform k c (tasks.flatMap Task.reads) (Task.runAll tasks commit)

def step (w : Workspace) : Action → Step
  | .openBook handle settings => w.openBook handle settings
  | .book handle a =>
    match w.connection? handle with
    | none => ⟨.error (.noSuchHandle handle), [], w⟩
    | some (k, c) => w.act k c a
  | .files => ⟨.ok (.names w.media.directory.names), [], w⟩
  | .writeFile name content => ⟨.ok .done, [], w.putEntry name (.text content)⟩
  | .makeFolder name => ⟨.ok .done, [], w.putEntry name .folder⟩
  | .provision env =>
    match Provision.run env w.media.directory with
    | .error p => ⟨.error (.panic p), [], w⟩
    | .ok (r, directory) => ⟨.ok (.run r), [], { w with media.directory := directory }⟩

end Workspace

end Markbook
