import Markbook.Book
import Markbook.Companion
import Markbook.Media
import Markbook.Settings
import Markbook.Store.Image

namespace Markbook

open Store

/-- What a connection has seen of a file that it takes to be immutable: which tables there are, once
and for all, and each table that it has read. -/
structure Snapshot where
  image : Store
  taken : List Relation := []

namespace Snapshot

def take (n : Snapshot) (s : Store) (t : Relation) : Snapshot :=
  if n.taken.contains t then n else ⟨n.image.setTable t (s.table t), t :: n.taken⟩

/-- The store as the connection sees it: the tables that it has read, and the others as they are. -/
def view (n : Snapshot) (s : Store) : Store :=
  n.taken.foldl (fun s t => s.setTable t (n.image.table t)) s

end Snapshot

structure Connection where
  settings : StoreSettings
  place : Place
  access : Access
  layer : String := defaultLayer
  sharesCache : Bool := false
  snapshot : Option Snapshot := none
  logged : Bool := false

namespace Connection

def isClosed (c : Connection) : Bool :=
  c.access == .closed

def memoryName? (c : Connection) : Option MemoryName :=
  match c.place with
  | .memory n => if c.isClosed then none else some n
  | _ => none

structure Result (α : Type) where
  result : Except Fault α
  log : List Event
  connection : Connection
  media : Media

section

variable {α : Type}

def performFile (c : Connection) (m : Media) (p : Path) (w : Work α) : Result α :=
  let f := m.directory.approach p c.layer c.access c.logged
  let c := { c with logged := f.logged }
  match f.directory.storeAt p with
  | .error e =>
    let o := w (if f.access matches .failing _ then f.access else .failing e) .bare
    ⟨o.result, o.log, c, { m with directory := f.directory }⟩
  | .ok s =>
    let o := w f.access s
    let d := f.directory.keepStore p o.store
    let wrote := !f.logged && d.hasJournal p && Image.write s != Image.write o.store
    ⟨o.result, o.log, c, { m with directory := if wrote then d.dropJournal p else d }⟩

/-- Work on a file that is taken to be immutable. When another file has come in its place, only the
tables that have been read are left. -/
def performSnapshot (c : Connection) (m : Media) (p : Path) (n : Snapshot) (reads : List Relation)
    (w : Work α) : Result α :=
  match m.directory.find? p with
  | some (.store s) =>
    let n := reads.foldl (·.take s) n
    let o := w c.access (n.view s)
    ⟨o.result, o.log, { c with snapshot := some n }, m⟩
  | _ =>
    let o := w (if reads.all n.taken.contains then c.access else .failing .malformed) n.image
    ⟨o.result, o.log, c, m⟩

def perform (c : Connection) (m : Media) (reads : List Relation) (w : Work α) : Result α :=
  if c.isClosed then
    let o := w .closed .bare
    ⟨o.result, o.log, c, m⟩
  else
    match c.place, c.snapshot with
    | .own s, _ =>
      let o := w c.access s
      ⟨o.result, o.log, { c with place := .own o.store }, m⟩
    | .memory n, _ =>
      let o := w c.access ((m.memory.lookup n).getD .bare)
      ⟨o.result, o.log, c, m.putMemory n o.store⟩
    | .file p, none => c.performFile m p w
    | .file p, some n => c.performSnapshot m p n reads w

end

def check (c : Connection) : Except Fault Unit :=
  (Work.connected c.access .bare).result

/-- Leaves the place of a connection. A store of its own is gone then. -/
def leave (c : Connection) (m : Media) : Connection × Media :=
  match c.place with
  | .own _ => ({ c with place := .own .bare, access := .closed }, m)
  | .memory _ => ({ c with access := .closed }, m)
  | .file p =>
    let d := if c.logged then m.directory.leaveLog p c.access else m.directory
    ({ c with access := .closed, logged := false }, { m with directory := d })

def close (c : Connection) (m : Media) : Connection × Media × List Event :=
  if c.isClosed then (c, m, [])
  else
    let (c', m') := c.leave m
    (c', m', [.closed c.settings.url])

def sharesWith (c other : Connection) : Bool :=
  c.sharesCache && other.sharesCache && !other.isClosed && c.layer == other.layer &&
    match c.place, other.place with
    | .file p, .file q => p == q
    | .memory n, .memory n' => n == n'
    | _, _ => false

def toPlace (settings : StoreSettings) (f : FileName) (mode : OpenMode) (place : Place)
    (m : Media) : Connection :=
  let immutable := f.isImmutable && !f.isVolatile mode
  let c : Connection :=
    { settings
      place
      access := if mode.right = .read ∨ immutable then .readOnly .readOnly else .readWrite
      layer := mode.layer
      sharesCache := mode.shared }
  match place, immutable with
  | .file p, true =>
    match m.directory.storeAt p with
    | .ok s => { c with snapshot := some { image := s } }
    | .error e => { c with access := .failing e }
  | _, _ => c

/-- A connection that shares a cache with one of `others` goes by what is known there. -/
def join (c : Connection) (others : List Connection) : Connection :=
  match others.find? c.sharesWith with
  | some other => { c with access := other.access, snapshot := other.snapshot }
  | none => c

def connect (settings : StoreSettings) (l : Location) (m : Media) (others : List Connection) :
    Except StoreError (Connection × Media) := do
  let f ← FileName.ofLocation l
  let mode ← f.openMode (.ofLocation l)
  let (place, m') ← m.openPlace f mode
  return ((toPlace settings f mode place m').join others, m')

structure Opening where
  result : Except Fault Connection
  log : List Event
  media : Media

def longestBusyMs : Nat := 2147483647

def establish (settings : StoreSettings) (m : Media) (others : List Connection) : Opening :=
  match Location.ofText settings.url with
  | .error e => ⟨.error (.database (.badLocation e)), [], m⟩
  | .ok l =>
    match connect settings l m others with
    | .error e => ⟨.error (.database e), [], m⟩
    | .ok (c, m) =>
      if longestBusyMs < settings.busyTimeoutMs then ⟨.error (.database .workerLost), [], m⟩
      else
        let r := c.perform m [] Book.createTables
        match r.result with
        | .error e => ⟨.error e, r.log, (r.connection.leave r.media).2⟩
        | .ok () => ⟨.ok r.connection, r.log ++ [.opened settings.url], r.media⟩

end Connection

end Markbook
