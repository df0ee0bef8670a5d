import Markbook.Directory
import Markbook.Store.Work

namespace Markbook

open Store

def journalEnding : String := "-journal"

def logEnding : String := "-wal"

def logIndexEnding : String := "-shm"

def indexLayers : List String := ["unix", "unix-excl"]

structure Finding where
  directory : Directory
  access : Access
  logged : Bool

def Access.refuse (a : Access) (refusal : StoreError) : Access :=
  if a = .readWrite then .readOnly refusal else a

namespace Finding

def checkName (f : Finding) (p : Path) : Finding :=
  if (p.beside journalEnding).any (Directory.nameLimit < ·.utf8ByteSize) then
    { f with access := f.access.refuse .cannotOpen }
  else f

/-- A journal that could be rolled back is removed, which is itself a write. One that begins with a
zero has been dealt with, and stays until the next write. -/
def settleJournal (f : Finding) (p : Path) : Finding :=
  let journal := p.beside journalEnding
  let removed := { f with directory := f.directory.remove journal }
  match f.directory.find? journal with
  | some .folder =>
    if f.directory.isBlank p then { f with access := f.access.refuse .cannotOpen }
    else { f with access := .failing (.inputOutput .read) }
  | some (.text content) =>
    if content = "" then f
    else if f.directory.isBlank p then
      if f.access = .readWrite then removed else f
    else if (content.toList.head?.map Char.toNat).getD 0 = 0 then f
    else if f.access = .readWrite then removed
    else { f with access := .failing .readOnlyRollback }
  | _ => f

/-- A log belongs to a store that is not blank. Using it, a connection is counted in its index, which
not every layer can keep. -/
def settleLog (f : Finding) (p : Path) (layer : String) : Finding :=
  let log := p.beside logEnding
  let index := p.beside logIndexEnding
  match f.directory.find? log with
  | some .folder =>
    let cause := if f.directory.isBlank p then .inputOutput .remove else .cannotOpen
    { f with access := .failing cause }
  | some (.text content) =>
    if content = "" then f
    else if f.directory.isBlank p then { f with directory := f.directory.remove log }
    else if !indexLayers.contains layer then { f with access := .failing .cannotOpen }
    else
      let users := match f.directory.find? index with
        | some (.logIndex n) => n
        | _ => 0
      { f with directory := f.directory.put index (.logIndex (users + 1)), logged := true }
  | _ => f

end Finding

namespace Directory

def approach (d : Directory) (p : Path) (layer : String) (access : Access) (logged : Bool) :
    Finding :=
  let f : Finding := ⟨d, access, logged⟩
  let f := if logged then f else (f.settleJournal p).settleLog p layer
  f.checkName p

def hasJournal (d : Directory) (p : Path) : Bool :=
  d.isFile (p.beside journalEnding)

def dropJournal (d : Directory) (p : Path) : Directory :=
  d.remove (p.beside journalEnding)

/-- Ends the use of a log. The last connection removes the log, unless it must not write. -/
def leaveLog (d : Directory) (p : Path) (access : Access) : Directory :=
  let index := p.beside logIndexEnding
  match d.find? index with
  | some (.logIndex users) =>
    if users ≤ 1 ∧ access = .readWrite then (d.remove index).remove (p.beside logEnding)
    else d.put index (.logIndex (users - 1))
  | _ => d

end Directory

end Markbook
