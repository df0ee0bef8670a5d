import Markbook.Directory

namespace Markbook

open Store

/-- The name of a store in memory that several connections can share, because its layer knows it by
that name or because it lies in a cache that they share. -/
structure MemoryName where
  layer : String
  cached : Bool
  name : String
deriving DecidableEq, Repr

/-- Where the data of an open store is kept. A store of its own is in nobody else's reach. -/
inductive Place
  | file (p : Path)
  | memory (n : MemoryName)
  | own (s : Store)

structure Media where
  directory : Directory
  memory : List (MemoryName × Store) := []

namespace Media

def putMemory (m : Media) (n : MemoryName) (s : Store) : Media :=
  { m with memory := (n, s) :: m.memory.filter (·.1 != n) }

def release (m : Media) (inUse : List MemoryName) : Media :=
  { m with memory := m.memory.filter fun (n, _) => inUse.contains n }

def openMemory (m : Media) (n : MemoryName) : Place × Media :=
  (.memory n, if (m.memory.lookup n).isSome then m else m.putMemory n .bare)

def openFile (m : Media) (f : FileName) (mode : OpenMode) : Except StoreError (Place × Media) := do
  let d := m.directory
  let p ← d.resolve f.path
  if let some model := f.parameter? "modeof" then
    if d.find? (Path.ofName model) matches none then throw (.inputOutput .inspect)
  if d.isFolder p then
    throw (if mode.right = .read then .inputOutput .read else .cannotOpen)
  if (d.find? p).isSome then return (.file p, m)
  if mode.right = .create ∧ d.isFolder p.dropLast then
    return (.file p, { m with directory := d.put p (.text "") })
  throw .cannotOpen

/-- The memory layer knows names that begin at a root. -/
def isRooted (name : String) : Bool :=
  match name.toList with
  | c :: _ :: _ => c = '/' || c = '\\'
  | _ => false

def openPlace (m : Media) (f : FileName) (mode : OpenMode) : Except StoreError (Place × Media) :=
  let cached : MemoryName := ⟨mode.layer, true, f.path⟩
  if f.isVolatile mode then
    .ok (if f.path ≠ "" ∧ f.isUri ∧ mode.shared then m.openMemory cached else (.own .bare, m))
  else if mode.layer = memoryLayer then
    .ok (if isRooted f.path then m.openMemory { cached with cached := false }
      else if mode.shared then m.openMemory cached
      else (.own .bare, m))
  else m.openFile f mode

end Media

end Markbook
