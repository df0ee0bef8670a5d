import Markbook.FileName
import Markbook.Store.Basic
import Markbook.Store.Order

namespace Markbook

open Store Text

/-- What a path leads to. A `logIndex` stands beside the log of a store while connections use it,
and counts them. -/
inductive Entry
  | store (s : Store)
  | text (content : String)
  | folder
  | logIndex (users : Nat)

abbrev Path := List String

namespace Path

def root : String := "/"

def parent : String := ".."

def back (p : Path) : Path :=
  match p.getLast? with
  | none => [parent]
  | some last => if last = parent then p ++ [parent] else if last = root then p else p.dropLast

def follow (p : Path) (step : String) : Path :=
  if step = "" ∨ step = "." then p else if step = parent then p.back else p ++ [step]

/-- The path before the first step of a name, and all steps. A name that begins at the root is kept
apart from all names in the directory. -/
def steps (name : String) : Path × List String :=
  (if name.toList.head? = some '/' then [root] else [],
    (splitAll '/' name.toList).map String.ofList)

def ofName (name : String) : Path :=
  let (start, steps) := steps name
  steps.foldl follow start

def beside (p : Path) (ending : String) : Path :=
  p.dropLast ++ p.getLast?.toList.map (· ++ ending)

end Path

abbrev Directory := List (Path × Entry)

namespace Directory

def empty : Directory := []

def find? (d : Directory) (p : Path) : Option Entry :=
  d.lookup p

def remove (d : Directory) (p : Path) : Directory :=
  d.filter (·.1 != p)

def put (d : Directory) (p : Path) (e : Entry) : Directory :=
  (p, e) :: d.remove p

def names (d : Directory) : List String :=
  arrange (fun a b => decide (a ≤ b)) <|
    d.filterMap fun (p, _) =>
      match p with
      | [name] => some name
      | _ => none

def isFolder (d : Directory) (p : Path) : Bool :=
  p.all (· == Path.parent) ||
    match d.find? p with
    | some .folder => true
    | _ => false

def isFile (d : Directory) (p : Path) : Bool :=
  !d.isFolder p && (d.find? p).isSome

def isBlank (d : Directory) (p : Path) : Bool :=
  match d.find? p with
  | none => true
  | some (.text content) => content = ""
  | _ => false

def storeAt (d : Directory) (p : Path) : Except StoreError Store :=
  match d.find? p with
  | some (.store s) => .ok s
  | _ => if d.isBlank p then .ok .bare else .error .notAStore

/-- A file stays blank as long as its store has no tables. -/
def keepStore (d : Directory) (p : Path) (s : Store) : Directory :=
  if d.isBlank p ∧ Relation.all.all fun t => (s.table t).isNone then d else d.put p (.store s)

def nameLimit : Nat := 255

/-- Follows a step of a name, which is looked up even if a later step takes it back. It may be
missing, but it may not be too long or lead out of a file. -/
def follow (d : Directory) (p : Path) (step : String) : Except StoreError Path :=
  let q := p.follow step
  if p.length < q.length ∧ (nameLimit < step.utf8ByteSize ∨ d.isFile p) then .error .cannotOpen
  else .ok q

def resolve (d : Directory) (name : String) : Except StoreError Path := do
  let (start, steps) := Path.steps name
  let p ← steps.foldlM d.follow start
  if p = [Path.root] then throw .cannotOpen
  return p

end Directory

end Markbook
