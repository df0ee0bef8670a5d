import Markbook.Store.Cell
import Markbook.Store.Order

namespace Markbook.Store

/-- A column of rows of type `ρ`. Putting a value converts it to what the column keeps, and fails
if the column cannot keep it. A value that is looked for is converted by `sought`. -/
structure Column (ρ : Type) where
  name : String
  cell : ρ → Cell
  put : Cell → ρ → Option ρ
  sought : Cell → Cell

namespace Column

variable {ρ : Type}

def key (name : String) (get : ρ → Int) (set : Int → ρ → ρ) : Column ρ where
  name
  cell r := .int (get r)
  put c r := match c.toInteger with
    | .int n => some (set n r)
    | _ => none
  sought := Cell.toNumber

def integer (name : String) (get : ρ → Cell) (set : Cell → ρ → ρ) : Column ρ where
  name
  cell := get
  put c r := some (set c.toInteger r)
  sought := Cell.toNumber

def real (name : String) (get : ρ → Cell) (set : Cell → ρ → ρ) : Column ρ where
  name
  cell := get
  put c r := some (set c.toReal r)
  sought := Cell.toNumber

def text (name : String) (get : ρ → Option String) (set : Option String → ρ → ρ) : Column ρ where
  name
  cell r := .ofText (get r)
  put c r := some (set c.toText r)
  sought c := .ofText c.toText

def holds (c : Column ρ) (value : Cell) (r : ρ) : Bool :=
  (c.cell r).same (c.sought value)

end Column

structure RowId (ρ : Type) where
  column : Column ρ
  get : ρ → Int
  set : Int → ρ → ρ

/-- What is fixed about a table: its columns, its row ids, and the sets of columns that are unique
besides them. `order` is the primary key. -/
structure Schema (ρ : Type) where
  name : String
  blank : ρ
  columns : List (Column ρ)
  rowId : Option (RowId ρ)
  unique : List (List (Column ρ))
  order : List (Column ρ)

structure Guard (ρ : Type) where
  change : Change
  reason : String
  only : Option (Column ρ × Cell)

structure Table (ρ : Type) where
  rows : List ρ
  indexes : List (Column ρ)
  guards : List (Guard ρ)

namespace Schema

variable {ρ : Type} (σ : Schema ρ)

def column? (name : String) : Option (Column ρ) :=
  σ.columns.find? (·.name == name)

def isRowId (c : Column ρ) : Bool :=
  match σ.rowId with
  | some key => key.column.name == c.name
  | none => false

def pendingId : Int := -1

/-- A new row as guards see it, which is before its id is generated. -/
def announced (generated : Bool) (r : ρ) : ρ :=
  match σ.rowId with
  | some key => if generated then key.set pendingId r else r
  | none => r

def le (a b : ρ) : Bool :=
  (σ.order.foldr (fun c next => lexLe (fun a b => (c.cell a).le (c.cell b)) next)
    (fun _ _ => true)) a b

end Schema

namespace Table

variable {ρ : Type} (σ : Schema ρ) (t : Table ρ)

def empty : Table ρ := ⟨[], [], []⟩

def constraints : List (List (Column ρ)) :=
  (σ.rowId.map ([·.column])).toList ++ t.indexes.map ([·]) ++ σ.unique

def clash (columns : List (Column ρ)) (a b : ρ) : Bool :=
  columns.all fun c => (c.cell a).clashes (c.cell b)

def checkUnique (others : List ρ) (r : ρ) : Except StoreError Unit :=
  match (t.constraints σ).find? fun columns => others.any (clash columns r) with
  | some columns => .error (.taken (.key σ.name (columns.map (·.name))))
  | none => .ok ()

/-- Whether a guard stands in the way of a write. Row ids convert the guard's value, other columns
compare it as it is. -/
def applies (change : Change) (r : ρ) (g : Guard ρ) : Bool :=
  g.change == change &&
    match g.only with
    | none => true
    | some (c, value) => if σ.isRowId c then c.holds value r else (c.cell r).same value

def checkGuards (change : Change) (r : ρ) : Except StoreError Unit :=
  match t.guards.find? (applies σ change r) with
  | some g => .error (.refused g.reason)
  | none => .ok ()

def nextId (key : ρ → Int) : Int :=
  match (t.rows.map key).max? with
  | some n => n + 1
  | none => 1

def insert (generated : Bool) (r : ρ) : Except StoreError (Table ρ) := do
  t.checkGuards σ .insert (σ.announced generated r)
  t.checkUnique σ t.rows r
  return { t with rows := t.rows ++ [r] }

/-- Writes changed rows back one after the other; `before` are the rows already done. -/
def updateFrom (selected : ρ → Bool) (f : ρ → Except StoreError ρ) (before : List ρ) :
    List ρ → Except StoreError (List ρ)
  | [] => .ok before
  | r :: after =>
    if selected r then do
      let r' ← f r
      t.checkGuards σ .update r'
      t.checkUnique σ (before ++ after) r'
      updateFrom selected f (before ++ [r']) after
    else updateFrom selected f (before ++ [r]) after

def update (selected : ρ → Bool) (f : ρ → Except StoreError ρ) :
    Except StoreError (Nat × Table ρ) := do
  let rows ← t.updateFrom σ selected f [] t.rows
  return ((t.rows.filter selected).length, { t with rows })

def upsert (key : ρ → Int) (r : ρ) (f : ρ → ρ) : Except StoreError (Table ρ) := do
  t.checkGuards σ .insert r
  if t.rows.any (key · == key r) then
    let (_, t') ← t.update σ (key · == key r) fun old => .ok (f old)
    return t'
  else
    t.checkUnique σ t.rows r
    return { t with rows := t.rows ++ [r] }

def delete (selected : ρ → Bool) : Except StoreError (Nat × Table ρ) := do
  (t.rows.filter selected).forM (t.checkGuards σ .delete)
  return ((t.rows.filter selected).length, { t with rows := t.rows.filter (!selected ·) })

end Table

end Markbook.Store
