import Markbook.Store.Work

namespace Markbook

open Store

namespace Store.Schema

variable {ρ : Type} (σ : Schema ρ)

def putAll (cells : List (String × Cell)) (r : ρ) : Except StoreError ρ :=
  cells.foldlM
    (fun r (name, value) =>
      match σ.column? name with
      | none => .error (.noSuchColumn σ.name name)
      | some c =>
        match c.put value r with
        | some r' => .ok r'
        | none => .error .keyNotInteger)
    r

def holdsAll (cells : List (String × Cell)) (r : ρ) : Bool :=
  cells.all fun (name, value) =>
    match σ.column? name with
    | some c => c.holds value r
    | none => false

/-- The order in which rows are visited that hold values in the columns `named`: by row id; or by
the second column of the key, if the first one leads to them and no unique column does; or as they
were added. -/
def visitLe (t : Table ρ) (named : List String) (a b : ρ) : Bool :=
  match σ.rowId, σ.order with
  | some key, _ => key.get a ≤ key.get b
  | none, [first, second] =>
    if named.contains first.name && !named.contains second.name &&
        !t.indexes.any (named.contains ·.name) then
      (second.cell a).le (second.cell b)
    else true
  | none, _ => true

def newRow (t : Table ρ) (cells : List (String × Cell)) : Except StoreError (Bool × ρ) :=
  match σ.rowId with
  | none => do return (false, ← σ.putAll cells σ.blank)
  | some key =>
    let given := cells.any fun (name, value) =>
      name == key.column.name && value.toInteger.kind != 0
    if given then do return (false, ← σ.putAll cells σ.blank)
    else do
      let others := cells.filter fun (name, _) => name != key.column.name
      return (true, ← σ.putAll others (key.set (t.nextId key.get) σ.blank))

end Store.Schema

namespace Direct

def insertRow (t : Relation) (cells : List (String × Cell)) : Work Unit :=
  .write t fun x => do
    let (generated, r) ← t.schema.newRow x cells
    let x' ← x.insert t.schema generated r
    return ((), x')

/-- Changes rows. Which of several errors is reported depends on the order of the visit, but not
whether there is one, nor the outcome. -/
def updateRows (t : Relation) (values condition : List (String × Cell)) : Work Nat :=
  .write t fun x => do
    let change (x : Table t.Row) : Except StoreError (Nat × Table t.Row) :=
      x.update t.schema (t.schema.holdsAll condition) (t.schema.putAll values)
    let visit := arrange (t.schema.visitLe x (condition.map (·.1))) x.rows
    let _ ← change { x with rows := visit }
    change x

def deleteRows (t : Relation) (condition : List (String × Cell)) : Work Nat :=
  .write t fun x => x.delete t.schema (t.schema.holdsAll condition)

def requireMain (t : Relation) : Work Unit :=
  .read fun s =>
    match s.table t with
    | some _ => .ok ()
    | none => .error (.noSuchTable ("main." ++ t.name))

def addIndex (t : Relation) (name : String) : Work Unit := do
  requireMain t
  .read fun s => do
    if (← s.require t).indexes.any (·.name == name) then .error (.indexExists t.name name)
    else .ok ()
  .write t fun x =>
    match t.schema.column? name with
    | none => .error (.noSuchColumn t.name name)
    | some c =>
      if x.rows.Pairwise fun a b => (c.cell a).clashes (c.cell b) = false then
        .ok ((), { x with indexes := c :: x.indexes })
      else .error (.taken (.key t.name [name]))

def addGuard (t : Relation) (change : Change) (reason : String) (only : Option (String × Cell)) :
    Work Unit := do
  requireMain t
  .read fun s => do
    if (← s.require t).guards.any (·.change == change) then .error (.guardExists t.name change)
    else .ok ()
  .write t fun x => do
    let only ← only.mapM fun (name, value) =>
      match t.schema.column? name with
      | some c => .ok (c, value)
      | none => .error (.noSuchColumn t.name name)
    return ((), { x with guards := ⟨change, reason, only⟩ :: x.guards })

def removeGuard (t : Relation) (change : Change) : Work Unit := do
  .read fun s =>
    if ((s.table t).map (·.guards.any (·.change == change))).getD false then .ok ()
    else .error (.noSuchGuard t.name change)
  .write t fun x =>
    .ok ((), { x with guards := x.guards.filter (·.change != change) })

def cellsOf (t : Relation) (x : Table t.Row) : List (List Cell) :=
  (arrange t.schema.le x.rows).map fun r => t.schema.columns.map (·.cell r)

def dump (s : Store) : List (String × List (List Cell)) :=
  Relation.all.filterMap fun t => (s.table t).map fun x => (t.name, cellsOf t x)

def tables : Work (List (String × List (List Cell))) :=
  fun a s =>
    match a with
    | .closed => ⟨.error .closed, s, []⟩
    | .failing _ => ⟨.ok [], s, []⟩
    | _ => ⟨.ok (dump s), s, []⟩

end Direct

end Markbook
