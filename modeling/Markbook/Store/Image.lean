import Markbook.Store.Basic
import Markbook.Text.Blank
import Markbook.Text.Percent

namespace Markbook.Store.Image

open Markbook.Text

def header : String := "markbook 1"

def nullMark : Char := 'n'

def hexText (x : Float) : List Char :=
  let ds := Nat.toDigits 16 x.toBits.toNat
  List.replicate (16 - ds.length) '0' ++ ds

def ofCell : Cell → List Char
  | .null => [nullMark]
  | .int n => 'i' :: (toString n).toList
  | .real x => 'r' :: hexText x
  | .text s => 't' :: Percent.encode s.toList

def readText (cs : List Char) : Option String :=
  match Utf8.decode (Percent.decode (Utf8.encode cs)) with
  | .ok cs => some (String.ofList cs)
  | .error _ => none

def readInt (cs : List Char) : Option Int :=
  match readNumeral cs with
  | some n => if n.whole && n.plain then some n.toInt else none
  | none => none

def readHex (cs : List Char) : Option Nat :=
  cs.foldlM (fun n c => (Percent.hexValue (UInt8.ofNat c.toNat)).map fun d => 16 * n + d.toNat) 0

def readCell : List Char → Option Cell
  | 'i' :: cs => (readInt cs).map .int
  | 'r' :: cs => (readHex cs).map fun n => .real (Float.ofBits (UInt64.ofNat n))
  | 't' :: cs => (readText cs).map .text
  | [c] => if c = nullMark then some .null else none
  | _ => none

def join (words : List (List Char)) : String :=
  String.ofList ([' '].intercalate words)

def changes : List Change := [.insert, .update, .delete]

section

variable {ρ : Type}

def guardWords (g : Guard ρ) : List (List Char) :=
  "guard".toList :: g.change.name.toList :: Percent.encode g.reason.toList ::
    match g.only with
    | none => []
    | some (c, value) => [c.name.toList, ofCell value]

def rowWords (σ : Schema ρ) (r : ρ) : List (List Char) :=
  "row".toList :: σ.columns.map fun c => ofCell (c.cell r)

def tableLines (σ : Schema ρ) (x : Table ρ) : List String :=
  join ["table".toList, σ.name.toList] ::
    x.indexes.map (fun c => join ["index".toList, c.name.toList]) ++
    x.guards.map (join ∘ guardWords) ++ x.rows.map (join ∘ rowWords σ)

def readRow (σ : Schema ρ) (cells : List Cell) : Option ρ :=
  if cells.length = σ.columns.length then
    (σ.columns.zip cells).foldlM (fun r (c, value) => c.put value r) σ.blank
  else none

def readGuard (σ : Schema ρ) : List (List Char) → Option (Guard ρ)
  | change :: reason :: only => do
    let change ← changes.find? (·.name.toList == change)
    let reason ← readText reason
    match only with
    | [] => return ⟨change, reason, none⟩
    | [name, value] =>
      let column ← σ.column? (String.ofList name)
      return ⟨change, reason, some (column, ← readCell value)⟩
    | _ => none
  | _ => none

def readTableLine (σ : Schema ρ) (x : Table ρ) : List (List Char) → Option (Table ρ)
  | word :: words =>
    if word = "row".toList then do
      return { x with rows := x.rows ++ [← readRow σ (← words.mapM readCell)] }
    else if word = "index".toList then do
      let name ← words.head?
      return { x with indexes := x.indexes ++ [← σ.column? (String.ofList name)] }
    else if word = "guard".toList then do
      return { x with guards := x.guards ++ [← readGuard σ words] }
    else none
  | [] => none

end

def write (s : Store) : String :=
  let tables := Relation.all.flatMap fun t =>
    match s.table t with
    | some x => tableLines t.schema x
    | none => []
  String.join ((header :: tables).map (· ++ "\n"))

/-- A store as far as it is read, and the table that was begun last. -/
abbrev Progress := Store × Option Relation

def beginTable (p : Progress) (name : String) : Option Progress := do
  let t ← Relation.ofName? name
  return (p.1.setTable t (some .empty), some t)

def continueTable (p : Progress) (words : List (List Char)) : Option Progress := do
  let t ← p.2
  let x ← p.1.table t
  let x' ← readTableLine t.schema x words
  return (p.1.setTable t (some x'), p.2)

def readLine (p : Progress) (line : List Char) : Option Progress :=
  match splitAll ' ' line with
  | [word, name] =>
    if word = "table".toList then beginTable p (String.ofList name)
    else continueTable p [word, name]
  | words => continueTable p words

def read? (text : String) : Option Store :=
  match splitAll '\n' text.toList with
  | first :: lines =>
    if first = header.toList then
      ((lines.filter (!·.isEmpty)).foldlM readLine (.bare, none)).map (·.1)
    else none
  | [] => none

end Markbook.Store.Image
