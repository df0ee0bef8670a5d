import Markbook.Fault
import Markbook.Text.Percent

namespace Markbook

open Text

inductive Target
  | file (name : String)
  | memory
deriving DecidableEq, Repr

/-- What a text says about a store. The `layer` is the way to keep files, if one is asked for. -/
structure Location where
  target : Target
  inMemory : Bool := false
  readOnly : Bool := false
  createIfMissing : Bool := true
  sharedCache : Bool := false
  immutable : Bool := false
  layer : Option String := none
deriving DecidableEq, Repr

namespace Location

def dropOnce (head cs : List Char) : List Char :=
  if head.isPrefixOf cs then cs.drop head.length else cs

/-- Removes `head` from the start as often as it stands there, `fuel` times at most. -/
def dropRepeated (head : List Char) : Nat → List Char → List Char
  | 0, cs => cs
  | fuel + 1, cs =>
    if head.isPrefixOf cs then dropRepeated head fuel (cs.drop head.length) else cs

def splitUrl (cs : List Char) : List Char × Option (List Char) :=
  let cs := dropRepeated "sqlite://".toList cs.length cs
  splitFirst '?' (dropRepeated "sqlite:".toList cs.length cs)

def ofName (cs : List Char) : Except LocationError Location :=
  if cs = ":memory:".toList then
    .ok { target := .memory, inMemory := true, sharedCache := true }
  else
    match Utf8.decode (Percent.decode (Utf8.encode cs)) with
    | .ok name => .ok { target := .file (String.ofList name) }
    | .error e => .error (.notUtf8 e)

def setParameter (l : Location) (key value : String) : Except LocationError Location :=
  if key = "mode" then
    if value = "ro" then .ok { l with readOnly := true }
    else if value = "rw" ∨ value = "rwc" then .ok l
    else if value = "memory" then .ok { l with inMemory := true, sharedCache := true }
    else .error (.unknownValue value key)
  else if key = "cache" then
    if value = "private" then .ok { l with sharedCache := false }
    else if value = "shared" then .ok { l with sharedCache := true }
    else .error (.unknownValue value key)
  else if key = "immutable" then
    if value = "true" ∨ value = "1" then .ok { l with immutable := true }
    else if value = "false" ∨ value = "0" then .ok { l with immutable := false }
    else .error (.unknownValue value key)
  else if key = "vfs" then .ok { l with layer := some value }
  else .error (.unknownParameter key)

def ofUrl (cs : List Char) : Except LocationError Location := do
  let (name, parameters) := splitUrl cs
  (Percent.parameters (parameters.getD [])).foldlM
    (fun l (key, value) => l.setParameter key value) (← ofName name)

def ofText (text : String) : Except LocationError Location :=
  let cs := dropOnce "jdbc:".toList text.toList
  if "sqlite:".toList.isPrefixOf cs then ofUrl cs
  else .ok { target := .file (String.ofList cs) }

end Location

end Markbook
