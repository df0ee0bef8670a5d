import Markbook.Location
import Markbook.Text.Decimal

namespace Markbook

open Text

/-- What may be done with a file: from left to right, more. -/
inductive Right
  | none
  | read
  | write
  | create
deriving DecidableEq, Repr

def Right.rank : Right → Nat
  | none => 0
  | read => 1
  | write => 2
  | create => 3

structure OpenMode where
  right : Right
  memory : Bool
  shared : Bool
  layer : String
deriving DecidableEq, Repr

def fileLayers : List String := ["unix", "unix-none", "unix-dotfile", "unix-excl"]

def defaultLayer : String := "unix"

def memoryLayer : String := "memdb"

namespace OpenMode

def access? (value : String) : Option (Right × Bool) :=
  if value = "ro" then some (.read, false)
  else if value = "rw" then some (.write, false)
  else if value = "rwc" then some (.create, false)
  else if value = "memory" then some (.none, true)
  else none

/-- A mode may take rights away. It may give rights only to what is in memory. -/
def setAccess (m : OpenMode) (value : String) : Except StoreError OpenMode :=
  match access? value with
  | none => .error (.noSuchMode "access" value)
  | some (right, memory) =>
    if m.memory ∨ right.rank ≤ m.right.rank then .ok { m with right, memory }
    else .error (.modeNotAllowed "access" value)

def setCache (m : OpenMode) (value : String) : Except StoreError OpenMode :=
  if value = "shared" then .ok { m with shared := true }
  else if value = "private" then .ok { m with shared := false }
  else .error (.noSuchMode "cache" value)

def setParameter (m : OpenMode) (key value : String) : Except StoreError OpenMode :=
  if key = "vfs" then .ok { m with layer := value }
  else if key = "cache" then m.setCache value
  else if key = "mode" then m.setAccess value
  else .ok m

def ofLocation (l : Location) : OpenMode where
  right := if l.readOnly then .read else if l.createIfMissing then .create else .write
  memory := l.inMemory
  shared := l.sharedCache
  layer := defaultLayer

end OpenMode

/-- A name, and the parameters that came with it if it was a URI. -/
structure FileName where
  path : String
  isUri : Bool := false
  parameters : List (String × String) := []
deriving DecidableEq, Repr

namespace FileName

def scheme : List Char := "file:".toList

def beforeNul (cs : List Char) : List Char :=
  cs.takeWhile (·.toNat ≠ 0)

def plain (cs : List Char) : String :=
  String.ofList (beforeNul (Utf8.decodeLossy (Percent.decode (Utf8.encode cs))))

/-- Removes the authority, which has to be this machine. -/
def dropAuthority : List Char → Except StoreError (List Char)
  | '/' :: '/' :: cs =>
    let authority := cs.takeWhile (· ≠ '/')
    if authority.isEmpty ∨ authority = "localhost".toList then .ok (cs.dropWhile (· ≠ '/'))
    else .error (.badAuthority (String.ofList authority))
  | cs => .ok cs

def readParameter (piece : List Char) : Option (String × String) :=
  let (key, value) := splitFirst '=' piece
  if plain key = "" then none else some (plain key, plain (value.getD []))

def ofUri (cs : List Char) : Except StoreError FileName := do
  let (path, query) := splitFirst '?' ((← dropAuthority cs).takeWhile (· ≠ '#'))
  return {
    path := plain path
    isUri := true
    parameters := (splitAll '&' (query.getD [])).filterMap readParameter }

def ofName (name : String) : Except StoreError FileName :=
  let cs := name.toList
  if cs.any (·.toNat = 0) then .error .nulInName
  else if scheme.isPrefixOf cs then ofUri (cs.drop scheme.length)
  else .ok { path := name }

/-- Names the file of a location, which has no name if it is a place in memory. What a location says
beyond its mode is said by parameters. -/
def ofLocation (l : Location) : Except StoreError FileName :=
  let name := match l.target with
    | .file name => name
    | .memory => ""
  let immutable := if l.immutable then [("immutable", "true")] else []
  let layer := l.layer.toList.map fun layer =>
    let cs := layer.toList.map fun c => if c = ' ' then '+' else c
    ("vfs", String.ofList (beforeNul cs))
  match immutable ++ layer with
  | [] => ofName name
  | parameters => .ok { path := String.ofList (beforeNul name.toList), isUri := true, parameters }

def parameter? (f : FileName) (key : String) : Option String :=
  f.parameters.lookup key

def openMode (f : FileName) (m : OpenMode) : Except StoreError OpenMode := do
  let m ← f.parameters.foldlM (fun m (key, value) => m.setParameter key value) m
  if fileLayers.contains m.layer ∨ m.layer = memoryLayer then return m
  else .error (.noSuchLayer m.layer)

def smallNumber (base : Nat) (digits : List Nat) : Nat :=
  let n := digits.foldl (fun n d => base * n + d) 0
  if n < Nat.pow 2 31 then n else 0

def leadingHexDigits (cs : List Char) : List Nat :=
  (((Utf8.encode cs).map Percent.hexValue).takeWhile (·.isSome)).map (·.elim 0 (·.toNat))

def leadingNumber (cs : List Char) : Nat :=
  let decimal := smallNumber 10 ((cs.takeWhile Char.isDigit).map digitValue)
  match cs with
  | '0' :: x :: rest =>
    let digits := leadingHexDigits rest
    if x.toLower = 'x' ∧ digits ≠ [] then smallNumber 16 digits else decimal
  | _ => decimal

/-- Whether a text says yes: by a word, or by a number whose last byte is not 0. -/
def isYes (value : String) : Bool :=
  if value.toList.head?.any Char.isDigit then leadingNumber value.toList % 256 != 0
  else ["on", "yes", "true"].contains (String.ofList (value.toList.map Char.toLower))

def isVolatile (f : FileName) (mode : OpenMode) : Bool :=
  mode.memory || f.path = ":memory:" || f.path = ""

def isImmutable (f : FileName) : Bool :=
  (f.parameter? "immutable").any isYes

end FileName

end Markbook
