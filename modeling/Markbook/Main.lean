import Markbook.Provision
import Markbook.Store.Image
import Markbook.Time.Stamp
import Std.Time.DateTime.Timestamp

namespace Markbook.Main

open Text

def splitBytes (sep : UInt8) (bytes : List UInt8) : List (List UInt8) :=
  bytes.foldr
    (fun b pieces =>
      if b = sep then [] :: pieces
      else
        match pieces with
        | [] => [[b]]
        | piece :: pieces => (b :: piece) :: pieces)
    [[]]

def decodeText (bytes : List UInt8) : Option String :=
  match Utf8.decode bytes with
  | .ok cs => some (String.ofList cs)
  | .error _ => none

def readVariable (bytes : List UInt8) : Option (String × Option String) := do
  let name ← decodeText (bytes.takeWhile (· != 0x3D))
  return (name, decodeText ((bytes.dropWhile (· != 0x3D)).drop 1))

def processEnvironment : IO Environment := do
  let bytes ← IO.FS.readBinFile "/proc/self/environ"
  return (splitBytes 0 bytes.toList).filterMap readVariable

def nameOf (p : Path) : String :=
  "/".intercalate p

def isFolder (p : Path) : IO Bool := do
  try
    (← IO.FS.realPath (nameOf p)).isDir
  catch _ => return false

def content? (p : Path) : IO (Option String) := do
  try
    let bytes ← IO.FS.readBinFile (nameOf p)
    return some (String.ofList (Utf8.decodeLossy bytes.toList))
  catch _ => return none

def takeOver (d : Directory) (p : Path) : IO Directory := do
  let parent := p.dropLast
  let d := if !parent.isEmpty && (← isFolder parent) then d.put parent .folder else d
  if ← isFolder p then return d.put p .folder
  match ← content? p with
  | none => return d
  | some content =>
    match Store.Image.read? content with
    | some s => return d.put p (.store s)
    | none => return d.put p (.text content)

def fileText? (d : Directory) (p : Path) : Option String :=
  match d.find? p with
  | some (.store s) => some (Store.Image.write s)
  | some (.text content) => some content
  | some (.logIndex _) => some ""
  | _ => none

def giveBack (before after : Directory) (p : Path) : IO Unit := do
  match fileText? before p, fileText? after p with
  | old, some text => if old != some text then IO.FS.writeFile (nameOf p) text
  | some _, none => IO.FS.removeFile (nameOf p)
  | none, none => pure ()

def now : IO String := do
  let t ← Std.Time.Timestamp.now
  let duration := t.val
  match Time.Instant.of? duration.second.val duration.nano.val.toNat with
  | some t => return t.stamp
  | none => return ""

def jsonText (s : String) : String :=
  let escaped (c : Char) : String :=
    if c = '"' then "\\\"" else if c = '\\' then "\\\\"
    else if c.toNat < 32 then
      "\\u" ++ String.ofList ((Nat.toDigits 16 (0x10000 + c.toNat)).drop 1)
    else c.toString
  "\"" ++ String.join (s.toList.map escaped) ++ "\""

def logLine (json : Bool) (e : Event) : IO String := do
  let time ← now
  if json then
    return "\x7b\"timestamp\":" ++ jsonText time ++ ",\"level\":" ++ jsonText e.level.name ++
      ",\"fields\":\x7b\"message\":" ++ jsonText e.message ++ "\x7d,\"target\":" ++
      jsonText e.target ++ "\x7d"
  else
    let margin := String.ofList (List.replicate (6 - e.level.name.length) ' ')
    return time ++ margin ++ e.line

def provision : IO UInt32 := do
  let env ← processEnvironment
  let start ← takeOver .empty (Path.ofName Provision.envFileName)
  let paths := Provision.paths env start
  let before ← paths.foldlM takeOver start
  match Provision.run env before with
  | .error p =>
    IO.eprintln ("the value of " ++ p.name ++ " holds a NUL")
    return 101
  | .ok (run, after) =>
    for p in paths do
      giveBack before after p
    for e in run.log do
      IO.println (← logLine run.json e)
    (← IO.getStderr).putStr run.complaint
    return UInt32.ofNat run.exitCode

end Markbook.Main

def main : IO UInt32 :=
  Markbook.Main.provision
