import Markbook.Fault
import Markbook.Text.Blank
import Markbook.Text.Decimal
import Markbook.Word

namespace Markbook

open Text

/-- The variables that are set. One whose value is not UTF-8 has no text. -/
abbrev Environment := List (String × Option String)

/-- The end of a process that sets a variable to a value with a NUL in it. -/
structure Panic where
  name : String
  value : String
deriving DecidableEq, Repr

def holdsNul (s : String) : Bool :=
  s.toList.contains '\x00'

namespace Environment

/-- The value that a variable has for a name. A variable is known as the text `name=value`, so that
a name with an equals sign in it finds a part of the value of another variable. -/
def valueFor (name : String) (v : String × Option String) : Option (Option String) :=
  let head := name.toList ++ ['=']
  let entry := v.1.toList ++ '=' :: (v.2.getD "").toList
  if head.isPrefixOf entry then
    some (v.2.map fun _ => String.ofList (entry.drop head.length))
  else none

def get? (env : Environment) (name : String) : Option String :=
  if name = "" ∨ holdsNul name then none
  else (env.findSome? (valueFor name)).join

def set (env : Environment) (name value : String) : Except Panic Environment :=
  if holdsNul value then .error ⟨name, value⟩ else .ok ((name, some value) :: env)

def setIfUnset (env : Environment) (name value : String) : Except Panic Environment :=
  if (env.get? name).isSome then .ok env else env.set name value

end Environment

def defaultUrl : String := "sqlite://gradebook.db"

def defaultMaxConnections : Nat := 1

def defaultBusyTimeoutMs : Nat := 5000

def defaultLogFilter : String := "info"

structure StoreSettings where
  url : String
  maxConnections : Nat := defaultMaxConnections
  busyTimeoutMs : Nat := defaultBusyTimeoutMs
deriving DecidableEq, Repr

def StoreSettings.busyTimeout (s : StoreSettings) : Nat × Nat :=
  (s.busyTimeoutMs / 1000, s.busyTimeoutMs % 1000 * 1000000)

structure LogSettings where
  filter : String
  json : Bool
deriving DecidableEq, Repr

structure Settings where
  store : StoreSettings
  log : LogSettings
deriving DecidableEq, Repr

namespace Settings

def number (env : Environment) (name : String) (bound default : Nat) :
    Except InvalidSetting Nat :=
  match env.get? name with
  | none => .ok default
  | some raw =>
    match readBelow bound (trim raw.toList) with
    | some n => .ok n
    | none => .error ⟨name⟩

def jsonFormat? (raw : String) : Option Bool :=
  let format := String.ofList ((trim raw.toList).map Char.toLower)
  if format = "json" then some true
  else if format = "text" ∨ format = "pretty" ∨ format = "" then some false
  else none

def logFormat (env : Environment) (name : String) : Except InvalidSetting Bool :=
  match env.get? name with
  | none => .ok false
  | some raw =>
    match jsonFormat? raw with
    | some json => .ok json
    | none => .error ⟨name⟩

def ofEnvironment (env : Environment) : Except InvalidSetting Settings := do
  let maxConnections ← number env "DATABASE_MAX_CONNECTIONS" uint32Bound defaultMaxConnections
  let busyTimeoutMs ← number env "DATABASE_BUSY_TIMEOUT_MS" uint64Bound defaultBusyTimeoutMs
  let json ← logFormat env "LOG_FORMAT"
  return {
    store := {
      url := (env.get? "DATABASE_URL").getD defaultUrl
      maxConnections
      busyTimeoutMs }
    log := {
      filter := (env.get? "RUST_LOG").getD defaultLogFilter
      json } }

end Settings

end Markbook
