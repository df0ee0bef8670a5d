import Markbook.Connection
import Markbook.EnvFile
import Markbook.LogFilter

namespace Markbook

structure Run where
  log : List Event := []
  json : Bool := false
  ignored : List String := []
  failure : Option String := none

namespace Run

def exitCode (r : Run) : Nat :=
  if r.failure.isSome then 1 else 0

def complaint (r : Run) : String :=
  let failure := r.failure.toList.map ("Error: " ++ ·)
  String.join ((r.ignored ++ failure).map (· ++ "\n"))

end Run

namespace Provision

def envFileName : String := ".env"

def environment (env : Environment) (d : Directory) : Except Panic Environment :=
  match d.find? (Path.ofName envFileName) with
  | some (.text content) => EnvFile.load content env
  | _ => .ok env

def settings (env : Environment) (d : Directory) : Except Panic (Except InvalidSetting Settings) :=
  (environment env d).map Settings.ofEnvironment

/-- The paths of the files that a run can need beside the env file. -/
def paths (env : Environment) (d : Directory) : List Path :=
  match settings env d with
  | .error _ | .ok (.error _) => []
  | .ok (.ok settings) =>
    match Location.ofText settings.store.url with
    | .error _ => []
    | .ok l =>
      match FileName.ofLocation l with
      | .error _ => []
      | .ok f =>
        let p := Path.ofName f.path
        let model := (f.parameter? "modeof").toList.map Path.ofName
        p :: [journalEnding, logEnding, logIndexEnding].map p.beside ++ model

def visit (settings : StoreSettings) (d : Directory) : Except Fault Unit × List Event × Directory :=
  let o := Connection.establish settings { directory := d } []
  match o.result with
  | .error e => (.error e, .opening :: o.log, o.media.directory)
  | .ok c =>
    let r := c.perform o.media [.exercise] Book.catalogueSize
    let (_, media, closing) := r.connection.close r.media
    match r.result with
    | .error e => (.error e, .opening :: o.log ++ r.log, media.directory)
    | .ok n => (.ok (), .opening :: o.log ++ r.log ++ .ready n :: closing, media.directory)

def run (env : Environment) (d : Directory) : Except Panic (Run × Directory) := do
  match ← settings env d with
  | .error e => return ({ failure := some e.message }, d)
  | .ok settings =>
    let (result, log, d') := visit settings.store d
    let filter := LogFilter.ofText settings.log.filter
    let run : Run := {
      log := log.filter filter.admits
      json := settings.log.json
      ignored := LogFilter.complaints settings.log.filter
      failure := match result with
        | .ok () => none
        | .error e => some e.message }
    return (run, d')

end Provision

end Markbook
