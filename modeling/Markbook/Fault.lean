import Markbook.Text.Quoted
import Markbook.Text.Utf8

namespace Markbook

inductive Invalid
  | gradeCount (given : Nat) (exercise : Int) (expected : Nat)
  | username
  | stated (text : String)
deriving DecidableEq, Repr

def Invalid.message : Invalid → String
  | gradeCount given exercise expected =>
    s!"submission has {given} grades but exercise {exercise} has {expected} questions"
  | username => "username: shorter than one character"
  | stated text => text

/-- Which unique key a row would have held twice. -/
inductive Clash
  | key (table : String) (columns : List String)
  | stated (text : String)
deriving DecidableEq, Repr

def Clash.message : Clash → String
  | key table columns =>
    "UNIQUE constraint failed: " ++ ", ".intercalate (columns.map fun c => table ++ "." ++ c)
  | stated text => text

inductive Corruption
  | points (question exercise found : Int)
  | timestamp (ms : Int)
  | stated (text : String)
deriving DecidableEq, Repr

def Corruption.message : Corruption → String
  | points question exercise found =>
    s!"question {question} of exercise {exercise} has invalid points {found}"
  | timestamp ms => s!"timestamp {ms} is out of range"
  | stated text => text

inductive LocationError
  | notUtf8 (cause : Text.Utf8.Error)
  | unknownValue (value key : String)
  | unknownParameter (key : String)
deriving DecidableEq, Repr

def LocationError.message : LocationError → String
  | notUtf8 cause => cause.message
  | unknownValue value key => "unknown value " ++ Text.quoted value ++ " for `" ++ key ++ "`"
  | unknownParameter key =>
    "unknown query parameter `" ++ key ++ "` while parsing connection URL"

inductive Wanted
  | integer
  | grade
deriving DecidableEq, Repr

def Wanted.message : Wanted → String
  | integer => "Rust type `i64` (as SQL type `INTEGER`)"
  | grade => "Rust type `core::option::Option<f64>` (as SQL type `REAL`)"

inductive Found
  | integer
  | real
  | text
deriving DecidableEq, Repr

def Found.message : Found → String
  | integer => "INTEGER"
  | real => "REAL"
  | text => "TEXT"

inductive Change
  | insert
  | update
  | delete
deriving DecidableEq, Repr

def Change.name : Change → String
  | insert => "INSERT"
  | update => "UPDATE"
  | delete => "DELETE"

inductive Operation
  | read
  | inspect
  | remove
deriving DecidableEq, Repr

def Operation.code : Operation → Nat
  | read => 266
  | inspect => 1802
  | remove => 2570

inductive StoreError
  | noSuchTable (name : String)
  | noSuchColumn (table column : String)
  | noSuchGuard (table : String) (change : Change)
  | guardExists (table : String) (change : Change)
  | indexExists (table column : String)
  | badAuthority (authority : String)
  | noSuchMode (kind value : String)
  | modeNotAllowed (kind value : String)
  | noSuchLayer (name : String)
  | readOnly
  | readOnlyRollback
  | cannotOpen
  | inputOutput (operation : Operation)
  | notAStore
  | malformed
  | keyNotInteger
  | refused (reason : String)
  | taken (clash : Clash)
  | unreadable (column : String) (wanted : Wanted) (found : Found)
  | nulInName
  | badLocation (cause : LocationError)
  | timedOut
  | noRow
  | workerLost
  | badData (what : String)
  | noColumn (name : String)
  | stated (text : String)
deriving DecidableEq, Repr

def StoreError.message : StoreError → String
  | noSuchTable name => "(code: 1) no such table: " ++ name
  | noSuchColumn table column => "(code: 1) table " ++ table ++ " has no column named " ++ column
  | noSuchGuard table change => "(code: 1) no such trigger: reject_" ++ table ++ "_" ++ change.name
  | guardExists table change =>
    "(code: 1) trigger reject_" ++ table ++ "_" ++ change.name ++ " already exists"
  | indexExists table column =>
    "(code: 1) index ux_" ++ table ++ "_" ++ column ++ " already exists"
  | badAuthority authority => "(code: 1) invalid uri authority: " ++ authority
  | noSuchMode kind value => "(code: 1) no such " ++ kind ++ " mode: " ++ value
  | modeNotAllowed kind value => "(code: 3) " ++ kind ++ " mode not allowed: " ++ value
  | noSuchLayer name => "(code: 1) no such vfs: " ++ name
  | readOnly => "(code: 8) attempt to write a readonly database"
  | readOnlyRollback => "(code: 776) attempt to write a readonly database"
  | cannotOpen => "(code: 14) unable to open database file"
  | inputOutput operation => "(code: " ++ toString operation.code ++ ") disk I/O error"
  | notAStore => "(code: 26) file is not a database"
  | malformed => "(code: 11) database disk image is malformed"
  | keyNotInteger => "(code: 20) datatype mismatch"
  | refused reason => "(code: 1811) " ++ reason
  | taken clash => clash.message
  | unreadable column wanted found =>
    "error occurred while decoding column \"" ++ column ++ "\": mismatched types; " ++
      wanted.message ++ " is not compatible with SQL type `" ++ found.message ++ "`"
  | nulInName =>
    "error communicating with database: filename passed to SQLite must not contain nul bytes"
  | badLocation cause => "error with configuration: " ++ cause.message
  | timedOut => "pool timed out while waiting for an open connection"
  | noRow => "no rows returned by a query that expected to return at least one row"
  | workerLost => "attempted to communicate with a crashed background worker"
  | badData what => "encountered unexpected or invalid data: " ++ what
  | noColumn name => "no column found for name: " ++ name
  | stated text => text

structure InvalidSetting where
  name : String
deriving DecidableEq, Repr

def InvalidSetting.message (e : InvalidSetting) : String :=
  "Invalid value for environment variable: " ++ e.name

inductive Fault
  | invalid (cause : Invalid)
  | alreadyExists (clash : Clash)
  | database (cause : StoreError)
  | closed
  | corrupt (cause : Corruption)
  | configuration (cause : InvalidSetting)
deriving DecidableEq, Repr

namespace Fault

def message : Fault → String
  | invalid cause => "Validation error: " ++ cause.message
  | alreadyExists clash => "Already exists: " ++ clash.message
  | database cause => "Database error: " ++ cause.message
  | closed => "Store is closed"
  | corrupt cause => "Corrupt record: " ++ cause.message
  | configuration cause => "Configuration error: " ++ cause.message

/-- A taken key is told apart from all other reasons of the store. -/
def ofStore : StoreError → Fault
  | .taken clash => alreadyExists clash
  | cause => database cause

end Fault

end Markbook
