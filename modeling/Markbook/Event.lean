import Markbook.Model.Submission

namespace Markbook

inductive Level
  | error
  | warn
  | info
  | debug
  | trace
deriving DecidableEq, Repr

namespace Level

def name : Level → String
  | error => "ERROR"
  | warn => "WARN"
  | info => "INFO"
  | debug => "DEBUG"
  | trace => "TRACE"

def verbosity : Level → Nat
  | error => 1
  | warn => 2
  | info => 3
  | debug => 4
  | trace => 5

end Level

inductive Event
  | opening
  | ensuringTable (table : String)
  | opened (url : String)
  | ready (exercises : Nat)
  | closed (url : String)
  | storedUser (username : String) (id : Int)
  | rejectedLogin (username : String)
  | alreadyRegistered (exercise : Int)
  | registeredConcurrently (exercise : Int)
  | registered (exercise : Int) (questions : Nat)
  | loadedExercises (count : Nat)
  | noSubmission (ranking : Ranking) (username : String) (exercise : Int)
  | regraded (submission : Int) (replaced : Nat)
  | storedSubmission (submission : Int) (username : String) (exercise : Int)
deriving DecidableEq, Repr

namespace Event

def level : Event → Level
  | alreadyRegistered _ | registeredConcurrently _ => .warn
  | ensuringTable _ | rejectedLogin _ | loadedExercises _ | noSubmission .. => .debug
  | _ => .info

def target : Event → String
  | ensuringTable _ => "gradebook::db::schema"
  | opened _ | closed _ => "gradebook::gradebook"
  | _ => "gradebook"

def message : Event → String
  | opening => "Opening gradebook..."
  | ensuringTable table => s!"Ensuring table {table} exists"
  | opened url => s!"Opened gradebook at {url}"
  | ready exercises => s!"Gradebook ready with {exercises} exercises"
  | closed url => s!"Closed gradebook at {url}"
  | storedUser username id => s!"Stored user {username} with id {id}"
  | rejectedLogin username => s!"Rejected login for {username}"
  | alreadyRegistered exercise => s!"Exercise {exercise} is already registered"
  | registeredConcurrently exercise => s!"Exercise {exercise} was registered concurrently"
  | registered exercise questions => s!"Registered exercise {exercise} with {questions} questions"
  | loadedExercises count => s!"Loaded {count} exercises"
  | noSubmission ranking username exercise =>
    "No " ++ ranking.name ++ s!" submission of {username} for exercise {exercise}"
  | regraded submission replaced =>
    s!"Regraded submission {submission} ({replaced} grades replaced)"
  | storedSubmission submission username exercise =>
    s!"Stored submission {submission} of {username} for exercise {exercise}"

/-- A character as a plain log shows it. Characters that steer a terminal are written out, line
ends and tabs are not. -/
def shown (c : Char) : List Char :=
  let n := c.toNat
  if n = 0x07 ∨ n = 0x08 ∨ n = 0x0C ∨ n = 0x1B ∨ n = 0x7F then
    "\\x".toList ++ (Nat.toDigits 16 (0x100 + n)).drop 1
  else if 0x80 ≤ n ∧ n < 0xA0 then "\\u\x7b".toList ++ Nat.toDigits 16 n ++ "\x7d".toList
  else [c]

def line (e : Event) : String :=
  e.level.name ++ " " ++ e.target ++ ": " ++ String.ofList (e.message.toList.flatMap shown)

end Event

end Markbook
