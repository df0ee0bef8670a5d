import Markbook.Settings
import Markbook.Text.Letter

namespace Markbook.EnvFile

open Text

/-- Where a line stands with respect to quotes and escapes. -/
inductive Scan
  | complete
  | white
  | escape
  | weak
  | weakEscape
  | strong
  | strongEscape
deriving DecidableEq, Repr

def Scan.enter (c : Char) : Scan :=
  if c = '\\' then .escape
  else if c = '"' then .weak
  else if c = '\'' then .strong
  else .complete

/-- The next state, or nothing where a comment begins. -/
def Scan.next (c : Char) : Scan → Option Scan
  | complete => if isBlank c && c != '\n' && c != '\r' then some .white else some (enter c)
  | white => if c = '#' then none else some (enter c)
  | escape => some .complete
  | weak => some (if c = '\\' then .weakEscape else if c = '"' then .complete else .weak)
  | weakEscape => some .weak
  | strong => some (if c = '\\' then .strongEscape else if c = '\'' then .complete else .strong)
  | strongEscape => some .strong

def scanLine : Scan → List Char → List Char × Option Scan
  | st, [] => ([], some st)
  | st, c :: cs =>
    match st.next c with
    | none => ([], none)
    | some st' =>
      let (kept, final) := scanLine st' cs
      (c :: kept, final)

def physicalLines (cs : List Char) : List (List Char) :=
  match splitAll '\n' cs with
  | [] => []
  | line :: lines => close line lines
where
  close : List Char → List (List Char) → List (List Char)
    | line, [] => if line.isEmpty then [] else [line]
    | line, next :: lines => (line ++ ['\n']) :: close next lines

def dropLineEnd (cs : List Char) : List Char :=
  match cs.reverse with
  | '\n' :: '\r' :: rest => rest.reverse
  | '\n' :: rest => rest.reverse
  | _ => cs

/-- Joins lines while a quote or an escape is open; nothing stands for a text that ends there. -/
def logicalLines : Scan → List Char → List (List Char) → List (Option (List Char))
  | st, _, [] => if st = .complete then [] else [none]
  | st, soFar, line :: lines =>
    if (trimStart (soFar ++ line)).head? = some '#' then some [] :: logicalLines .complete [] lines
    else
      match scanLine st line with
      | (kept, none) => some (soFar ++ kept) :: logicalLines .complete [] lines
      | (_, some .complete) =>
        some (dropLineEnd (soFar ++ line)) :: logicalLines .complete [] lines
      | (_, some st') => logicalLines st' (soFar ++ line) lines

def isKeyStart (c : Char) : Bool :=
  c.isAlpha || c = '_'

def isKeyChar (c : Char) : Bool :=
  c.isAlphanum || c = '_' || c = '.'

def readKey (cs : List Char) : Option (String × List Char) :=
  if (cs.head?.map isKeyStart).getD false then
    some (String.ofList (cs.takeWhile isKeyChar), cs.dropWhile isKeyChar)
  else none

def readEquals : List Char → Option (List Char)
  | '=' :: cs => some cs
  | _ => none

def readAssignment (cs : List Char) : Option (String × List Char) := do
  let (key, cs) ← readKey cs
  let cs := trimStart cs
  match readEquals cs with
  | some value => return (key, value)
  | none =>
    if key = "export" then
      let (key, cs) ← readKey cs
      return (key, ← readEquals (trimStart cs))
    else none

structure Reference where
  braced : Bool
  name : List Char

structure ValueState where
  weak : Bool := false
  strong : Bool := false
  escaped : Bool := false
  ending : Bool := false
  reference : Option Reference := none
  output : List Char := []

namespace ValueState

def emit (st : ValueState) (c : Char) : ValueState :=
  { st with output := st.output ++ [c] }

def resolve (lookup : String → String) (st : ValueState) (r : Reference) : ValueState :=
  { st with output := st.output ++ (lookup (String.ofList r.name)).toList, reference := none }

def escape (st : ValueState) (c : Char) : Option ValueState :=
  let st := { st with escaped := false }
  if c = '\\' ∨ c = '\'' ∨ c = '"' ∨ c = '$' ∨ c = ' ' then some (st.emit c)
  else if c = 'n' then some (st.emit '\n')
  else none

def refer (lookup : String → String) (st : ValueState) (r : Reference) (c : Char) : ValueState :=
  let extended := { st with reference := some { r with name := r.name ++ [c] } }
  if isAlphanumeric c then extended
  else if r.braced then
    if c = '\x7d' then st.resolve lookup r else extended
  else if c = '\x7b' && r.name.isEmpty then { st with reference := some { r with braced := true } }
  else
    let st := st.resolve lookup r
    if c = '$' then { st with reference := some ⟨false, []⟩ } else st.emit c

def next (lookup : String → String) (st : ValueState) (c : Char) : Option ValueState :=
  if st.escaped then st.escape c
  else if st.strong then
    some (if c = '\'' then { st with strong := false } else st.emit c)
  else
    match st.reference with
    | some r => some (st.refer lookup r c)
    | none =>
      some <|
        if c = '$' then { st with reference := some ⟨false, []⟩ }
        else if c = '\\' then { st with escaped := true }
        else if c = '"' then { st with weak := !st.weak }
        else if st.weak then st.emit c
        else if c = '\'' then { st with strong := true }
        else if c = ' ' ∨ c = '\t' then { st with ending := true }
        else st.emit c

def finish (lookup : String → String) (st : ValueState) : Option (List Char) :=
  if st.weak || st.strong then none
  else
    match st.reference with
    | none => some st.output
    | some r => if r.braced then none else some (st.resolve lookup r).output

end ValueState

/-- After the blank that ends a value only blanks and a comment may follow. -/
def readValue (lookup : String → String) : ValueState → List Char → Option (List Char)
  | st, [] => st.finish lookup
  | st, c :: cs =>
    if st.ending then
      if c = ' ' ∨ c = '\t' then readValue lookup st cs
      else if c = '#' then st.finish lookup
      else none
    else
      match st.next lookup c with
      | some st' => readValue lookup st' cs
      | none => none

/-- What reading has come to: the variables, and the values of the lines so far. -/
structure Progress where
  env : Environment
  seen : List (String × String)

def Progress.lookup (p : Progress) (name : String) : String :=
  (p.env.get? name).getD ((p.seen.lookup name).getD "")

def Progress.assign (p : Progress) (key value : String) : Except Panic Progress := do
  return ⟨← p.env.setIfUnset key value, (key, value) :: p.seen⟩

def startsComment (cs : List Char) : Bool :=
  cs.isEmpty || cs.head? == some '#'

/-- The key and the value that a line gives, if it gives any; nothing for a line in error. -/
def readLine (lookup : String → String) (line : List Char) : Option (Option (String × String)) := do
  let cs := trimStart (trimEnd line)
  if startsComment cs then return none
  let (key, rest) ← readAssignment cs
  let rest := trimStart rest
  if startsComment rest then return some (key, "")
  let value ← readValue lookup {} rest
  return some (key, String.ofList value)

def readLines : Progress → List (Option (List Char)) → Except Panic Progress
  | p, some line :: lines =>
    match readLine p.lookup line with
    | some (some (key, value)) => do readLines (← p.assign key value) lines
    | some none => readLines p lines
    | none => .ok p
  | p, _ => .ok p

def dropByteOrderMark : List Char → List Char
  | c :: cs => if c.toNat = 0xFEFF then cs else c :: cs
  | [] => []

def linesOf (text : String) : List (Option (List Char)) :=
  logicalLines .complete [] (physicalLines (dropByteOrderMark text.toList))

def load (text : String) (env : Environment) : Except Panic Environment := do
  let p ← readLines ⟨env, []⟩ (linesOf text)
  return p.env

end Markbook.EnvFile
