import Markbook.Event
import Markbook.Text.Blank
import Markbook.Text.Decimal
import Markbook.Text.Letter
import Markbook.Text.Utf8
import Markbook.Word

namespace Markbook

open Text

/-- Lets events pass up to a verbosity, where 0 lets none pass. -/
structure Directive where
  target : Option String := none
  inSpan : Bool := false
  fields : List String := []
  verbosity : Nat := 5
deriving DecidableEq, Repr

inductive DirectiveError
  | form
  | level
deriving DecidableEq, Repr

def DirectiveError.message : DirectiveError → String
  | form => "invalid filter directive"
  | level =>
    "error parsing level filter: expected one of \"off\", \"error\", \"warn\", \"info\", " ++
      "\"debug\", \"trace\", or a number 0-5"

namespace Directive

def levelNames : List (String × Nat) :=
  [("off", 0), ("error", 1), ("warn", 2), ("info", 3), ("debug", 4), ("trace", 5)]

def verbosity? (text : String) : Option Nat :=
  match readBelow uint64Bound text.toList with
  | some n => if n ≤ 5 then some n else none
  | none => levelNames.lookup (String.ofList (text.toList.map Char.toLower))

inductive Part
  | none
  | word (start : Nat)
  | span (start : Nat)
  | field (start : Nat)
  | fieldEnd
  | spanEnd
  | level (start : Nat)

def opensWord (c : Char) : Bool :=
  c = '-' || c = ':' || c = '_' || isAlphanumeric c

/-- Reads the character `c` at the place `i`; `slice` gives the text between two places. -/
def readChar (slice : Nat → Nat → String) (i : Nat) (c : Char) (part : Part) (d : Directive) :
    Except DirectiveError (Part × Directive) :=
  match part with
  | .none =>
    if c = '[' then .ok (.span (i + 1), d)
    else if opensWord c then .ok (.word i, d)
    else .error .form
  | .word start =>
    if c = '=' then .ok (.level (i + 1), { d with target := some (slice start i) })
    else if c = '[' then .ok (.span (i + 1), { d with target := some (slice start i) })
    else .ok (.word start, d)
  | .span start =>
    if c = ']' then .ok (.spanEnd, { d with inSpan := true })
    else if c = '\x7b' then .ok (.field (i + 1), { d with inSpan := slice start i ≠ "" })
    else .ok (.span start, d)
  | .field start =>
    if c = '\x7d' then
      if slice start i = "" then .error .form
      else .ok (.fieldEnd, { d with fields := d.fields ++ [slice start i] })
    else .ok (.field start, d)
  | .fieldEnd => if c = ']' then .ok (.spanEnd, d) else .error .form
  | .spanEnd => if c = '=' then .ok (.level (i + 1), d) else .error .form
  | .level start => .ok (.level start, d)

def readChars (slice : Nat → Nat → String) :
    Nat → List Char → Part → Directive → Except DirectiveError (Part × Directive)
  | _, [], part, d => .ok (part, d)
  | i, c :: cs, part, d => do
    let (part, d) ← readChar slice i c part d
    readChars slice (i + (Utf8.encodeChar c).length) cs part d

/-- The directive at the end of a text: a word alone is a level, or else a target that lets
everything pass. -/
def finish (rest : Nat → String) : Part → Directive → Except DirectiveError Directive
  | .word start, d =>
    match verbosity? (rest start) with
    | some n => .ok { d with verbosity := n }
    | none => .ok { d with target := some (rest start) }
  | .level start, d =>
    if rest start = "" then .ok d
    else
      match verbosity? (rest start) with
      | some n => .ok { d with verbosity := n }
      | none => .error .level
  | .spanEnd, d => .ok d
  | _, _ => .error .form

/-- Reads a directive. Blanks around it are not looked at, but places are counted without the blanks
before it and taken with them. -/
def ofText (cs : List Char) : Except DirectiveError Directive := do
  let bytes := Utf8.encode cs
  let slice (start stop : Nat) : String :=
    String.ofList (Utf8.decodeLossy ((bytes.drop start).take (stop - start)))
  let (part, d) ← readChars slice 0 (trim cs) .none {}
  finish (slice · bytes.length) part d

def isPlain (d : Directive) : Bool :=
  !d.inSpan && d.fields.all fun f => !f.toList.contains '='

def concerns (d : Directive) (target : String) : Bool :=
  d.isPlain && (d.target.map fun t => t.toList.isPrefixOf target.toList).getD true &&
    d.fields.all (· == "message")

/-- How closely a directive describes what it is about: by its target first, and then by fields. -/
def weight (d : Directive) : Nat × Nat :=
  ((d.target.map (·.utf8ByteSize + 1)).getD 0, d.fields.length)

end Directive

abbrev LogFilter := List Directive

namespace LogFilter

def pieces (text : String) : List (String × Except DirectiveError Directive) :=
  ((splitAll ',' text.toList).filter (!·.isEmpty)).map fun cs =>
    (String.ofList cs, Directive.ofText cs)

/-- A filter without directives lets errors pass. -/
def ofText (text : String) : LogFilter :=
  let directives := (pieces text).filterMap fun (_, d) =>
    match d with
    | .ok d => some d
    | .error _ => none
  if directives.isEmpty then [{ verbosity := 1 }] else directives

def complaints (text : String) : List String :=
  (pieces text).filterMap fun (piece, d) =>
    match d with
    | .ok _ => none
    | .error e => some ("ignoring `" ++ piece ++ "`: " ++ e.message)

/-- The directive with the greatest weight decides, and of several the last. -/
def deciding? (filter : LogFilter) (target : String) : Option Directive :=
  (filter.filter (·.concerns target)).foldl
    (fun best d =>
      match best with
      | some b =>
        if b.weight.1 < d.weight.1 ∨ b.weight.1 = d.weight.1 ∧ b.weight.2 ≤ d.weight.2 then some d
        else some b
      | none => some d)
    none

def admits (filter : LogFilter) (e : Event) : Bool :=
  match filter.deciding? e.target with
  | some d => e.level.verbosity ≤ d.verbosity
  | none => false

end LogFilter

end Markbook
