import Markbook.Event
import Markbook.Store.Basic

namespace Markbook

open Store

/-- What a connection allows: everything, reading only, nothing for a reason, or nothing because it
is closed. -/
inductive Access
  | readWrite
  | readOnly (refusal : StoreError)
  | failing (cause : StoreError)
  | closed
deriving DecidableEq, Repr

namespace Access

def fault? : Access → Option Fault
  | failing cause => some (.database cause)
  | closed => some .closed
  | _ => none

def refusal? : Access → Option StoreError
  | readOnly refusal => some refusal
  | _ => none

end Access

structure Outcome (α : Type) where
  result : Except Fault α
  store : Store
  log : List Event

def Work (α : Type) : Type :=
  Access → Store → Outcome α

namespace Work

variable {α β : Type}

def done (x : α) : Work α :=
  fun _ s => ⟨.ok x, s, []⟩

def fail (e : Fault) : Work α :=
  fun _ s => ⟨.error e, s, []⟩

def andThen (w : Work α) (f : α → Work β) : Work β :=
  fun a s =>
    match w a s with
    | ⟨.ok x, s', log⟩ =>
      let o := f x a s'
      ⟨o.result, o.store, log ++ o.log⟩
    | ⟨.error e, s', log⟩ => ⟨.error e, s', log⟩

instance : Monad Work where
  pure := done
  bind := andThen

def ofExcept : Except Fault α → Work α
  | .ok x => done x
  | .error e => fail e

def report (e : Event) : Work Unit :=
  fun _ s => ⟨.ok (), s, [e]⟩

def connected : Work Unit :=
  fun a s => if a = .closed then ⟨.error .closed, s, []⟩ else ⟨.ok (), s, []⟩

def read (f : Store → Except StoreError α) : Work α :=
  fun a s =>
    match a.fault? with
    | some e => ⟨.error e, s, []⟩
    | none => ⟨(f s).mapError Fault.ofStore, s, []⟩

/-- A statement that changes one table. A missing table is noticed before a write is refused. -/
def write (t : Relation) (f : Table t.Row → Except StoreError (α × Table t.Row)) : Work α :=
  fun a s =>
    match a.fault?, s.table t, a.refusal? with
    | some e, _, _ => ⟨.error e, s, []⟩
    | none, none, _ => ⟨.error (.database (.noSuchTable t.name)), s, []⟩
    | none, some _, some refusal => ⟨.error (.database refusal), s, []⟩
    | none, some x, none =>
      match f x with
      | .ok (y, x') => ⟨.ok y, s.setTable t (some x'), []⟩
      | .error e => ⟨.error (.ofStore e), s, []⟩

def create (t : Relation) : Work Unit :=
  fun a s =>
    match a.fault?, s.table t, a.refusal? with
    | some e, _, _ => ⟨.error e, s, []⟩
    | none, some _, _ => ⟨.ok (), s, []⟩
    | none, none, some refusal => ⟨.error (.database refusal), s, []⟩
    | none, none, none => ⟨.ok (), s.setTable t (some .empty), []⟩

def drop (t : Relation) : Work Unit :=
  fun a s =>
    match a.fault?, s.table t, a.refusal? with
    | some e, _, _ => ⟨.error e, s, []⟩
    | none, none, _ => ⟨.error (.database (.noSuchTable t.name)), s, []⟩
    | none, some _, some refusal => ⟨.error (.database refusal), s, []⟩
    | none, some _, none => ⟨.ok (), s.setTable t none, []⟩

def attempt (w : Work α) : Work (Except Fault α) :=
  fun a s =>
    let o := w a s
    ⟨.ok o.result, o.store, o.log⟩

def mapFault (f : Fault → Fault) (w : Work α) : Work α :=
  fun a s =>
    let o := w a s
    { o with result := o.result.mapError f }

def undone (w : Work α) : Work α :=
  fun a s => { w a s with store := s }

/-- Failed work leaves the store as it was. -/
def atomically (w : Work α) : Work α :=
  fun a s =>
    let o := w a s
    match o.result with
    | .ok _ => o
    | .error _ => { o with store := s }

def transaction (w : Work α) : Work α := do
  connected
  atomically w

end Work

end Markbook
