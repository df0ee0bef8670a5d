namespace Markbook

inductive Document
  | null
  | bool (b : Bool)
  | int (n : Int)
  | real (x : Float)
  | text (s : String)
  | list (items : List Document)
  | object (fields : List (String × Document))

namespace Document

/-- The value of a field; of several fields of one name the last counts. -/
def field? (fields : List (String × Document)) (name : String) : Option Document :=
  fields.reverse.lookup name

/-- The values of the named fields, in order: by name from an object, where other fields are
ignored, or from a list of just these values. -/
def fields? (names : List String) : Document → Option (List Document)
  | object fields => names.mapM (field? fields)
  | list items => if items.length = names.length then some items else none
  | _ => none

def int? : Document → Option Int
  | int n => some n
  | _ => none

def text? : Document → Option String
  | text s => some s
  | _ => none

def real? : Document → Option Float
  | real x => some x
  | int n => some (Float.ofInt n)
  | _ => none

def list? : Document → Option (List Document)
  | list items => some items
  | _ => none

end Document

end Markbook
