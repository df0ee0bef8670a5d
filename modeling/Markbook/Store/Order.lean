namespace Markbook.Store

variable {α : Type}

def insertBefore (le : α → α → Bool) (x : α) : List α → List α
  | [] => [x]
  | y :: ys => if le x y then x :: y :: ys else y :: insertBefore le x ys

/-- The elements in ascending order; those that tie keep their order. -/
def arrange (le : α → α → Bool) : List α → List α
  | [] => []
  | x :: xs => insertBefore le x (arrange le xs)

/-- The greatest element; of those that tie, the last. -/
def greatest? (le : α → α → Bool) : List α → Option α
  | [] => none
  | x :: xs =>
    match greatest? le xs with
    | none => some x
    | some y => if le x y then some y else some x

/-- Compares by `le`, and where that ties by `next`. -/
def lexLe (le next : α → α → Bool) (a b : α) : Bool :=
  le a b && (!le b a || next a b)

end Markbook.Store
