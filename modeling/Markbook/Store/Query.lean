namespace Markbook.Store

variable {α β : Type}

def innerJoin (found : α → List β) (xs : List α) : List (α × β) :=
  xs.flatMap fun x => (found x).map fun y => (x, y)

def beside (x : α) : List β → List (α × Option β)
  | [] => [(x, none)]
  | y :: ys => (x, some y) :: ys.map fun y => (x, some y)

/-- An element for which nothing is found stays, with nothing beside it. -/
def leftJoin (found : α → List β) (xs : List α) : List (α × Option β) :=
  xs.flatMap fun x => beside x (found x)

/-- Elements that are the same in what they are grouped by, in the order in which they came. -/
structure RowGroup (α : Type) where
  first : α
  rest : List α

def RowGroup.members (g : RowGroup α) : List α :=
  g.first :: g.rest

def enterGroup (same : α → α → Bool) : List (RowGroup α) → α → List (RowGroup α)
  | [], x => [⟨x, []⟩]
  | g :: gs, x =>
    if same g.first x then ⟨g.first, g.rest ++ [x]⟩ :: gs else g :: enterGroup same gs x

def grouped (same : α → α → Bool) (xs : List α) : List (RowGroup α) :=
  xs.foldl (enterGroup same) []

end Markbook.Store
