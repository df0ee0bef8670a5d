import Markbook.Store.Work

namespace Markbook

/-- Work with a value that the caller lends to it. The value comes back as it was last set, whether
the work fails or not. -/
def Lent (σ α : Type) : Type :=
  σ → Access → Store → Outcome α × σ

namespace Lent

variable {σ α β : Type}

def work (w : Work α) : Lent σ α :=
  fun v a s => (w a s, v)

def value : Lent σ σ :=
  fun v a s => (Work.done v a s, v)

def assign (v : σ) : Lent σ Unit :=
  fun _ a s => (Work.done () a s, v)

def andThen (w : Lent σ α) (f : α → Lent σ β) : Lent σ β :=
  fun v a s =>
    match w v a s with
    | (⟨.ok x, s', log⟩, v') =>
      let (o, v'') := f x v' a s'
      (⟨o.result, o.store, log ++ o.log⟩, v'')
    | (⟨.error e, s', log⟩, v') => (⟨.error e, s', log⟩, v')

instance : Monad (Lent σ) where
  pure x := work (Work.done x)
  bind := andThen

def left (w : Lent σ α) (v : σ) (a : Access) (s : Store) : σ :=
  (w v a s).2

/-- The work on a value, which is its result if the work does not fail. -/
def returning (w : Lent σ α) (v : σ) : Work σ :=
  fun a s =>
    let (o, v') := w v a s
    ⟨o.result.map fun _ => v', o.store, o.log⟩

end Lent

end Markbook
