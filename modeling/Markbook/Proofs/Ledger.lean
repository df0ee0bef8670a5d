import Markbook.Proofs.History

namespace Markbook

open Store Work

abbrev Ledger := List (Request × Answer)

def Move.carriedOut? : Move → Except Fault Answer → Option (Request × Answer)
  | request _ r, .ok y => some (r, y)
  | _, _ => none

namespace History

/-- All requests that were carried out, the oldest first. -/
def ledger : History → Ledger
  | fresh => []
  | next h m => h.ledger ++ (m.carriedOut? (m.run h.store).result).toList

def after (h : History) (moves : List Move) : History :=
  moves.foldl next h

theorem after_concat (h : History) (moves : List Move) (m : Move) :
    h.after (moves ++ [m]) = (h.after moves).next m := by
  simp [after]

theorem ledger_next_of_ok {h : History} {a : Access} {r : Request} {y : Answer}
    (hy : (r.run a h.store).result = .ok y) :
    (h.next (.request a r)).ledger = h.ledger ++ [(r, y)] := by
  change h.ledger ++ ((Move.request a r).carriedOut? (r.run a h.store).result).toList = _
  rw [hy]
  rfl

theorem ledger_next_of_error {h : History} {a : Access} {r : Request} {e : Fault}
    (he : (r.run a h.store).result = .error e) : (h.next (.request a r)).ledger = h.ledger := by
  change h.ledger ++ ((Move.request a r).carriedOut? (r.run a h.store).result).toList = _
  rw [he]
  exact List.append_nil _

theorem ledger_next_submit {h : History} {a : Access} {x y : Submission}
    (hy : (Book.submit x a h.store).result = .ok y) :
    (h.next (.request a (.submit x))).ledger =
      h.ledger ++ [(.submit x, .storedSubmission y)] := by
  have hrun : ((Request.submit x).run a h.store).result = .ok (.storedSubmission y) :=
    (gives_map.mpr ⟨y, ⟨hy, rfl⟩, rfl⟩).1
  exact ledger_next_of_ok hrun

theorem ledger_prefix_after (h : History) (moves : List Move) :
    h.ledger <+: (h.after moves).ledger := by
  induction moves generalizing h with
  | nil => exact List.prefix_refl _
  | cons m moves ih => exact (List.prefix_append _ _).trans (ih (h.next m))

/-- What holds of a fresh store, and is kept by sparing its rows and by the effect of each request,
holds of every store and its ledger. -/
theorem ledger_induction {P : Store → Ledger → Prop} (fresh : P .fresh [])
    (spared : ∀ {s s' l}, SameRows s s' → P s l → P s' l)
    (effect : ∀ {s s' l r y}, s.Integrity → Request.Effect s r y s' → P s l →
      P s' (l ++ [(r, y)]))
    (h : History) : P h.store h.ledger := by
  induction h with
  | fresh => exact fresh
  | next h m ih =>
      have hspared (hs : SameRows h.store (h.next m).store) : P (h.next m).store (h.ledger ++ []) := by
        rw [List.append_nil]
        exact spared hs ih
      cases m with
      | reopen a => exact hspared (Book.sparesRows_reopening a h.store)
      | refuse a t ht => exact hspared (Task.sparesRows_of_isRefusal ht a h.store)
      | request a r =>
          cases hr : (r.run a h.store).result with
          | ok y =>
              rw [ledger_next_of_ok hr]
              exact effect h.integrity_store (Request.effect_of_gives ⟨hr, rfl⟩) ih
          | error e =>
              rw [ledger_next_of_error hr]
              refine spared ?_ ih
              change SameRows h.store (r.run a h.store).store
              rw [Request.restores_run r a h.store e hr]
              exact .refl _

end History

end Markbook
