import Markbook.Fault
import Markbook.Time.Instant

namespace Markbook.Time.Instant

/-- The instant of a stored time. What is out of range cannot have been stored by a book. -/
def ofStored (ms : Int) : Except Fault Instant :=
  match ofMillis? ms with
  | some t => .ok t
  | none => .error (.corrupt (.timestamp ms))

end Markbook.Time.Instant
