import Markbook.Model.Submission
import Markbook.Store.Cell

namespace Markbook

open Store

inductive Answer
  | done
  | flag (b : Bool)
  | number (n : Int)
  | optional (n : Option Int)
  | text (s : Option String)
  | user (u : Option User)
  | storedUser (u : User)
  | registration (r : Registration)
  | exercises (es : List Exercise)
  | storedSubmission (s : Submission)
  | submission (s : Option Submission)
  | tables (ts : List (String × List (List Cell)))
  | many (results : List (Except Fault Answer))

end Markbook
