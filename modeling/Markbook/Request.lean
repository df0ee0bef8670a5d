import Markbook.Answer
import Markbook.Book

namespace Markbook

inductive Request
  | storeUser (u : User) (password : String)
  | checkLogin (username password : String)
  | findUser (username : String)
  | register (e : Exercise)
  | catalogue
  | catalogueSize
  | submit (s : Submission)
  | topSubmission (ranking : Ranking) (u : User) (e : Exercise)
  | gradeCount (id : Int)

namespace Request

def run : Request → Work Answer
  | storeUser u password => .storedUser <$> Book.storeUser u password
  | checkLogin username password => .flag <$> Book.checkLogin username password
  | findUser username => .user <$> Book.findUser username
  | register e => .registration <$> Book.register e
  | catalogue => .exercises <$> Book.catalogue
  | catalogueSize => (.number ·) <$> Book.catalogueSize
  | submit s => .storedSubmission <$> Book.submit s
  | topSubmission ranking u e => .submission <$> Book.topSubmission ranking u e
  | gradeCount id => (.number ·) <$> Book.gradeCount id

def reads : Request → List Store.Relation
  | storeUser .. | checkLogin .. | findUser _ | submit _ => [.user]
  | register _ | catalogueSize => [.exercise]
  | catalogue => [.exercise, .question]
  | topSubmission .. => [.submission, .user, .grade]
  | gradeCount _ => [.grade]

/-- The request with the caller's value as the call left it, however it ended. -/
def left : Request → Access → Store → Request
  | storeUser u password, a, s => storeUser ((Book.storing password).left u a s) password
  | submit x, a, s => submit (Book.submitting.left x a s)
  | r, _, _ => r

/-- The request with the caller's value, as far as it is told by the result. -/
def after : Request → Except Fault Answer → Request
  | storeUser _ password, .ok (.storedUser u) => storeUser u password
  | submit _, .ok (.storedSubmission s) => submit s
  | r, _ => r

end Request

end Markbook
