import Markbook.Store.Work

namespace Markbook.Users

open Store

def hasUsername (username : String) (r : UserRow) : Bool :=
  r.username == some username

def rowOf? (username : String) (s : Store) : Except StoreError (Option UserRow) := do
  return (← s.require .user).rows.find? (hasUsername username)

def insert (u : User) (password : Option String) : Work Int :=
  .write .user fun t => do
    let id := t.nextId (·.id)
    let t' ← t.insert Relation.userSchema true
      ⟨id, some u.username, some u.firstname, some u.lastname, password⟩
    return (id, t')

def idOf (username : String) : Work (Option Int) :=
  .read fun s => return (← rowOf? username s).map (·.id)

def find (username : String) : Work (Option User) :=
  .read fun s => return (← rowOf? username s).map fun r =>
    ⟨r.id, username, r.firstname.getD "", r.lastname.getD ""⟩

def passwordOf (username : String) : Work (Option String) :=
  .read fun s => return (← rowOf? username s).bind (·.password)

def update (id : Int) (f : UserRow → UserRow) : Work Unit :=
  .write .user fun t => do
    let (_, t') ← t.update Relation.userSchema (·.id == id) fun r => .ok (f r)
    return ((), t')

def setCredentials (id : Int) (u : User) (password : String) : Work Unit :=
  update id fun r =>
    { r with password := some password, firstname := some u.firstname, lastname := some u.lastname }

def rename (id : Int) (u : User) : Work Unit :=
  update id fun r => { r with firstname := some u.firstname, lastname := some u.lastname }

def enrol (u : User) (password : String) : Work Int := do
  match ← idOf u.username with
  | some id =>
    setCredentials id u password
    return id
  | none => insert u (some password)

/-- The id of the username, with its names brought up to date; a new user gets no password. -/
def identify (u : User) : Work Int := do
  match ← idOf u.username with
  | some id =>
    rename id u
    return id
  | none => insert u none

def count : Work Nat :=
  .read fun s => return (← s.require .user).rows.length

end Markbook.Users
