import Markbook.Proofs.History

namespace Markbook

open Store Work

namespace Users

variable {u : User} {p : Option String → Option String} {rows rows' : List UserRow} {id : Int}

def passwordIn (rows : List UserRow) (username : String) : Option String :=
  (rows.find? (hasUsername username)).bind (·.password)

theorem Settled.passwordIn (h : Settled u p rows id rows') (hids : (rows.map (·.id)).Nodup)
    (username : String) :
    passwordIn rows' username =
      if username = u.username then p (passwordIn rows username) else passwordIn rows username := by
  rw [Users.passwordIn, Users.passwordIn]
  rw [h.find?_eq hids]
  split <;> rfl

end Users

namespace History

theorem passwordIn_store (h : History) (username : String) :
    Users.passwordIn (h.store.rows .user) username = h.lastPassword? username := by
  induction h with
  | fresh => rfl
  | next h m ih =>
      have hids := h.integrity_store.userIds
      obtain ⟨version, enrolment, hm, -, henrolments⟩ := h.exists_effect_next m
      rw [lastPassword?] at ih
      rw [lastPassword?, henrolments]
      generalize (h.next m).store = s' at hm ⊢
      cases hm with
      | sparing hs =>
          rw [hs.rows]
          exact ih
      | registered he =>
          rw [he.rows_of_ne (by decide) (by decide)]
          exact ih
      | enrolled he =>
          rw [he.rows_user, he.settled.passwordIn hids, ih, lookup_push]
      | submitted he =>
          rw [he.rows_user, he.settled.passwordIn hids, ih]
          exact ite_id _

/-- Logging in through an open connection succeeds with the password that was last stored for the
username, and with no other. -/
theorem checkLogin_store (h : History) (a : Access) (ha : a.fault? = none)
    (username password : String) :
    (Book.checkLogin username password a h.store).result =
      .ok (decide (h.lastPassword? username = some password)) := by
  have hstored :
      Gives (Users.passwordOf username) a h.store (h.lastPassword? username) h.store := by
    refine Users.gives_passwordOf.mpr ⟨ha, h.complete_store .user, ?_, rfl⟩
    exact h.passwordIn_store username
  have hvalid : (h.lastPassword? username == some password) =
      decide (h.lastPassword? username = some password) := by
    rw [beq_eq_decide]
  rw [Book.checkLogin, (bind_of_gives hstored).1]
  dsimp only
  rw [hvalid]
  split <;> rfl

/-- A user is created by a submission, gets a password, fails to get another one and is renamed by
one more submission, while another user gets a password of its own. -/
def onePassword : History :=
  let u : User := ⟨noId, "ann", "Ann", "Lee"⟩
  let t := Time.Instant.inFirstHour 60 0
  let submit (u : User) : Move := .request .readWrite (.submit ⟨noId, u, ⟨7, "Sums", t, []⟩, t, []⟩)
  [submit u, .request .readWrite (.storeUser u "first"),
    .refuse .readWrite (.addGuard .user .update "no change" none) rfl,
    .request .readWrite (.storeUser u "second"),
    .refuse .readWrite (.removeGuard .user .update) rfl,
    .request .readWrite (.storeUser { u with username := "bob" } "third"),
    submit { u with lastname := "May" }].foldl .next .fresh

theorem checkLogin_onePassword :
    (Access.readOnly .readOnly).fault? = none ∧ onePassword.lastPassword? "ann" = some "first" ∧
      (Book.checkLogin "ann" "first" (.readOnly .readOnly) onePassword.store).result =
        .ok (decide (onePassword.lastPassword? "ann" = some "first")) ∧
      (Book.checkLogin "ann" "second" (.readOnly .readOnly) onePassword.store).result =
        .ok (decide (onePassword.lastPassword? "ann" = some "second")) :=
  ⟨rfl, by decide +kernel, checkLogin_store onePassword _ rfl "ann" "first",
    checkLogin_store onePassword _ rfl "ann" "second"⟩

end History

end Markbook
