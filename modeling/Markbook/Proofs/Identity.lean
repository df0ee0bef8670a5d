import Markbook.Proofs.Ledger
import Mathlib.Data.List.Induction

namespace Markbook

open Store Work

def Request.named? : Request → Option User
  | storeUser u _ => some u
  | submit x => some x.user
  | _ => none

theorem eraseDups_append_singleton {α : Type} [DecidableEq α] (xs : List α) (x : α) :
    (xs ++ [x]).eraseDups = if x ∈ xs then xs.eraseDups else xs.eraseDups ++ [x] := by
  rw [List.eraseDups_append]
  by_cases h : x ∈ xs <;> simp [List.removeAll, List.eraseDups_cons, h]

namespace Ledger

def namings (l : Ledger) : List User :=
  l.filterMap fun x => x.1.named?

def names (l : Ledger) : List String :=
  (l.namings.map (·.username)).eraseDups

def numberOf (l : Ledger) (username : String) : Int :=
  l.names.idxOf username + 1

def lastNaming? (l : Ledger) (username : String) : Option User :=
  l.namings.reverse.find? (·.username == username)

variable {l : Ledger} {x : Request × Answer} {u : User} {username : String}

theorem namings_append_of_none (h : x.1.named? = none) : namings (l ++ [x]) = l.namings := by
  simp [namings, h]

theorem namings_append_of_some (h : x.1.named? = some u) :
    namings (l ++ [x]) = l.namings ++ [u] := by
  simp [namings, h]

theorem names_prefix_append (l l' : Ledger) : l.names <+: names (l ++ l') := by
  rw [names, names, namings, namings, List.filterMap_append, List.map_append,
    List.eraseDups_append]
  exact List.prefix_append _ _

theorem mem_names : username ∈ l.names ↔ ∃ u ∈ l.namings, u.username = username := by
  simp [names, List.mem_eraseDups]

theorem mem_names_iff_isSome : username ∈ l.names ↔ (l.lastNaming? username).isSome := by
  simp [mem_names, lastNaming?]

theorem names_append_of_some (h : x.1.named? = some u) :
    names (l ++ [x]) =
      if u.username ∈ l.names then l.names else l.names ++ [u.username] := by
  rw [names, namings_append_of_some h, List.map_append, List.map_singleton,
    eraseDups_append_singleton, names]
  simp only [List.mem_eraseDups]

theorem nodup_names (l : Ledger) : l.names.Nodup := by
  induction l using List.reverseRecOn with
  | nil => exact List.nodup_nil
  | append_singleton l x ih =>
      cases hx : x.1.named? with
      | none => rwa [names, namings_append_of_none hx]
      | some u =>
          rw [names_append_of_some hx]
          split
          next => exact ih
          next hu => exact ih.append (List.nodup_singleton _) (by simpa using hu)

theorem lastNaming?_append_of_some (h : x.1.named? = some u) :
    lastNaming? (l ++ [x]) username =
      if username = u.username then some u else l.lastNaming? username := by
  rw [lastNaming?, namings_append_of_some h, List.reverse_append]
  change List.find? _ (u :: l.namings.reverse) = _
  rw [List.find?_cons]
  split
  next heq => rw [if_pos (beq_iff_eq.mp heq).symm]
  next hne => rw [if_neg (fun heq => by simp [heq] at hne), lastNaming?]

theorem numberOf_append (h : username ∈ l.names) (l' : Ledger) :
    numberOf (l ++ l') username = l.numberOf username := by
  obtain ⟨more, hmore⟩ := names_prefix_append l l'
  rw [numberOf, ← hmore, List.idxOf_append_of_mem h, numberOf]

def roll (l : Ledger) : List (Int × Option String) :=
  l.names.zipIdx.map fun (name, k) => ((k : Int) + 1, some name)

theorem mem_roll {id : Int} :
    (id, some username) ∈ l.roll ↔ username ∈ l.names ∧ id = l.numberOf username := by
  simp only [roll, numberOf, List.mem_map, Prod.mk.injEq, Option.some.injEq, Prod.exists,
    List.mem_zipIdx_iff_getElem?]
  constructor
  · rintro ⟨name, k, hk, rfl, rfl⟩
    have hmem := List.mem_of_getElem? hk
    have hlt := List.idxOf_lt_length_of_mem hmem
    have hidx : l.names.idxOf name = k :=
      (List.getElem?_inj hlt l.nodup_names).mp ((List.getElem?_idxOf hmem).trans hk.symm)
    exact ⟨hmem, by rw [hidx]⟩
  · rintro ⟨hmem, rfl⟩
    exact ⟨username, _, List.getElem?_idxOf hmem, rfl, rfl⟩

theorem nextAfter_roll (l : Ledger) : nextAfter (l.roll.map (·.1)) = l.names.length + 1 := by
  have hids : l.roll.map (·.1) = (List.range l.names.length).map fun k : Nat => (k : Int) + 1 := by
    apply List.ext_getElem
    · simp [roll]
    · intro i hi _
      simp [roll]
  rw [hids]
  cases l.names.length with
  | zero => rfl
  | succ n =>
      apply nextAfter_of_greatest
      · exact List.mem_map.mpr ⟨n, by simp, by simp⟩
      · intro i hi
        obtain ⟨k, hk, rfl⟩ := List.mem_map.mp hi
        rw [List.mem_range] at hk
        omega

end Ledger

theorem Users.Settled.roll {u : User} {p : Option String → Option String} {rows rows' : List UserRow}
    {id : Int} {l : Ledger} {x : Request × Answer} (h : Settled u p rows id rows')
    (hx : x.1.named? = some u) (hrows : rows.map identity = l.roll) :
    rows'.map identity = Ledger.roll (l ++ [x]) ∧ id = Ledger.numberOf (l ++ [x]) u.username := by
  rcases h.identities with ⟨heq, hmem⟩ | ⟨heq, -, hnew⟩
  · rw [hrows, Ledger.mem_roll] at hmem
    obtain ⟨hu, rfl⟩ := hmem
    refine ⟨?_, (Ledger.numberOf_append hu [x]).symm⟩
    rw [heq, hrows, Ledger.roll, Ledger.roll, Ledger.names_append_of_some hx, if_pos hu]
  · have hu : u.username ∉ l.names := by
      intro hu
      have hmem := Ledger.mem_roll.mpr ⟨hu, rfl⟩
      rw [← hrows] at hmem
      obtain ⟨r, hr, hid⟩ := List.mem_map.mp hmem
      exact hnew r hr (congrArg Prod.snd hid)
    have hid : id = l.names.length + 1 := by
      have hids : rows.map (·.id) = l.roll.map (·.1) := by
        rw [← hrows, List.map_map]
        rfl
      rw [h.id_of_new hnew, hids, Ledger.nextAfter_roll]
    have hnames := Ledger.names_append_of_some (l := l) hx
    rw [if_neg hu] at hnames
    constructor
    · rw [heq, hrows, hid, Ledger.roll, Ledger.roll, hnames, List.zipIdx_append, List.map_append]
      simp
    · rw [hid, Ledger.numberOf, hnames, List.idxOf_append_of_notMem hu]
      simp

theorem Request.Effect.users {s s' : Store} {r : Request} {y : Answer} (h : Effect s r y s') :
    (r.named? = none ∧ s'.rows .user = s.rows .user) ∨
      ∃ u p id, r.named? = some u ∧ Users.Settled u p (s.rows .user) id (s'.rows .user) := by
  cases h with
  | enrolled _ he => exact .inr ⟨_, _, _, rfl, he.rows_user ▸ he.settled⟩
  | submitted _ _ he => exact .inr ⟨_, _, _, rfl, he.rows_user ▸ he.settled⟩
  | registered he => exact .inl ⟨rfl, he.rows_of_ne (by decide) (by decide)⟩
  | known => exact .inl ⟨rfl, rfl⟩
  | asked hq =>
      refine .inl ⟨?_, rfl⟩
      cases r <;> first | rfl | cases hq

def Users.shown (username : String) (r : UserRow) : User :=
  ⟨r.id, username, r.firstname.getD "", r.lastname.getD ""⟩

theorem Users.gives_find {a : Access} {s s' : Store} {username : String} {u : Option User} :
    Gives (find username) a s u s' ↔ a.fault? = none ∧ (s.table .user).isSome ∧
      ((s.rows .user).find? (hasUsername username)).map (shown username) = u ∧ s = s' := by
  rw [find]
  simp only [gives_read, bind_eq_ok, pure_eq_ok, rowOf?_eq_ok]
  constructor
  · rintro ⟨ha, ⟨r, ⟨ht, rfl⟩, rfl⟩, rfl⟩
    exact ⟨ha, ht, rfl, rfl⟩
  · rintro ⟨ha, ht, rfl, rfl⟩
    exact ⟨ha, ⟨_, ⟨ht, rfl⟩, rfl⟩, rfl⟩

namespace Ledger

def user? (l : Ledger) (username : String) : Option User :=
  (l.lastNaming? username).map fun u => { u with id := l.numberOf username }

/-- The rows of the users are those that the ledger tells, but for their passwords. -/
structure TellsUsers (l : Ledger) (rows : List UserRow) : Prop where
  identities : rows.map Users.identity = l.roll
  found : ∀ username,
    (rows.find? (Users.hasUsername username)).map (Users.shown username) = l.user? username

variable {l : Ledger} {x : Request × Answer} {rows rows' : List UserRow}

theorem TellsUsers.append_of_none (h : l.TellsUsers rows) (hx : x.1.named? = none) :
    TellsUsers (l ++ [x]) rows := by
  have hnamings := namings_append_of_none (l := l) hx
  have hnames : names (l ++ [x]) = l.names := by rw [names, hnamings, names]
  refine ⟨?_, ?_⟩
  · rw [h.identities, roll, roll, hnames]
  · intro username
    rw [h.found, user?, user?, lastNaming?, lastNaming?, hnamings, numberOf, numberOf, hnames]

theorem TellsUsers.settle {u : User} {p : Option String → Option String} {id : Int}
    (h : l.TellsUsers rows) (hids : (rows.map (·.id)).Nodup) (hx : x.1.named? = some u)
    (hu : Users.Settled u p rows id rows') : TellsUsers (l ++ [x]) rows' := by
  obtain ⟨hroll, hid⟩ := hu.roll hx h.identities
  refine ⟨hroll, ?_⟩
  intro username
  rw [hu.find?_eq hids, user?, lastNaming?_append_of_some hx]
  split
  next heq =>
      subst heq
      simp [Users.shown, hid]
  next hne =>
      rw [h.found, user?]
      cases hlast : l.lastNaming? username with
      | none => rfl
      | some v =>
          have hmem : username ∈ l.names := mem_names_iff_isSome.mpr (by rw [hlast]; rfl)
          rw [numberOf_append hmem]

end Ledger

namespace History

theorem tellsUsers_store (h : History) : h.ledger.TellsUsers (h.store.rows .user) := by
  refine ledger_induction (P := fun s l => l.TellsUsers (s.rows .user)) ⟨rfl, fun _ => rfl⟩ ?_ ?_ h
  · intro s s' l hs ih
    rwa [hs.rows]
  · intro s s' l r y hs he ih
    rcases he.users with ⟨hnone, hrows⟩ | ⟨u, p, id, hsome, hu⟩
    · rw [hrows]
      exact ih.append_of_none hnone
    · exact ih.settle hs.userIds hsome hu

theorem numberOf_of_settled (h : History) {r : Request} {y : Answer} {u : User}
    {p : Option String → Option String} {id : Int} {rows : List UserRow} (hr : r.named? = some u)
    (hu : Users.Settled u p (h.store.rows .user) id rows) :
    id = Ledger.numberOf (h.ledger ++ [(r, y)]) u.username :=
  (hu.roll hr h.tellsUsers_store.identities).2

theorem storeUser_eq {h : History} {a : Access} {u v : User} {password : String}
    (hv : (Book.storeUser u password a h.store).result = .ok v) :
    v = { u with id :=
      (h.next (.request a (.storeUser u password))).ledger.numberOf u.username } := by
  have hrun : ((Request.storeUser u password).run a h.store).result = .ok (.storedUser v) :=
    (gives_map.mpr ⟨v, ⟨hv, rfl⟩, rfl⟩).1
  obtain ⟨-, id, users, hu, rfl⟩ := Book.enrolled_of_gives ⟨hv, rfl⟩
  rw [ledger_next_of_ok hrun, ← h.numberOf_of_settled rfl hu.settled]

theorem submit_user_eq {h : History} {a : Access} {x y : Submission}
    (hy : (Book.submit x a h.store).result = .ok y) :
    y.user = { x.user with id :=
      (h.next (.request a (.submit x))).ledger.numberOf x.user.username } := by
  have hledger := ledger_next_submit hy
  obtain ⟨-, -, r, users, hr, rfl⟩ := Book.submitted_of_gives ⟨hy, rfl⟩
  rw [hledger, ← h.numberOf_of_settled rfl hr.settled]

theorem numberOf_after {h : History} {username : String} (hmem : username ∈ h.ledger.names)
    (moves : List Move) :
    (h.after moves).ledger.numberOf username = h.ledger.numberOf username := by
  obtain ⟨more, hmore⟩ := h.ledger_prefix_after moves
  rw [← hmore, Ledger.numberOf_append hmem]

/-- Whoever is stored for the first time, alone or with a submission, gets the next number, and
keeps it: each request that stores the username again comes back with that number, whatever id the
caller had put in. A user is found by its username from then on, with the names that were stored
last. -/
theorem users_store (h : History) :
    (∀ a u password v, (Book.storeUser u password a h.store).result = .ok v →
      v = { u with id :=
        (h.next (.request a (.storeUser u password))).ledger.numberOf u.username }) ∧
    (∀ a x y, (Book.submit x a h.store).result = .ok y →
      y.user = { x.user with id :=
        (h.next (.request a (.submit x))).ledger.numberOf x.user.username }) ∧
    (∀ a username, a.fault? = none → (Book.findUser username a h.store).result =
      .ok ((h.ledger.lastNaming? username).map fun u =>
        { u with id := h.ledger.numberOf username })) ∧
    ∀ moves, ∀ username ∈ h.ledger.names,
      (h.after moves).ledger.numberOf username = h.ledger.numberOf username := by
  refine ⟨fun a u password v => storeUser_eq, fun a x y => submit_user_eq, ?_, ?_⟩
  · intro a username ha
    refine (Users.gives_find.mpr ⟨ha, h.complete_store .user, ?_, rfl⟩).1
    exact h.tellsUsers_store.found username
  · intro moves username hmem
    exact numberOf_after hmem moves

/-- One user comes with a submission, another one is refused, a third is enrolled, and the first
changes its last name. Callers put in ids as they like. -/
def namesakes : History :=
  let ann : User := ⟨40, "ann", "Ann", "Lee"⟩
  let t := Time.Instant.inFirstHour 60 0
  let submit (u : User) : Move := .request .readWrite (.submit ⟨noId, u, ⟨7, "Sums", t, []⟩, t, []⟩)
  let enrol (u : User) : Move := .request .readWrite (.storeUser u "open")
  [submit ann, .refuse .readWrite (.addGuard .user .insert "no more users" none) rfl,
    enrol { ann with username := "cat" }, .refuse .readWrite (.removeGuard .user .insert) rfl,
    enrol { ann with username := "bob" }, submit { ann with lastname := "May" }].foldl .next .fresh

theorem users_store_namesakes :
    let bob : User := ⟨-5, "bob", "Bob", "Ray"⟩
    namesakes.ledger.names = ["ann", "bob"] ∧
      (Book.storeUser bob "new" .readWrite namesakes.store).result = .ok { bob with id := 2 } ∧
      { bob with id := 2 } = { bob with id := (namesakes.next
        (.request .readWrite (.storeUser bob "new"))).ledger.numberOf "bob" } ∧
      namesakes.ledger.user? "ann" = some ⟨1, "ann", "Ann", "May"⟩ ∧
      (Book.findUser "ann" .readWrite namesakes.store).result =
        .ok (namesakes.ledger.user? "ann") := by
  intro bob
  have hbob : (Book.storeUser bob "new" .readWrite namesakes.store).result =
      .ok { bob with id := 2 } := by decide +kernel
  obtain ⟨hstored, -, hfound, -⟩ := users_store namesakes
  exact ⟨by decide +kernel, hbob, hstored _ _ _ _ hbob, by decide +kernel, hfound _ _ rfl⟩

end History

end Markbook
