import Markbook.Proofs.History
import Markbook.Proofs.Joins
import Markbook.Proofs.Redaction

namespace Markbook

open Store Work

namespace Store

variable {α β γ : Type}

theorem leftJoin_map (f : γ → α) (found : α → List β) (xs : List γ) :
    leftJoin found (xs.map f) = (leftJoin (fun x => found (f x)) xs).map (Prod.map f id) := by
  have hbeside (x : γ) (ys : List β) : beside (f x) ys = (beside x ys).map (Prod.map f id) := by
    cases ys with
    | nil => rfl
    | cons y ys => simp [beside]
  simp only [leftJoin, List.flatMap_map, List.map_flatMap, hbeside]

def RowGroup.map (f : β → α) (g : RowGroup β) : RowGroup α :=
  ⟨f g.first, g.rest.map f⟩

theorem enterGroup_map (f : β → α) (same : α → α → Bool) (gs : List (RowGroup β)) (x : β) :
    enterGroup same (gs.map (RowGroup.map f)) (f x) =
      (enterGroup (fun a b => same (f a) (f b)) gs x).map (RowGroup.map f) := by
  induction gs with
  | nil => rfl
  | cons g gs ih =>
      rw [List.map_cons, enterGroup, enterGroup]
      split
      next h => simp [RowGroup.map, if_pos (show same (f g.first) (f x) = true from h)]
      next h => simp [ih, if_neg (show ¬ same (f g.first) (f x) = true from h)]

theorem grouped_map (f : β → α) (same : α → α → Bool) (xs : List β) :
    grouped same (xs.map f) = (grouped (fun a b => same (f a) (f b)) xs).map (RowGroup.map f) := by
  have hfold (gs : List (RowGroup β)) :
      (xs.map f).foldl (enterGroup same) (gs.map (RowGroup.map f)) =
        (xs.foldl (enterGroup fun a b => same (f a) (f b)) gs).map (RowGroup.map f) := by
    induction xs generalizing gs with
    | nil => rfl
    | cons x xs ih => rw [List.map_cons, List.foldl_cons, List.foldl_cons, enterGroup_map, ih]
  exact hfold []

end Store

namespace Ranking

variable (users : List UserRow) (submissions : List SubmissionRow) (grades : List GradeRow)
  (username : String) (exercise : Int)

def besideRedacted (x : SubmissionRow × UserRow) : SubmissionRow × UserRow :=
  (x.1, x.2.redacted)

theorem withUsers_redacted :
    withUsers (users.map UserRow.redacted) submissions =
      (withUsers users submissions).map besideRedacted := by
  simp only [withUsers, innerJoin, List.filter_map, List.map_flatMap, List.map_map]
  rfl

theorem latestRow?_redacted :
    latestRow? (users.map UserRow.redacted) submissions username exercise =
      latestRow? users submissions username exercise := by
  rw [latestRow?, latestRow?, withUsers_redacted, List.filter_map, List.map_map]
  rfl

theorem groups_redacted :
    groups (users.map UserRow.redacted) submissions grades username exercise =
      (groups users submissions grades username exercise).map
        (RowGroup.map (Prod.map besideRedacted id)) := by
  rw [groups, groups, withGrades, withGrades, withUsers_redacted, leftJoin_map, List.filter_map,
    grouped_map]
  rfl

theorem bestRow?_redacted :
    bestRow? (users.map UserRow.redacted) submissions grades username exercise =
      bestRow? users submissions grades username exercise := by
  -- The password is no part of what groups are compared by.
  have htotal (g : RowGroup GradedRow) :
      groupTotal (g.map (Prod.map besideRedacted id)) = groupTotal g := by
    simp only [groupTotal, RowGroup.members, RowGroup.map, List.map_cons, List.map_map]
    rfl
  rw [bestRow?, bestRow?, groups_redacted, greatest?_map, Option.map_map]
  simp only [betterLe, htotal, lexLe]
  rfl

end Ranking

namespace Book

theorem redacts_createTables : Redacts createTables createTables :=
  Redacts.transaction (Redacts.forM (fun t => redacts_report.bind fun _ => redacts_create t) _)

theorem redacts_storeUser (u : User) (password : String) :
    Redacts (storeUser u password) (storeUser u "") := by
  rw [storeUser_eq, storeUser_eq]
  exact redacts_ofExcept.bind fun _ => (Users.redacts_enrol u password).transaction.bind fun _ =>
    redacts_report.bind fun _ => redacts_pure

theorem redacts_addQuestions (id : Int) (questions : List Question) :
    Redacts (Exercises.addQuestions id questions) (Exercises.addQuestions id questions) :=
  Redacts.forM (fun _ => redacts_write (by decide)) _

theorem redacts_addGrades (id : Int) (grades : List Float) :
    Redacts (Submissions.addGrades id grades) (Submissions.addGrades id grades) :=
  Redacts.forM (fun _ => redacts_write (by decide)) _

theorem redacts_enter (e : Exercise) : Redacts (enter e) (enter e) := by
  have hknown : Redacts (Exercises.isRegistered e.id) (Exercises.isRegistered e.id) := by
    apply redacts_read
    intro s
    rw [require_redacted (by decide)]
  have hinsert : Redacts (Exercises.insert e) (Exercises.insert e) := redacts_write (by decide)
  refine hknown.bind ?_
  intro known
  cases known with
  | true => exact redacts_report.bind fun _ => redacts_pure
  | false =>
      refine hinsert.attempt.bind ?_
      intro inserted
      rcases inserted with fault | ⟨⟩
      · cases fault with
        | alreadyExists => exact redacts_report.bind fun _ => redacts_pure
        | _ => exact redacts_fail
      · exact ((redacts_addQuestions e.id e.questions).mapFault leftOver).bind fun _ => redacts_pure

theorem redacts_register (e : Exercise) : Redacts (register e) (register e) := by
  refine (redacts_enter e).transaction.bind ?_
  intro r
  dsimp only
  split
  · exact redacts_report.bind fun _ => redacts_pure
  · exact redacts_pure

theorem redacts_record (x : Submission) : Redacts (record x) (record x) := by
  have hput (user : Int) : Redacts (Submissions.put x.id user x.exercise.id x.time.toMillis)
      (Submissions.put x.id user x.exercise.id x.time.toMillis) := redacts_write (by decide)
  have hinsert (user : Int) : Redacts (Submissions.insert user x.exercise.id x.time.toMillis)
      (Submissions.insert user x.exercise.id x.time.toMillis) := redacts_write (by decide)
  have hgrading (user id : Int) : Redacts
      (do
        let replaced ← Submissions.clearGrades id
        Submissions.addGrades id x.grades
        return (⟨user, id, replaced⟩ : Stored))
      (do
        let replaced ← Submissions.clearGrades id
        Submissions.addGrades id x.grades
        return (⟨user, id, replaced⟩ : Stored)) :=
    (redacts_write (by decide)).bind fun _ => (redacts_addGrades id x.grades).bind fun _ =>
      redacts_pure
  refine (Users.redacts_identify x.user).bind ?_
  intro user
  dsimp only
  split
  · exact (hput user).bind fun _ => hgrading user x.id
  · exact (hinsert user).bind fun id => hgrading user id

theorem redacts_submit (x : Submission) : Redacts (submit x) (submit x) := by
  rw [submit_eq]
  refine redacts_ofExcept.bind fun _ => redacts_ofExcept.bind fun _ =>
    (redacts_record x).transaction.bind fun stored => ?_
  dsimp only
  split
  · exact redacts_report.bind fun _ => redacts_pure
  · exact redacts_report.bind fun _ => redacts_pure

theorem redacts_catalogue : Redacts catalogue catalogue := by
  have hexercises :
      Redacts (Work.read Exercises.exerciseRows) (Work.read Exercises.exerciseRows) := by
    apply redacts_read
    intro s
    rw [Exercises.exerciseRows, Exercises.exerciseRows, require_redacted (by decide)]
  have hquestions :
      Redacts (Work.read Exercises.questionRows) (Work.read Exercises.questionRows) := by
    apply redacts_read
    intro s
    rw [Exercises.questionRows, Exercises.questionRows, require_redacted (by decide)]
  have hall : Redacts Exercises.all Exercises.all :=
    hexercises.bind fun _ => hquestions.bind fun _ => redacts_ofExcept
  exact hall.bind fun _ => redacts_report.bind fun _ => redacts_pure

theorem redacts_rank (ranking : Ranking) (username : String) (exercise : Int) :
    Redacts (Submissions.rank ranking username exercise)
      (Submissions.rank ranking username exercise) := by
  apply redacts_read
  intro s
  have hrow : Submissions.rankedRow? ranking username exercise s.redacted =
      Submissions.rankedRow? ranking username exercise s := by
    rw [Submissions.rankedRow?, Submissions.rankedRow?,
      require_redacted (t := .submission) (by decide), require_user_redacted,
      require_redacted (t := .grade) (by decide)]
    cases s.require .submission with
    | error e => rfl
    | ok submissions =>
        cases s.require .user with
        | error e => rfl
        | ok users =>
            cases ranking with
            | latest => exact congrArg Except.ok (Ranking.latestRow?_redacted ..)
            | best =>
                cases s.require .grade with
                | error e => rfl
                | ok grades => exact congrArg Except.ok (Ranking.bestRow?_redacted ..)
  rw [hrow]

theorem redacts_topSubmission (ranking : Ranking) (u : User) (e : Exercise) :
    Redacts (topSubmission ranking u e) (topSubmission ranking u e) := by
  refine (redacts_rank ranking u.username e.id).bind ?_
  intro winner
  cases winner with
  | none => exact redacts_report.bind fun _ => redacts_pure
  | some winner =>
      have hgrades : Redacts (Submissions.gradesOf winner.id e.size)
          (Submissions.gradesOf winner.id e.size) := by
        apply redacts_read
        intro s
        rw [require_redacted (t := .submission) (by decide),
          require_redacted (t := .grade) (by decide)]
      exact hgrades.bind fun _ => redacts_ofExcept.bind fun _ => redacts_pure

end Book

namespace Request

def redacted : Request → Request
  | storeUser u _ => storeUser u ""
  | checkLogin username _ => checkLogin username ""
  | r => r

def isLogin : Request → Bool
  | checkLogin .. => true
  | _ => false

theorem isLogin_redacted (r : Request) : r.redacted.isLogin = r.isLogin := by
  cases r <;> rfl

theorem isQuery_of_isLogin {r : Request} (h : r.isLogin) : r.isQuery := by
  cases r <;> first | rfl | cases h

theorem after_redacted (r : Request) (y : Except Fault Answer) :
    (r.redacted.after y).redacted = (r.after y).redacted := by
  cases r with
  | storeUser u password => rcases y with e | _ | _ | _ | _ | _ | _ | v <;> rfl
  | _ => rfl

theorem redacts_run {r : Request} (h : r.isLogin = false) : Redacts r.run r.redacted.run := by
  cases r with
  | storeUser u password => exact (Book.redacts_storeUser u password).map
  | checkLogin => cases h
  | findUser username => exact (Users.redacts_find username).map
  | register e => exact (Book.redacts_register e).map
  | catalogue => exact Book.redacts_catalogue.map
  | catalogueSize =>
      have hsize : Redacts Book.catalogueSize Book.catalogueSize := by
        apply redacts_read
        intro s
        rw [require_redacted (by decide)]
      exact (hsize.bind fun _ => redacts_pure).map
  | submit x => exact (Book.redacts_submit x).map
  | topSubmission ranking u e => exact (Book.redacts_topSubmission ranking u e).map
  | gradeCount id =>
      have hcount : Redacts (Book.gradeCount id) (Book.gradeCount id) := by
        apply redacts_read
        intro s
        rw [require_redacted (by decide)]
      exact (hcount.bind fun _ => redacts_pure).map

end Request

namespace Task

/-- Whether a task lets no write depend on a password. -/
def overlooksPasswords : Task → Bool
  | addIndex .user column => column != "Password"
  | addGuard .user _ _ (some (column, _)) => column != "Password"
  | _ => true

theorem overlooks_of_column? {name : String} {c : Column UserRow}
    (h : Relation.userSchema.column? name = some c) (hname : name ≠ "Password") : c.Overlooks := by
  have hc : c.name = name := by simpa using List.find?_some h
  have hmem := List.mem_of_find?_eq_some h
  subst hc
  simp only [Relation.userSchema, List.mem_cons, List.not_mem_nil, or_false] at hmem
  rcases hmem with rfl | rfl | rfl | rfl | rfl
  · exact fun _ => rfl
  · exact fun _ => rfl
  · exact fun _ => rfl
  · exact fun _ => rfl
  · exact absurd rfl hname

theorem redacts_requireMain (t : Relation) :
    Redacts (Direct.requireMain t) (Direct.requireMain t) := by
  apply redacts_read
  intro s
  rcases s.table_redacted_cases t with ⟨hx, hy⟩ | ⟨x, y, hx, hy, -, -⟩ <;> rw [hx, hy]

theorem redacts_addIndex (t : Relation) {column : String}
    (h : t = .user → column ≠ "Password") :
    Redacts (Direct.addIndex t column) (Direct.addIndex t column) := by
  refine (redacts_requireMain t).bind fun _ => Redacts.bind ?_ fun _ => ?_
  · apply redacts_read
    intro s
    rcases s.table_redacted_cases t with ⟨hx, hy⟩ | ⟨x, y, hx, hy, hindexes, -⟩
    · rw [require, require, hx, hy]
    · rw [require_eq_ok.mpr hx, require_eq_ok.mpr hy]
      change (if y.indexes.any _ then _ else _) = if x.indexes.any _ then _ else _
      rw [hindexes]
  · by_cases ht : t = .user
    · subst ht
      apply redacts_write_user
      intro x hx
      cases hc : Relation.user.schema.column? column with
      | none => exact ⟨rfl, fun _ hx => by cases hx⟩
      | some c =>
          have hco := overlooks_of_column? hc (h rfl)
          have hpairs : (Users.redacted x).rows.Pairwise
                (fun a b => (c.cell a).clashes (c.cell b) = false) ↔
              x.rows.Pairwise fun a b => (c.cell a).clashes (c.cell b) = false := by
            simp only [Users.redacted, List.pairwise_map, hco _]
          by_cases hp : x.rows.Pairwise fun a b => (c.cell a).clashes (c.cell b) = false
          · simp only [if_pos hp, if_pos (hpairs.mpr hp)]
            refine ⟨rfl, ?_⟩
            intro y hy
            cases hy
            exact ⟨List.forall_mem_cons.mpr ⟨hco, hx.indexes⟩, hx.guards⟩
          · simp only [if_neg hp, if_neg (mt hpairs.mp hp)]
            exact ⟨rfl, fun _ hy => by cases hy⟩
    · exact redacts_write ht

theorem redacts_addGuard (t : Relation) (change : Change) (reason : String)
    {only : Option (String × Cell)}
    (h : t = .user → ∀ column v, only = some (column, v) → column ≠ "Password") :
    Redacts (Direct.addGuard t change reason only) (Direct.addGuard t change reason only) := by
  refine (redacts_requireMain t).bind fun _ => Redacts.bind ?_ fun _ => ?_
  · apply redacts_read
    intro s
    rcases s.table_redacted_cases t with ⟨hx, hy⟩ | ⟨x, y, hx, hy, -, hguards⟩
    · rw [require, require, hx, hy]
    · rw [require_eq_ok.mpr hx, require_eq_ok.mpr hy]
      change (if y.guards.any _ then _ else _) = if x.guards.any _ then _ else _
      rw [hguards]
  · by_cases ht : t = .user
    · subst ht
      apply redacts_write_user
      intro x hx
      rcases only with _ | ⟨column, v⟩
      · refine ⟨rfl, ?_⟩
        intro y hy
        cases hy
        refine ⟨hx.indexes, List.forall_mem_cons.mpr ⟨?_, hx.guards⟩⟩
        simp
      · simp only [Option.mapM_some]
        cases hc : Relation.user.schema.column? column with
        | none => exact ⟨rfl, fun _ hy => by cases hy⟩
        | some c =>
            have hco := overlooks_of_column? hc (h rfl column v rfl)
            refine ⟨rfl, ?_⟩
            intro y hy
            cases hy
            refine ⟨hx.indexes, List.forall_mem_cons.mpr ⟨?_, hx.guards⟩⟩
            intro c' v' hsome
            cases hsome
            exact hco
    · exact redacts_write ht

theorem redacts_removeGuard (t : Relation) (change : Change) :
    Redacts (Direct.removeGuard t change) (Direct.removeGuard t change) := by
  refine Redacts.bind ?_ fun _ => ?_
  · apply redacts_read
    intro s
    rcases s.table_redacted_cases t with ⟨hx, hy⟩ | ⟨x, y, hx, hy, -, hguards⟩
    · rw [hx, hy]
    · rw [hx, hy, Option.map_some, Option.map_some, hguards]
  · by_cases ht : t = .user
    · subst ht
      apply redacts_write_user
      intro x hx
      refine ⟨rfl, ?_⟩
      intro y hy
      cases hy
      exact ⟨hx.indexes, fun g hg => hx.guards g (List.mem_of_mem_filter hg)⟩
    · exact redacts_write ht

theorem redacts_of_isRefusal {t : Task} (h : t.isRefusal) (ho : t.overlooksPasswords) :
    Redacts t.run t.run := by
  cases t with
  | addIndex t column =>
      refine Redacts.map (redacts_addIndex t ?_)
      rintro rfl
      simpa [overlooksPasswords] using ho
  | addGuard t change reason only =>
      refine Redacts.map (redacts_addGuard t change reason ?_)
      rintro rfl column v rfl
      simpa [overlooksPasswords] using ho
  | removeGuard t change => exact (redacts_removeGuard t change).map
  | _ => cases h

end Task

namespace Move

def redacted : Move → Move
  | request a r => request a r.redacted
  | m => m

def overlooksPasswords : Move → Bool
  | refuse _ t _ => t.overlooksPasswords
  | _ => true

def isLogin : Move → Bool
  | request _ r => r.isLogin
  | _ => false

/-- What a caller gets to see of a move: the result, the events, and the request as the call left
it. -/
structure Observation where
  result : Except Fault Answer
  log : List Event
  request? : Option Request

def left? : Move → Except Fault Answer → Option Request
  | request _ r, y => some (r.after y).redacted
  | _, _ => none

def seen? (m : Move) (s : Store) : Option Observation :=
  let o := m.run s
  if m.isLogin then none else some ⟨o.result, o.log, m.left? o.result⟩

theorem isLogin_redacted (m : Move) : m.redacted.isLogin = m.isLogin := by
  cases m with
  | request a r => exact r.isLogin_redacted
  | _ => rfl

theorem left?_redacted (m : Move) (y : Except Fault Answer) : m.redacted.left? y = m.left? y := by
  cases m with
  | request a r => exact congrArg some (r.after_redacted y)
  | _ => rfl

theorem run_redacted {m : Move} (hm : m.overlooksPasswords) (hlogin : m.isLogin = false)
    {s : Store} (hs : s.Overlooks) :
    m.redacted.run s.redacted = (m.run s).redacted ∧ (m.run s).store.Overlooks := by
  cases m with
  | request a r => exact Request.redacts_run hlogin a s hs
  | reopen a =>
      have hreopening : Redacts Book.reopening Book.reopening :=
        Book.redacts_createTables.bind fun _ => redacts_pure
      exact hreopening a s hs
  | refuse a t h => exact Task.redacts_of_isRefusal h hm a s hs

theorem store_of_isLogin {m : Move} (h : m.isLogin) (s : Store) : (m.run s).store = s := by
  cases m with
  | request a r => exact Request.leavesStore_of_isQuery (Request.isQuery_of_isLogin h) a s
  | _ => cases h

theorem seen?_redacted {m : Move} (hm : m.overlooksPasswords) {s : Store} (hs : s.Overlooks) :
    m.redacted.seen? s.redacted = m.seen? s ∧
      (m.redacted.run s.redacted).store = (m.run s).store.redacted ∧ (m.run s).store.Overlooks := by
  have hsame := m.isLogin_redacted
  cases hlogin : m.isLogin with
  | true =>
      rw [hlogin] at hsame
      rw [seen?, seen?, store_of_isLogin hlogin, store_of_isLogin hsame, hlogin, hsame]
      exact ⟨rfl, rfl, hs⟩
  | false =>
      rw [hlogin] at hsame
      obtain ⟨hrun, hs'⟩ := run_redacted hm hlogin hs
      rw [seen?, seen?, hrun, hlogin, hsame, left?_redacted]
      exact ⟨rfl, rfl, hs'⟩

end Move

namespace History

def redacted : History → History
  | fresh => fresh
  | next h m => next h.redacted m.redacted

def overlooksPasswords : History → Bool
  | fresh => true
  | next h m => h.overlooksPasswords && m.overlooksPasswords

def observations : History → List (Option Move.Observation)
  | fresh => []
  | next h m => h.observations ++ [m.seen? h.store]

theorem redacted_run {h : History} (ho : h.overlooksPasswords) :
    h.redacted.observations = h.observations ∧ h.redacted.store = h.store.redacted ∧
      h.store.Overlooks := by
  induction h with
  | fresh =>
      refine ⟨rfl, rfl, ?_⟩
      intro t ht
      cases ht
      exact Users.overlooks_empty
  | next h m ih =>
      rw [overlooksPasswords, Bool.and_eq_true] at ho
      obtain ⟨hobservations, hstore, hs⟩ := ih ho.1
      obtain ⟨hseen, hnext, hs'⟩ := Move.seen?_redacted ho.2 hs
      refine ⟨?_, ?_, hs'⟩
      · change h.redacted.observations ++ [m.redacted.seen? h.redacted.store] = _
        rw [hobservations, hstore, hseen]
        rfl
      · change (m.redacted.run h.redacted.store).store = _
        rw [hstore, hnext]
        rfl

theorem overlooksPasswords_redacted (h : History) :
    h.redacted.overlooksPasswords = h.overlooksPasswords := by
  induction h with
  | fresh => rfl
  | next h m ih =>
      rw [redacted, overlooksPasswords, overlooksPasswords, ih]
      cases m <;> rfl

/-- Two runs of the same operations that differ in nothing but the passwords they are given look the
same, except for what logins answer and report, and leave stores that differ in nothing but the
passwords they hold. -/
theorem observations_eq_of_redacted_eq (h h' : History) (heq : h.redacted = h'.redacted)
    (ho : h.overlooksPasswords) :
    h.observations = h'.observations ∧ h.store.redacted = h'.store.redacted := by
  have ho' : h'.overlooksPasswords := by
    rwa [← overlooksPasswords_redacted, ← heq, overlooksPasswords_redacted]
  obtain ⟨hobservations, hstore, -⟩ := redacted_run ho
  obtain ⟨hobservations', hstore', -⟩ := redacted_run ho'
  rw [← hobservations, ← hstore, heq, hobservations', hstore']
  exact ⟨rfl, rfl⟩

/-- A user gets a password and tries another one to log in. Then a submission of that user is turned
down, and one more user gets the same password. -/
def guarded (password : String) : History :=
  let t := Time.Instant.inFirstHour 60 0
  let u : User := ⟨noId, "ann", "Ann", "Lee"⟩
  [.request .readWrite (.storeUser u password),
    .request .readWrite (.checkLogin "ann" "first"),
    .refuse .readWrite (.addGuard .user .update "no change" (some ("Username", .text "ann"))) rfl,
    .request .readWrite (.submit ⟨noId, u, ⟨7, "Sums", t, []⟩, t, []⟩),
    .request .readWrite (.storeUser { u with username := "bob" } password)].foldl next fresh

theorem observations_eq_guarded :
    (guarded "first").redacted = (guarded "second").redacted ∧
      (guarded "first").overlooksPasswords ∧
      (Book.checkLogin "ann" "first" .readWrite (guarded "first").store).result.toOption =
        some true ∧
      (Book.checkLogin "ann" "first" .readWrite (guarded "second").store).result.toOption =
        some false ∧
      (guarded "first").observations = (guarded "second").observations ∧
      (guarded "first").store.redacted = (guarded "second").store.redacted :=
  ⟨rfl, rfl, by decide +kernel, by decide +kernel,
    observations_eq_of_redacted_eq (guarded "first") (guarded "second") rfl rfl⟩

end History

end Markbook
