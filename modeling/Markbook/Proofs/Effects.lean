import Markbook.Proofs.Lending
import Markbook.Proofs.Statements
import Markbook.Request

namespace Markbook

open Store Work

variable {a : Access} {s s' : Store}

namespace Book

structure Enrolled (u : User) (password : String) (id : Int) (users : List UserRow) (s s' : Store) :
    Prop where
  table : (s.table .user).isSome
  settled : Users.Settled u (fun _ => some password) (s.rows .user) id users
  store_eq : s' = s.withRows .user users

structure Registered (e : Exercise) (s s' : Store) : Prop where
  table : (s.table .exercise).isSome
  questionTable : e.questions = [] ∨ (s.table .question).isSome
  unknown : ∀ r ∈ s.rows .exercise, r.id ≠ e.id
  store_eq : s' =
    (s.withRows .exercise (s.rows .exercise ++ [Exercises.rowOf e])).withRows .question
    (s.rows .question ++ (numbered e.questions).map (Exercises.questionRowOf e.id))

/-- A submission was recorded under the ids in `r`, by a user who is now among `users`. -/
structure Recorded (x : Submission) (r : Stored) (users : List UserRow) (s s' : Store) : Prop where
  userTable : (s.table .user).isSome
  table : (s.table .submission).isSome
  gradeTable : (s.table .grade).isSome
  settled : Users.Settled x.user id (s.rows .user) r.user users
  id_eq : r.submission =
    if x.isStored then x.id else nextAfter ((s.rows .submission).map (·.id))
  replaced_eq : r.replaced = ((s.rows .grade).filter (Submissions.belongsTo r.submission)).length
  store_eq : s' = ((s.withRows .user users).withRows .submission
    (Submissions.setRow ⟨r.submission, .int r.user, .int x.exercise.id, .int x.time.toMillis⟩
      (s.rows .submission))).withRows .grade
    (Submissions.regraded r.submission x.grades (s.rows .grade))

section

variable {u : User} {password : String} {id : Int} {users : List UserRow} {e : Exercise}
  {x : Submission} {r : Stored}

theorem Enrolled.rows_user (h : Enrolled u password id users s s') : s'.rows .user = users := by
  rw [h.store_eq, rows_withRows_self h.table]

theorem Enrolled.rows_of_ne (h : Enrolled u password id users s s') {t : Relation}
    (ht : t ≠ .user) : s'.rows t = s.rows t := by
  rw [h.store_eq, rows_withRows_of_ne ht]

theorem Registered.rows_exercise (h : Registered e s s') :
    s'.rows .exercise = s.rows .exercise ++ [Exercises.rowOf e] := by
  rw [h.store_eq, rows_withRows_of_ne (by decide), rows_withRows_self h.table]

theorem Registered.rows_question (h : Registered e s s') :
    s'.rows .question =
      s.rows .question ++ (numbered e.questions).map (Exercises.questionRowOf e.id) := by
  rw [h.store_eq]
  rcases h.questionTable with hq | ht
  · have hrows := rows_withRows_of_ne (s := s) (t := .exercise) (u := .question) (by decide)
      (s.rows .exercise ++ [Exercises.rowOf e])
    have hnil : (numbered e.questions).map (Exercises.questionRowOf e.id) = [] := by
      simp [hq, numbered]
    rw [hnil, List.append_nil, ← hrows, withRows_rows]
  · rw [rows_withRows_self (by rwa [isSome_table_withRows])]

theorem Registered.rows_of_ne (h : Registered e s s') {t : Relation} (he : t ≠ .exercise)
    (hq : t ≠ .question) : s'.rows t = s.rows t := by
  rw [h.store_eq, rows_withRows_of_ne hq, rows_withRows_of_ne he]

theorem Recorded.rows_user (h : Recorded x r users s s') : s'.rows .user = users := by
  rw [h.store_eq, rows_withRows_of_ne (by decide), rows_withRows_of_ne (by decide),
    rows_withRows_self h.userTable]

theorem Recorded.rows_submission (h : Recorded x r users s s') :
    s'.rows .submission =
      Submissions.setRow ⟨r.submission, .int r.user, .int x.exercise.id, .int x.time.toMillis⟩
        (s.rows .submission) := by
  rw [h.store_eq, rows_withRows_of_ne (by decide),
    rows_withRows_self (by rw [isSome_table_withRows]; exact h.table)]

theorem Recorded.rows_grade (h : Recorded x r users s s') :
    s'.rows .grade = Submissions.regraded r.submission x.grades (s.rows .grade) := by
  rw [h.store_eq, rows_withRows_self]
  rw [isSome_table_withRows, isSome_table_withRows]
  exact h.gradeTable

theorem Recorded.rows_of_ne (h : Recorded x r users s s') {t : Relation} (hu : t ≠ .user)
    (hs : t ≠ .submission) (hg : t ≠ .grade) : s'.rows t = s.rows t := by
  rw [h.store_eq, rows_withRows_of_ne hg, rows_withRows_of_ne hs, rows_withRows_of_ne hu]

theorem Recorded.id_of_isStored (h : Recorded x r users s s') (hx : x.isStored) :
    r.submission = x.id := by
  rw [h.id_eq, if_pos hx]

end

theorem checkName_eq_ok {u : User} {v : Unit} : checkName u = .ok v ↔ u.username ≠ "" := by
  have hlength : u.hasName = true ↔ u.username ≠ "" := by
    rw [Ne, ← String.length_eq_zero_iff]
    simp only [User.hasName, decide_eq_true_eq]
    rw [leastNameLength]
    omega
  rw [← hlength, checkName]
  split <;> simp_all

theorem checkGrades_eq_ok {x : Submission} {v : Unit} :
    x.checkGrades = .ok v ↔ x.grades.length = x.exercise.size := by
  rw [Submission.checkGrades]
  split <;> simp_all

theorem enrolled_of_gives {u v : User} {password : String}
    (h : Gives (storeUser u password) a s v s') :
    u.username ≠ "" ∧ ∃ id users, Enrolled u password id users s s' ∧ v = { u with id } := by
  rw [storeUser_eq] at h
  simp only [gives_bind, gives_ofExcept, gives_transaction, gives_report, gives_pure,
    checkName_eq_ok, Users.enrol_eq_settle] at h
  obtain ⟨_, _, ⟨hn, rfl⟩, id, _, ⟨-, hid⟩, _, _, rfl, rfl, rfl⟩ := h
  obtain ⟨ht, rows, hrows, rfl⟩ := Users.settled_of_gives hid
  exact ⟨hn, id, rows, ⟨ht, hrows, rfl⟩, rfl⟩

theorem registered_of_gives {e : Exercise} {r : Registration}
    (h : Gives (register e) a s r s') :
    (r = .alreadyExists ∧ s' = s) ∨ (r = .added e.id ∧ Registered e s s') := by
  rw [register] at h
  obtain ⟨r₁, s₁, hr, h⟩ := gives_bind.mp h
  have hend : r₁ = r ∧ s₁ = s' := by
    split at h <;> simpa [gives_bind, gives_report, gives_pure] using h
  obtain ⟨rfl, rfl⟩ := hend
  replace hr := (gives_transaction.mp hr).2
  rw [enter] at hr
  obtain ⟨known, s₂, hk, hr⟩ := gives_bind.mp hr
  obtain ⟨-, ht, rfl, rfl⟩ := Exercises.gives_isRegistered.mp hk
  by_cases hknown : (s.rows .exercise).any (·.id == e.id)
  · rw [if_pos hknown] at hr
    simp only [gives_bind, gives_report, gives_pure] at hr
    obtain ⟨_, _, rfl, rfl, rfl⟩ := hr
    exact .inl ⟨rfl, rfl⟩
  · rw [if_neg hknown] at hr
    obtain ⟨result, s₂, hi, hr⟩ := gives_bind.mp hr
    obtain ⟨hresult, rfl⟩ := gives_attempt.mp hi
    split at hr
    next =>
      simp only [gives_bind, gives_mapFault, gives_pure] at hr
      obtain ⟨_, _, hq, rfl, rfl⟩ := hr
      have hrow := Exercises.withRows_of_gives_insert ⟨hresult, rfl⟩
      rw [← hrow] at hq
      obtain ⟨hqt, hq⟩ := Exercises.withRows_of_gives_addQuestions hq
      rw [rows_withRows_of_ne (by decide)] at hq
      rw [isSome_table_withRows] at hqt
      refine .inr ⟨rfl, ht, hqt, ?_, hq.symm⟩
      intro r hr hid
      exact hknown (List.any_eq_true.mpr ⟨r, hr, by simpa using hid⟩)
    next =>
      simp only [gives_bind, gives_report, gives_pure] at hr
      obtain ⟨_, _, rfl, rfl, rfl⟩ := hr
      -- The exercise is found to be there only now; the write that noticed it did nothing.
      exact .inl ⟨rfl, restores_write _ _ _ hresult⟩
    next => exact absurd hr gives_fail

theorem setRow_of_generated {r : SubmissionRow} {rows : List SubmissionRow}
    (h : r.id = nextAfter (rows.map (·.id))) : Submissions.setRow r rows = rows ++ [r] := by
  rw [Submissions.setRow]
  rw [if_neg]
  intro hany
  obtain ⟨x, hx, hid⟩ := List.any_eq_true.mp hany
  have hlt := lt_nextAfter (List.mem_map_of_mem hx (f := (·.id)))
  simp only [beq_iff_eq] at hid
  omega

theorem recorded_of_gives {x : Submission} {r : Stored} (h : Gives (record x) a s r s') :
    ∃ users, Recorded x r users s s' := by
  rw [record] at h
  rw [Users.identify_eq_settle] at h
  obtain ⟨user, s₁, hu, h⟩ := gives_bind.mp h
  obtain ⟨hut, users, husers, rfl⟩ := Users.settled_of_gives hu
  -- Under an id of its own or a generated one, the submission ends up as one row with that id.
  have hput : ∃ id, (s.table .submission).isSome ∧
      (id = if x.isStored then x.id else nextAfter ((s.rows .submission).map (·.id))) ∧
      Gives (do
        let replaced ← Submissions.clearGrades id
        Submissions.addGrades id x.grades
        return (⟨user, id, replaced⟩ : Stored)) a
        ((s.withRows .user users).withRows .submission (Submissions.setRow
          ⟨id, .int user, .int x.exercise.id, .int x.time.toMillis⟩ (s.rows .submission))) r
        s' := by
    have hrows := rows_withRows_of_ne (s := s) (t := .user) (u := .submission) (by decide) users
    by_cases hx : x.isStored
    · rw [if_pos hx] at h
      obtain ⟨_, s₂, hp, h⟩ := gives_bind.mp h
      obtain ⟨id, s₃, hid, h⟩ := gives_bind.mp h
      obtain ⟨rfl, rfl⟩ := gives_pure.mp hid
      obtain ⟨ht, rfl⟩ := Submissions.withRows_of_gives_put hp
      rw [hrows] at h
      exact ⟨x.id, by rwa [isSome_table_withRows] at ht, by simp [hx], h⟩
    · rw [if_neg hx] at h
      obtain ⟨id, s₂, hi, h⟩ := gives_bind.mp h
      obtain ⟨ht, hid, rfl⟩ := Submissions.withRows_of_gives_insert hi
      rw [hrows] at hid h
      rw [← setRow_of_generated hid] at h
      exact ⟨id, by rwa [isSome_table_withRows] at ht, by simpa [hx] using hid, h⟩
  obtain ⟨id, ht, hid, h⟩ := hput
  simp only [gives_bind, gives_pure] at h
  obtain ⟨n, s₃, hclear, _, s₄, hadd, rfl, rfl⟩ := h
  obtain ⟨hgt, rfl, rfl⟩ := Submissions.withRows_of_gives_clearGrades hclear
  have hs₄ := Submissions.withRows_of_gives_addGrades hadd
  rw [rows_withRows_self hgt, withRows_withRows, rows_withRows_of_ne (by decide),
    rows_withRows_of_ne (by decide)] at hs₄
  rw [isSome_table_withRows, isSome_table_withRows] at hgt
  refine ⟨users, hut, ht, hgt, husers, hid, ?_, hs₄.symm⟩
  rw [rows_withRows_of_ne (by decide), rows_withRows_of_ne (by decide)]

theorem submitted_of_gives {x y : Submission} (h : Gives (submit x) a s y s') :
    x.user.username ≠ "" ∧ x.grades.length = x.exercise.size ∧ ∃ r users, Recorded x r users s s' ∧
      y = { x with id := r.submission, user := { x.user with id := r.user } } := by
  rw [submit_eq] at h
  simp only [gives_bind, gives_ofExcept, gives_transaction, checkGrades_eq_ok, checkName_eq_ok] at h
  obtain ⟨_, _, ⟨hc, rfl⟩, _, _, ⟨hn, rfl⟩, r, s₁, ⟨-, hrecord⟩, h⟩ := h
  have hend : { x with id := r.submission, user := { x.user with id := r.user } } = y ∧
      s₁ = s' := by
    split at h <;> simpa [gives_bind, gives_report, gives_pure] using h
  obtain ⟨rfl, rfl⟩ := hend
  obtain ⟨users, husers⟩ := recorded_of_gives hrecord
  exact ⟨hn, hc, r, users, husers, rfl⟩

end Book

namespace Request

def isQuery : Request → Bool
  | storeUser .. | register _ | submit _ => false
  | _ => true

theorem leavesStore_topSubmission (ranking : Ranking) (u : User) (e : Exercise) :
    LeavesStore (Book.topSubmission ranking u e) := by
  refine leavesStore_read.bind ?_
  intro winner
  cases winner with
  | none => exact leavesStore_report.bind fun _ => leavesStore_pure
  | some winner =>
      exact leavesStore_read.bind fun _ => leavesStore_ofExcept.bind fun _ => leavesStore_pure

theorem leavesStore_of_isQuery {r : Request} (h : r.isQuery) : LeavesStore r.run := by
  cases r with
  | storeUser u password => cases h
  | register e => cases h
  | submit x => cases h
  | checkLogin username password =>
      refine (leavesStore_read.bind fun stored => ?_).map
      dsimp only
      split
      · exact leavesStore_report.bind fun _ => leavesStore_pure
      · exact leavesStore_pure
  | findUser username => exact leavesStore_read.map
  | catalogue =>
      refine LeavesStore.map (LeavesStore.bind ?_ fun _ =>
        leavesStore_report.bind fun _ => leavesStore_pure)
      exact leavesStore_read.bind fun _ => leavesStore_read.bind fun _ => leavesStore_ofExcept
  | catalogueSize => exact (leavesStore_read.bind fun _ => leavesStore_pure).map
  | topSubmission ranking u e => exact (leavesStore_topSubmission ranking u e).map
  | gradeCount id => exact (leavesStore_read.bind fun _ => leavesStore_pure).map

/-- All that a request can have done when it ends well with the answer and the store at the end. -/
inductive Effect (s : Store) : Request → Answer → Store → Prop
  | enrolled {u : User} {password : String} {id : Int} {users : List UserRow} {s' : Store}
      (hn : u.username ≠ "") (h : Book.Enrolled u password id users s s') :
      Effect s (.storeUser u password) (.storedUser { u with id }) s'
  | registered {e : Exercise} {s' : Store} (h : Book.Registered e s s') :
      Effect s (.register e) (.registration (.added e.id)) s'
  | known {e : Exercise} : Effect s (.register e) (.registration .alreadyExists) s
  | submitted {x : Submission} {r : Book.Stored} {users : List UserRow} {s' : Store}
      (hn : x.user.username ≠ "") (hc : x.grades.length = x.exercise.size)
      (h : Book.Recorded x r users s s') :
      Effect s (.submit x)
        (.storedSubmission { x with id := r.submission, user := { x.user with id := r.user } }) s'
  | asked {r : Request} {y : Answer} (h : r.isQuery) : Effect s r y s

theorem effect_of_gives {r : Request} {y : Answer} (h : Gives r.run a s y s') :
    Effect s r y s' := by
  by_cases hq : r.isQuery
  · obtain rfl : s = s' := (leavesStore_of_isQuery hq a s).symm.trans h.2
    exact .asked hq
  · cases r with
    | storeUser u password =>
        obtain ⟨v, hw, rfl⟩ := gives_map.mp h
        obtain ⟨hn, id, users, hu, rfl⟩ := Book.enrolled_of_gives hw
        exact .enrolled hn hu
    | register e =>
        obtain ⟨r, hw, rfl⟩ := gives_map.mp h
        rcases Book.registered_of_gives hw with ⟨rfl, rfl⟩ | ⟨rfl, he⟩
        · exact .known
        · exact .registered he
    | submit x =>
        obtain ⟨y, hw, rfl⟩ := gives_map.mp h
        obtain ⟨hn, hc, r, users, hx, rfl⟩ := Book.submitted_of_gives hw
        exact .submitted hn hc hx
    | _ => exact absurd rfl hq

end Request

end Markbook
