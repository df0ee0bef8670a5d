import Markbook.Model.Form
import Markbook.Proofs.Catalogue
import Markbook.Proofs.Stamps

namespace Markbook

open Time

theorem mapM_map_of_some {α β : Type} {f : α → β} {g : β → Option α} (h : ∀ x, g (f x) = some x)
    (xs : List α) : (xs.map f).mapM g = some xs := by
  have hcomp : g ∘ f = pure := by
    funext x
    exact h x
  rw [List.mapM_map, hcomp, List.mapM_pure, List.map_id']
  rfl

namespace Document

theorem lookup_of_mem {fields : List (String × Document)} (hnames : (fields.map (·.1)).Nodup)
    {name : String} {d : Document} (h : (name, d) ∈ fields) : fields.lookup name = some d := by
  induction fields with
  | nil => cases h
  | cons field fields ih =>
      obtain ⟨hfield, hfields⟩ := List.nodup_cons.mp hnames
      rcases List.mem_cons.mp h with rfl | h
      · simp
      · have hne : name ≠ field.1 := by
          intro hname
          exact hfield (List.mem_map.mpr ⟨(name, d), h, hname⟩)
        rw [List.lookup_cons, beq_false_of_ne hne]
        exact ih hfields h

theorem field?_of_mem {fields : List (String × Document)} (hnames : (fields.map (·.1)).Nodup)
    {name : String} {d : Document} (h : (name, d) ∈ fields) : field? fields name = some d := by
  refine lookup_of_mem ?_ (List.mem_reverse.mpr h)
  rwa [List.map_reverse, List.nodup_reverse]

theorem fields?_object {fields : List (String × Document)} (hnames : (fields.map (·.1)).Nodup) :
    (object fields).fields? (fields.map (·.1)) = some (fields.map (·.2)) := by
  have hpart (part : List (String × Document)) (hsub : part ⊆ fields) :
      (part.map (·.1)).mapM (field? fields) = some (part.map (·.2)) := by
    induction part with
    | nil => rfl
    | cons field part ih =>
        obtain ⟨hfield, hpart⟩ := List.cons_subset.mp hsub
        rw [List.map_cons, List.mapM_cons, field?_of_mem hnames hfield, ih hpart]
        rfl
  exact hpart fields (List.Subset.refl fields)

end Document

theorem idOfForm?_int {n : Int} (h : isInt64 n) : idOfForm? (.int n) = some n :=
  if_pos h

theorem timeOfForm?_stamp (t : Instant) : timeOfForm? (.text t.stamp) = some t.carried := by
  rw [timeOfForm?, Document.text?, Option.bind_eq_bind, Option.bind_some, t.ofStamp?_stamp]

theorem User.ofForm?_toForm {u : User} (h : isInt64 u.id) : ofForm? u.toForm = some u := by
  have hfields : u.toForm.fields? ["id", "username", "firstname", "lastname"] =
      some [.int u.id, .text u.username, .text u.firstname, .text u.lastname] :=
    Document.fields?_object (by simp)
  rw [ofForm?, hfields]
  simp only [Option.bind_eq_bind, Option.bind_some, idOfForm?_int h, Document.text?]
  rfl

theorem Question.pointsOfForm?_int (n : UInt32) : pointsOfForm? (.int n.toNat) = some n := by
  rw [pointsOfForm?, Document.int?, Option.bind_eq_bind, Option.bind_some, Exercises.word32?_toNat]

theorem Question.ofForm?_of_fields? {d name description points : Document}
    (h : d.fields? ["name", "description", "points"] = some [name, description, points]) :
    ofForm? d = do
      return ⟨← name.text?, ← description.text?, ← pointsOfForm? points⟩ := by
  rw [ofForm?, h]
  rfl

theorem Question.ofForm?_toForm (q : Question) : ofForm? q.toForm = some q := by
  have hfields : q.toForm.fields? ["name", "description", "points"] =
      some [.text q.name, .text q.description, .int q.points.toNat] :=
    Document.fields?_object (by simp)
  rw [ofForm?_of_fields? hfields, pointsOfForm?_int]
  rfl

theorem Exercise.ofForm?_toForm {e : Exercise} (h : isInt64 e.id) :
    ofForm? e.toForm = some { e with due := e.due.carried } := by
  have hfields : e.toForm.fields? ["id", "name", "due_date", "questions"] =
      some [.int e.id, .text e.name, .text e.due.stamp,
        .list (e.questions.map Question.toForm)] :=
    Document.fields?_object (by simp)
  rw [ofForm?, hfields]
  simp only [Option.bind_eq_bind, Option.bind_some, idOfForm?_int h, Document.text?,
    timeOfForm?_stamp, Document.list?, mapM_map_of_some Question.ofForm?_toForm]
  rfl

theorem Submission.ofForm?_toForm {x : Submission} (h : isInt64 x.id) (hu : isInt64 x.user.id)
    (he : isInt64 x.exercise.id) :
    ofForm? x.toForm = some
      { x with
        exercise := { x.exercise with due := x.exercise.due.carried }
        time := x.time.carried } := by
  have hfields : x.toForm.fields? ["id", "user", "exercise", "submission_time", "question_grades"] =
      some [.int x.id, x.user.toForm, x.exercise.toForm, .text x.time.stamp,
        .list (x.grades.map .real)] :=
    Document.fields?_object (by simp)
  have hgrade (g : Float) : (Document.real g).real? = some g := rfl
  rw [ofForm?, hfields]
  simp only [Option.bind_eq_bind, Option.bind_some, idOfForm?_int h, User.ofForm?_toForm hu,
    Exercise.ofForm?_toForm he, timeOfForm?_stamp, Document.list?,
    mapM_map_of_some hgrade]
  rfl

/-- Every model is read back from its form, whatever its texts, points and grades are, and with all
its times but those in a leap second that does not end a minute. Such a time is read back as the one
in the next second that has the same nanoseconds since the epoch. Only ids have a range: those of 64
bits with a sign. -/
theorem forms_read_back :
    (∀ u : User, isInt64 u.id → User.ofForm? u.toForm = some u) ∧
      (∀ e : Exercise, isInt64 e.id →
        Exercise.ofForm? e.toForm = some { e with due := e.due.carried } ∧
        (Exercise.ofForm? e.toForm = some e ↔ (e.due.isLeap → e.due.second % 60 = 59))) ∧
      (∀ x : Submission, isInt64 x.id → isInt64 x.user.id → isInt64 x.exercise.id →
        Submission.ofForm? x.toForm = some
          { x with
            exercise := { x.exercise with due := x.exercise.due.carried }
            time := x.time.carried } ∧
        (Submission.ofForm? x.toForm = some x ↔
          (x.exercise.due.isLeap → x.exercise.due.second % 60 = 59) ∧
          (x.time.isLeap → x.time.second % 60 = 59))) ∧
      ∀ t : Instant, t.carried.nanos = t.nanos ∧ (t.carried.isLeap → t.carried.second % 60 = 59) := by
  refine ⟨fun _ => User.ofForm?_toForm, ?_, ?_, ?_⟩
  · intro e he
    refine ⟨Exercise.ofForm?_toForm he, ?_⟩
    rw [Exercise.ofForm?_toForm he, Option.some.injEq, ← Instant.carried_eq_self_iff]
    constructor
    · exact fun heq => congrArg Exercise.due heq
    · intro hdue
      rw [hdue]
  · intro x hx hu he
    refine ⟨Submission.ofForm?_toForm hx hu he, ?_⟩
    rw [Submission.ofForm?_toForm hx hu he, Option.some.injEq, ← Instant.carried_eq_self_iff,
      ← Instant.carried_eq_self_iff]
    constructor
    · exact fun heq => ⟨congrArg (fun x => x.exercise.due) heq, congrArg Submission.time heq⟩
    · rintro ⟨hdue, htime⟩
      rw [hdue, htime]
  · exact fun t => ⟨t.nanos_carried, t.second_of_isLeap_carried⟩

theorem forms_read_back_extremes :
    ∃ first last : Instant, first.stamp = "-262143-01-01T00:00:00Z" ∧
      last.stamp = "+262142-12-31T23:59:60.999999999Z" ∧
      let u : User := ⟨2 ^ 63 - 1, "", "", ""⟩
      let e : Exercise := ⟨-2 ^ 63, "Z", last, [⟨"", "", 0⟩, ⟨"", "", 4294967295⟩]⟩
      let x : Submission := ⟨noId, u, e, first, [0.0 / 0.0, -0.0]⟩
      User.ofForm? u.toForm = some u ∧ Exercise.ofForm? e.toForm = some e ∧
        Submission.ofForm? x.toForm = some x := by
  refine ⟨⟨firstSecond, 0, by decide, by decide, by decide⟩,
    ⟨lastSecond, 2 * secondNanos - 1, by decide, by decide, by decide⟩, by decide +kernel,
    by decide +kernel, ?_⟩
  intro u e x
  have hu : isInt64 u.id := by decide
  have he : isInt64 e.id := by decide
  have hx : isInt64 x.id := by decide
  obtain ⟨hreadUser, hreadExercise, hreadSubmission, -⟩ := forms_read_back
  exact ⟨hreadUser u hu, (hreadExercise e he).2.mpr fun _ => by decide,
    (hreadSubmission x hx hu he).2.mpr ⟨fun _ => by decide, fun hleap => absurd hleap (by decide)⟩⟩

def midMinuteLeap : Instant :=
  .inFirstHour 30 1500000000

/-- An exercise that is due then is read back as due half-way through the next second. -/
theorem form_of_midMinuteLeap :
    let e : Exercise := ⟨1, "", midMinuteLeap, []⟩
    isInt64 e.id ∧ e.due.stamp = "1970-01-01T00:00:31.500Z" ∧
      (Exercise.ofForm? e.toForm).map (fun r => (r.due.second, r.due.nano)) =
        some (31, 500000000) ∧
      Exercise.ofForm? e.toForm ≠ some e := by
  intro e
  have hread : (Exercise.ofForm? e.toForm).map (fun r => (r.due.second, r.due.nano)) =
      some (31, 500000000) := by decide +kernel
  refine ⟨by decide, by decide +kernel, hread, ?_⟩
  intro hsame
  rw [hsame] at hread
  exact absurd hread (by decide)

end Markbook
