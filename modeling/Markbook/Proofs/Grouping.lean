import Markbook.Records.Exercises

namespace Markbook.Exercises

open Time

variable {m : QuestionMap} {questions : List ReadQuestion} {exercises : List ReadExercise}
  {checked : List (Int × Question)}

def checkExercise (checked : List (Int × Question)) (e : ReadExercise) : Except Fault Exercise := do
  return ⟨e.id, e.name, ← Instant.ofStored e.due, (checked.filter (·.1 == e.id)).map (·.2)⟩

namespace QuestionMap

theorem questionsOf_push (m : QuestionMap) (k id : Int) (q : Question) :
    questionsOf (push k q m) id = m.questionsOf id ++ if k = id then [q] else [] := by
  induction m with
  | nil =>
      by_cases h : k = id
      · simp [push, questionsOf, h]
      · simp [push, questionsOf, h, List.lookup_cons, beq_eq_false_iff_ne.mpr (Ne.symm h)]
  | cons x m ih =>
      obtain ⟨j, qs⟩ := x
      simp only [push, questionsOf] at ih ⊢
      by_cases hj : id = j
      · -- The question is pushed here or not at all.
        subst hj
        by_cases h : k = id
        · simp [h]
        · simp [h, Ne.symm h]
      · have hne : (id == j) = false := beq_eq_false_iff_ne.mpr hj
        split
        next hk =>
            subst hk
            simp [List.lookup_cons, hne, Ne.symm hj]
        next => simpa [List.lookup_cons, hne] using ih

theorem questionsOf_remove_of_ne {k id : Int} (h : id ≠ k) (m : QuestionMap) :
    (m.remove k).questionsOf id = m.questionsOf id := by
  induction m with
  | nil => rfl
  | cons x m ih =>
      obtain ⟨j, qs⟩ := x
      simp only [remove, questionsOf] at ih ⊢
      by_cases hj : j = k
      · have hne : (id == j) = false := beq_eq_false_iff_ne.mpr (hj ▸ h)
        simpa [hj, List.lookup_cons, hj ▸ hne] using ih
      · simp only [List.filter_cons, bne_iff_ne, ne_eq, hj, not_false_eq_true, if_true,
          List.lookup_cons]
        split
        next => rfl
        next => exact ih

end QuestionMap

theorem questionsOf_foldl_push (checked : List (Int × Question)) (m : QuestionMap) (id : Int) :
    (checked.foldl (fun m x => m.push x.1 x.2) m).questionsOf id =
      m.questionsOf id ++ (checked.filter (·.1 == id)).map (·.2) := by
  induction checked generalizing m with
  | nil => simp
  | cons x checked ih =>
      rw [List.foldl_cons, ih, QuestionMap.questionsOf_push, List.append_assoc, List.filter_cons]
      by_cases h : x.1 = id
      · simp [h]
      · simp [h]

theorem fill_eq (m : QuestionMap) (questions : List ReadQuestion) :
    fill m questions = (questions.mapM checkQuestion).map
      fun checked => checked.foldl (fun m x => m.push x.1 x.2) m := by
  induction questions generalizing m with
  | nil => rfl
  | cons q questions ih =>
      rw [fill, List.mapM_cons]
      cases checkQuestion q with
      | error e => rfl
      | ok x =>
          change fill (m.push x.1 x.2) questions = _
          rw [ih]
          cases questions.mapM checkQuestion <;> rfl

/-- While no exercise comes twice, it makes no difference that questions are taken out. -/
theorem drain_eq (hids : (exercises.map (·.id)).Nodup)
    (hm : ∀ e ∈ exercises, m.questionsOf e.id = (checked.filter (·.1 == e.id)).map (·.2)) :
    drain m exercises = exercises.mapM (checkExercise checked) := by
  induction exercises generalizing m with
  | nil => rfl
  | cons e exercises ih =>
      obtain ⟨hnew, hids⟩ := List.nodup_cons.mp hids
      have hrest : drain (m.remove e.id) exercises = exercises.mapM (checkExercise checked) := by
        refine ih hids fun e' he' => ?_
        have hne : e'.id ≠ e.id := fun heq => hnew (List.mem_map.mpr ⟨e', he', heq⟩)
        rw [QuestionMap.questionsOf_remove_of_ne hne]
        exact hm e' (List.mem_cons_of_mem e he')
      rw [drain, hrest, List.mapM_cons, checkExercise, hm e List.mem_cons_self]
      cases Instant.ofStored e.due <;> rfl

/-- Filling the map and draining it comes to the same as looking for the questions of each exercise
by itself, in what is told of all that is wrong as well. -/
theorem drain_fill (hids : (exercises.map (·.id)).Nodup) (questions : List ReadQuestion) :
    (do drain (← fill [] questions) exercises) = (do
      let checked ← questions.mapM checkQuestion
      exercises.mapM (checkExercise checked)) := by
  rw [fill_eq]
  cases questions.mapM checkQuestion with
  | error e => rfl
  | ok checked =>
      refine drain_eq hids fun e _ => ?_
      rw [questionsOf_foldl_push]
      rfl

end Markbook.Exercises
