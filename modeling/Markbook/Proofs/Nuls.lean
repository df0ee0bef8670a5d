import Markbook.EnvFile
import Mathlib.Data.List.TakeWhile

namespace Markbook

@[simp] theorem holdsNul_iff {s : String} : holdsNul s = true ↔ '\x00' ∈ s.toList :=
  List.contains_iff_mem

namespace Text

variable {x sep : Char} {cs : List Char}

theorem trimStart_suffix (cs : List Char) : trimStart cs <:+ cs :=
  List.dropWhile_suffix _

theorem not_mem_trimStart (h : x ∉ cs) : x ∉ trimStart cs :=
  fun hx => h ((trimStart_suffix cs).mem hx)

theorem not_mem_trimEnd (h : x ∉ cs) : x ∉ trimEnd cs := by
  rw [trimEnd, List.mem_reverse]
  exact not_mem_trimStart (List.mem_reverse.not.mpr h)

theorem not_mem_splitAll (h : x ∉ cs) : ∀ piece ∈ splitAll sep cs, x ∉ piece := by
  induction cs with
  | nil => simp [splitAll]
  | cons c cs ih =>
      rw [List.mem_cons, not_or] at h
      have ih := ih h.2
      rw [splitAll]
      split
      · rw [List.forall_mem_cons]
        exact ⟨List.not_mem_nil, ih⟩
      · split
        · simpa using h.1
        next piece pieces heq =>
            rw [heq, List.forall_mem_cons] at ih
            rw [List.forall_mem_cons, List.mem_cons, not_or]
            exact ⟨⟨h.1, ih.1⟩, ih.2⟩

end Text

namespace EnvFile

open Text

variable {x : Char} {cs soFar : List Char} {lines : List (List Char)} {st : Scan}

theorem not_mem_close (hx : x ≠ '\n') (hline : x ∉ cs) (hlines : ∀ line ∈ lines, x ∉ line) :
    ∀ line ∈ physicalLines.close cs lines, x ∉ line := by
  induction lines generalizing cs with
  | nil =>
      rw [physicalLines.close]
      split
      · simp
      · simpa using hline
  | cons next lines ih =>
      rw [List.forall_mem_cons] at hlines
      rw [physicalLines.close, List.forall_mem_cons]
      exact ⟨by simp [hline, hx], ih hlines.1 hlines.2⟩

theorem not_mem_physicalLines (hx : x ≠ '\n') (h : x ∉ cs) :
    ∀ line ∈ physicalLines cs, x ∉ line := by
  have hpieces : ∀ piece ∈ splitAll '\n' cs, x ∉ piece := not_mem_splitAll h
  rw [physicalLines]
  split
  · simp
  next line lines heq =>
      rw [heq, List.forall_mem_cons] at hpieces
      exact not_mem_close hx hpieces.1 hpieces.2

theorem not_mem_scanLine (h : x ∉ cs) : x ∉ (scanLine st cs).1 := by
  induction cs generalizing st with
  | nil => exact h
  | cons c cs ih =>
      rw [List.mem_cons, not_or] at h
      rw [scanLine]
      split
      · exact List.not_mem_nil
      · exact List.mem_cons.not.mpr (not_or.mpr ⟨h.1, ih h.2⟩)

theorem not_mem_dropLineEnd (h : x ∉ cs) : x ∉ dropLineEnd cs := by
  rw [← List.mem_reverse] at h
  rw [dropLineEnd]
  split
  next rest heq =>
      rw [heq] at h
      simp_all
  next rest _ heq =>
      rw [heq] at h
      simp_all
  next => exact List.mem_reverse.not.mp h

theorem not_mem_logicalLines (hsoFar : x ∉ soFar) (hlines : ∀ line ∈ lines, x ∉ line) :
    ∀ line, some line ∈ logicalLines st soFar lines → x ∉ line := by
  induction lines generalizing st soFar with
  | nil =>
      intro line hline
      rw [logicalLines] at hline
      split at hline <;> simp at hline
  | cons next lines ih =>
      rw [List.forall_mem_cons] at hlines
      have hboth : x ∉ soFar ++ next := by simp [hsoFar, hlines.1]
      have hrest : ∀ line, some line ∈ logicalLines .complete [] lines → x ∉ line :=
        ih List.not_mem_nil hlines.2
      intro line hline
      rw [logicalLines] at hline
      split at hline
      · rcases List.mem_cons.mp hline with hfirst | hlater
        · cases hfirst
          exact List.not_mem_nil
        · exact hrest line hlater
      split at hline
      next kept heq =>
          have hkept : x ∉ (scanLine st next).1 := not_mem_scanLine hlines.1
          rcases List.mem_cons.mp hline with hfirst | hlater
          · cases hfirst
            rw [heq] at hkept
            simp [hsoFar, hkept]
          · exact hrest line hlater
      next =>
          rcases List.mem_cons.mp hline with hfirst | hlater
          · cases hfirst
            exact not_mem_dropLineEnd hboth
          · exact hrest line hlater
      next => exact ih hboth hlines.2 line hline

theorem not_mem_dropByteOrderMark (h : x ∉ cs) : x ∉ dropByteOrderMark cs := by
  cases cs with
  | nil => exact h
  | cons c cs =>
      rw [dropByteOrderMark]
      split
      · exact fun hx => h (List.mem_cons_of_mem c hx)
      · exact h

theorem not_mem_linesOf {text : String} (hx : x ≠ '\n') (h : x ∉ text.toList) :
    ∀ line, some line ∈ linesOf text → x ∉ line :=
  not_mem_logicalLines List.not_mem_nil (not_mem_physicalLines hx (not_mem_dropByteOrderMark h))

section

variable {lookup : String → String} {st st' : ValueState} {c : Char} {value : List Char}

theorem not_mem_resolve (hlookup : ∀ name, x ∉ (lookup name).toList) (h : x ∉ st.output)
    (r : Reference) : x ∉ (st.resolve lookup r).output := by
  simp [ValueState.resolve, h, hlookup]

theorem not_mem_refer (hlookup : ∀ name, x ∉ (lookup name).toList) (h : x ∉ st.output)
    (hc : x ≠ c) (r : Reference) : x ∉ (st.refer lookup r c).output := by
  have hresolve := not_mem_resolve hlookup h r
  rw [ValueState.refer]
  split
  · exact h
  split
  · split
    · exact hresolve
    · exact h
  split
  · exact h
  split
  · exact hresolve
  · simp [ValueState.emit, hresolve, hc]

theorem not_mem_escape (h : x ∉ st.output) (hx : x ≠ '\n') (hc : x ≠ c)
    (hst : st.escape c = some st') : x ∉ st'.output := by
  rw [ValueState.escape] at hst
  split at hst
  · cases hst
    simp [ValueState.emit, h, hc]
  split at hst
  · cases hst
    simp [ValueState.emit, h, hx]
  · cases hst

/-- A character that is no line feed comes into a value from the line or from what a reference stands
for. -/
theorem not_mem_next (hlookup : ∀ name, x ∉ (lookup name).toList) (h : x ∉ st.output)
    (hx : x ≠ '\n') (hc : x ≠ c) (hst : st.next lookup c = some st') : x ∉ st'.output := by
  have hemit : x ∉ (st.emit c).output := by simp [ValueState.emit, h, hc]
  rw [ValueState.next] at hst
  split at hst
  · exact not_mem_escape h hx hc hst
  split at hst
  · cases hst
    split
    · exact h
    · exact hemit
  split at hst
  next r _ =>
      cases hst
      exact not_mem_refer hlookup h hc r
  cases hst
  split
  · exact h
  split
  · exact h
  split
  · exact h
  split
  · exact hemit
  split
  · exact h
  split
  · exact h
  · exact hemit

theorem not_mem_finish (hlookup : ∀ name, x ∉ (lookup name).toList) (h : x ∉ st.output)
    (hvalue : st.finish lookup = some value) : x ∉ value := by
  rw [ValueState.finish] at hvalue
  split at hvalue
  · cases hvalue
  split at hvalue
  · cases hvalue
    exact h
  next r _ =>
      split at hvalue
      · cases hvalue
      · cases hvalue
        exact not_mem_resolve hlookup h r

theorem not_mem_readValue (hlookup : ∀ name, x ∉ (lookup name).toList) (h : x ∉ st.output)
    (hx : x ≠ '\n') (hcs : x ∉ cs) (hvalue : readValue lookup st cs = some value) : x ∉ value := by
  induction cs generalizing st with
  | nil => exact not_mem_finish hlookup h hvalue
  | cons c cs ih =>
      rw [List.mem_cons, not_or] at hcs
      rw [readValue] at hvalue
      split at hvalue
      · split at hvalue
        · exact ih h hcs.2 hvalue
        · split at hvalue
          · exact not_mem_finish hlookup h hvalue
          · cases hvalue
      · split at hvalue
        next st' hst => exact ih (not_mem_next hlookup h hx hcs.1 hst) hcs.2 hvalue
        · cases hvalue

end

section

variable {key value : String} {rest line : List Char} {lookup : String → String}

theorem readKey_spec (h : readKey cs = some (key, rest)) :
    (∀ c ∈ key.toList, isKeyChar c) ∧ rest <:+ cs := by
  rw [readKey] at h
  split at h
  · cases h
    rw [String.toList_ofList]
    exact ⟨fun c hc => List.mem_takeWhile_imp hc, List.dropWhile_suffix _⟩
  · cases h

theorem suffix_of_readEquals (h : readEquals cs = some rest) : rest <:+ cs := by
  unfold readEquals at h
  split at h
  · cases h
    exact List.suffix_cons _ _
  · cases h

theorem readAssignment_spec (h : readAssignment cs = some (key, rest)) :
    (∀ c ∈ key.toList, isKeyChar c) ∧ rest <:+ cs := by
  obtain ⟨⟨first, cs₁⟩, hfirst, h⟩ := Option.bind_eq_some_iff.mp h
  obtain ⟨hkey, hcs₁⟩ := readKey_spec hfirst
  have hcs₁ := (trimStart_suffix cs₁).trans hcs₁
  dsimp only at h
  split at h
  next hequals =>
      cases h
      exact ⟨hkey, (suffix_of_readEquals hequals).trans hcs₁⟩
  split at h
  · obtain ⟨⟨second, cs₂⟩, hsecond, h⟩ := Option.bind_eq_some_iff.mp h
    obtain ⟨hkey, hcs₂⟩ := readKey_spec hsecond
    have hcs₂ := ((trimStart_suffix cs₂).trans hcs₂).trans hcs₁
    obtain ⟨after, hequals, h⟩ := Option.bind_eq_some_iff.mp h
    cases h
    exact ⟨hkey, (suffix_of_readEquals hequals).trans hcs₂⟩
  · cases h

theorem readLine_cases (h : readLine lookup line = some (some (key, value))) :
    ∃ rest, readAssignment (trimStart (trimEnd line)) = some (key, rest) ∧
      (value = "" ∨ readValue lookup {} (trimStart rest) = some value.toList) := by
  rw [readLine] at h
  dsimp only at h
  split at h
  · cases h
  obtain ⟨⟨key', rest⟩, hkey, h⟩ := Option.bind_eq_some_iff.mp h
  dsimp only at h
  split at h
  · cases h
    exact ⟨rest, hkey, .inl rfl⟩
  · obtain ⟨value', hvalue, h⟩ := Option.bind_eq_some_iff.mp h
    cases h
    rw [String.toList_ofList]
    exact ⟨rest, hkey, .inr hvalue⟩

theorem not_mem_key_of_readLine (h : readLine lookup line = some (some (key, value)))
    (hx : isKeyChar x = false) : x ∉ key.toList := by
  obtain ⟨rest, hkey, -⟩ := readLine_cases h
  intro hmem
  rw [(readAssignment_spec hkey).1 x hmem] at hx
  cases hx

theorem not_mem_value_of_readLine (h : readLine lookup line = some (some (key, value)))
    (hlookup : ∀ name, x ∉ (lookup name).toList) (hx : x ≠ '\n') (hline : x ∉ line) :
    x ∉ value.toList := by
  obtain ⟨rest, hkey, rfl | hvalue⟩ := readLine_cases h
  · simp
  · have hrest : x ∉ rest := by
      intro hmem
      exact not_mem_trimStart (not_mem_trimEnd hline) ((readAssignment_spec hkey).2.mem hmem)
    exact not_mem_readValue hlookup List.not_mem_nil hx (not_mem_trimStart hrest) hvalue

end

end EnvFile

end Markbook
