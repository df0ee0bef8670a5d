import Mathlib
import Markbook.Proofs.Stamps

namespace Markbook

namespace Text

/-- What is left of a text without the white space around it. -/
structure Trims (cs body : List Char) : Prop where
  around : ∃ before after, cs = before ++ body ++ after ∧ (∀ c ∈ before, isBlank c) ∧
    ∀ c ∈ after, isBlank c
  head : ∀ c ∈ body.head?, ¬ isBlank c
  last : ∀ c ∈ body.getLast?, ¬ isBlank c

section

variable {cs body : List Char}

theorem trimStart_of_head (h : ∀ c ∈ cs.head?, ¬ isBlank c) : trimStart cs = cs := by
  cases cs with
  | nil => rfl
  | cons c cs => exact trimStart_of_not (Bool.eq_false_of_not_eq_true (h c rfl)) cs

theorem trimEnd_eq (cs : List Char) : trimEnd cs = (trimStart cs.reverse).reverse :=
  rfl

theorem exists_trimStart (cs : List Char) : ∃ before, cs = before ++ trimStart cs ∧
    (∀ c ∈ before, isBlank c) ∧ ∀ c ∈ (trimStart cs).head?, ¬ isBlank c := by
  refine ⟨cs.takeWhile isBlank, List.takeWhile_append_dropWhile.symm, ?_, ?_⟩
  · intro c hc
    exact List.mem_takeWhile_imp hc
  · intro c hc
    have h := List.head?_dropWhile_not isBlank cs
    rw [show cs.dropWhile isBlank = trimStart cs from rfl, hc] at h
    simpa using h

theorem trims_trim (cs : List Char) : Trims cs (trim cs) := by
  obtain ⟨before, hbefore, hblank, hhead⟩ := exists_trimStart cs
  obtain ⟨after, hafter, hblank', hlast⟩ := exists_trimStart (trimStart cs).reverse
  have hstart : trimStart cs = trim cs ++ after.reverse := by
    rw [trim, trimEnd_eq, ← List.reverse_append, ← hafter, List.reverse_reverse]
  refine ⟨⟨before, after.reverse, ?_, hblank, ?_⟩, ?_, ?_⟩
  · rw [List.append_assoc, ← hstart, ← hbefore]
  · intro c hc
    exact hblank' c (List.mem_reverse.mp hc)
  · intro c hc
    apply hhead c
    rw [hstart, List.head?_append, Option.mem_def.mp hc]
    rfl
  · intro c hc
    rw [trim, trimEnd_eq, List.getLast?_reverse] at hc
    exact hlast c hc

theorem trimStart_append (h : ∀ c ∈ cs, isBlank c) : trimStart (cs ++ body) = trimStart body :=
  List.dropWhile_append_of_pos h

theorem Trims.trim_eq (h : Trims cs body) : trim cs = body := by
  obtain ⟨before, after, rfl, hbefore, hafter⟩ := h.around
  have hafter' : ∀ c ∈ after.reverse, isBlank c := fun c hc => hafter c (List.mem_reverse.mp hc)
  rw [trim, List.append_assoc, trimStart_append hbefore]
  cases hbody : body with
  | nil =>
      have hblank : trimStart after = [] := List.dropWhile_eq_nil_iff.mpr hafter
      rw [List.nil_append, hblank]
      rfl
  | cons c rest =>
      rw [← hbody]
      have hstart : trimStart (body ++ after) = body ++ after := by
        apply trimStart_of_head
        rw [hbody]
        exact fun d hd => h.head d (by rwa [hbody])
      rw [hstart, trimEnd_eq, List.reverse_append, trimStart_append hafter', trimStart_of_head,
        List.reverse_reverse]
      rw [List.head?_reverse]
      exact h.last

theorem exists_trims_iff {P : List Char → Prop} :
    (∃ body, Trims cs body ∧ P body) ↔ P (trim cs) := by
  constructor
  · rintro ⟨body, htrims, h⟩
    rwa [htrims.trim_eq]
  · exact fun h => ⟨trim cs, trims_trim cs, h⟩

end

structure Digits (ds : List Char) (n : Nat) : Prop where
  ne_nil : ds ≠ []
  digits : ∀ d ∈ ds, '0' ≤ d ∧ d ≤ '9'
  value : n = Nat.ofDigits 10 (ds.reverse.map fun d => d.toNat - '0'.toNat)

inductive Numeral : List Char → Nat → Prop
  | bare {ds : List Char} {n : Nat} (h : Digits ds n) : Numeral ds n
  | plus {ds : List Char} {n : Nat} (h : Digits ds n) : Numeral ('+' :: ds) n

theorem digitsValue_eq_ofDigits (ds : List Char) :
    digitsValue ds = Nat.ofDigits 10 (ds.reverse.map digitValue) := by
  induction ds using List.reverseRecOn with
  | nil => rfl
  | append_singleton ds d ih =>
      rw [digitsValue_concat, List.reverse_concat, List.map_cons, Nat.ofDigits_cons, ih,
        Nat.add_comm]

theorem isDigit_iff {c : Char} : c.isDigit ↔ '0' ≤ c ∧ c ≤ '9' := by
  rw [Char.isDigit, Bool.and_eq_true, decide_eq_true_eq, decide_eq_true_eq]
  rfl

def digitsBelow (bound : Nat) (ds : List Char) : Option Nat :=
  if ds.isEmpty then none
  else if ds.all Char.isDigit then
    if digitsValue ds < bound then some (digitsValue ds) else none
  else none

section

variable {bound n : Nat} {ds cs : List Char}

theorem digitsBelow_eq_some : digitsBelow bound ds = some n ↔ Digits ds n ∧ n < bound := by
  simp only [digitsBelow, Option.ite_none_left_eq_some, Option.ite_none_right_eq_some,
    Option.some.injEq, List.isEmpty_iff, List.all_eq_true, isDigit_iff]
  constructor
  · rintro ⟨hne, hdigits, hbound, rfl⟩
    exact ⟨⟨hne, hdigits, digitsValue_eq_ofDigits ds⟩, hbound⟩
  · rintro ⟨h, hbound⟩
    have hvalue : digitsValue ds = n := (digitsValue_eq_ofDigits ds).trans h.value.symm
    exact ⟨h.ne_nil, h.digits, hvalue.symm ▸ hbound, hvalue⟩

theorem readBelow_plus : readBelow bound ('+' :: ds) = digitsBelow bound ds :=
  rfl

theorem readBelow_of_ne (h : ∀ ds, cs ≠ '+' :: ds) :
    readBelow bound cs = digitsBelow bound cs := by
  rw [readBelow, digitsBelow]
  exact h

theorem Digits.ne_plus (h : Digits cs n) (ds : List Char) : cs ≠ '+' :: ds := by
  rintro rfl
  exact absurd (h.digits '+' (List.mem_cons_self ..)) (by decide)

theorem readBelow_eq_some : readBelow bound cs = some n ↔ Numeral cs n ∧ n < bound := by
  constructor
  · intro h
    by_cases hplus : ∃ ds, cs = '+' :: ds
    · obtain ⟨ds, rfl⟩ := hplus
      rw [readBelow_plus, digitsBelow_eq_some] at h
      exact ⟨.plus h.1, h.2⟩
    · rw [readBelow_of_ne (not_exists.mp hplus), digitsBelow_eq_some] at h
      exact ⟨.bare h.1, h.2⟩
  · rintro ⟨hnumeral, hbound⟩
    cases hnumeral with
    | bare h => exact (readBelow_of_ne h.ne_plus).trans (digitsBelow_eq_some.mpr ⟨h, hbound⟩)
    | plus h => exact readBelow_plus.trans (digitsBelow_eq_some.mpr ⟨h, hbound⟩)

end

end Text

end Markbook
