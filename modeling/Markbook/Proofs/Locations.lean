import Markbook.Location
import Markbook.Proofs.Encoding

namespace Markbook

open Text

theorem Text.splitFirst_of_not_mem {sep : Char} {cs : List Char} (h : sep ∉ cs) :
    splitFirst sep cs = (cs, none) := by
  induction cs with
  | nil => rfl
  | cons c cs ih =>
      rw [List.mem_cons, not_or] at h
      rw [splitFirst, if_neg (Ne.symm h.1), ih h.2]

namespace Location

section

variable {head cs : List Char} {fuel : Nat}

theorem dropOnce_append : dropOnce head (head ++ cs) = cs := by
  rw [dropOnce, if_pos (List.isPrefixOf_iff_prefix.mpr (List.prefix_append head cs)),
    List.drop_left]

theorem dropOnce_of_not (h : ¬ head <+: cs) : dropOnce head cs = cs := by
  rw [dropOnce, if_neg (by rwa [List.isPrefixOf_iff_prefix])]

theorem dropRepeated_of_not (h : ¬ head <+: cs) : dropRepeated head fuel cs = cs := by
  cases fuel with
  | zero => rfl
  | succ fuel => rw [dropRepeated, if_neg (by rwa [List.isPrefixOf_iff_prefix])]

theorem dropRepeated_append (hfuel : 0 < fuel) (h : ¬ head <+: cs) :
    dropRepeated head fuel (head ++ cs) = cs := by
  obtain ⟨fuel, rfl⟩ := Nat.exists_eq_add_of_le' hfuel
  rw [dropRepeated, if_pos (List.isPrefixOf_iff_prefix.mpr (List.prefix_append head cs)),
    List.drop_left, dropRepeated_of_not h]

end

/-- A name that means the same with any front. -/
structure Plain (p : String) : Prop where
  percent : '%' ∉ p.toList
  query : '?' ∉ p.toList
  jdbc : ¬ "jdbc:".toList <+: p.toList
  sqlite : ¬ "sqlite:".toList <+: p.toList
  slashes : ¬ "//".toList <+: p.toList
  memory : p ≠ ":memory:"

def fronts : List String :=
  ["", "jdbc:", "sqlite:", "sqlite://", "jdbc:sqlite:", "jdbc:sqlite://"]

section

variable {p : String} {cs : List Char}

theorem ofName_of_plain (h : Plain p) : ofName p.toList = .ok { target := .file p } := by
  have hmemory : p.toList ≠ ":memory:".toList := fun hp => h.memory (String.toList_inj.mp hp)
  rw [ofName, if_neg hmemory, Percent.decode_encode_of_not_mem h.percent, Utf8.decode_encode]
  simp only [String.ofList_toList]

theorem ofUrl_of_splitUrl (h : Plain p) (hsplit : splitUrl cs = (p.toList, none)) :
    ofUrl cs = .ok { target := .file p } := by
  rw [ofUrl, hsplit]
  simp only [ofName_of_plain h]
  rfl

theorem splitUrl_sqlite (h : Plain p) :
    splitUrl ("sqlite:".toList ++ p.toList) = (p.toList, none) := by
  have hslashes : ¬ "sqlite://".toList <+: "sqlite:".toList ++ p.toList := by
    rw [show "sqlite://".toList = "sqlite:".toList ++ "//".toList from rfl,
      List.prefix_append_right_inj]
    exact h.slashes
  rw [splitUrl, dropRepeated_of_not hslashes, dropRepeated_append (by simp) h.sqlite,
    splitFirst_of_not_mem h.query]

theorem splitUrl_sqliteSlashes (h : Plain p) :
    splitUrl ("sqlite://".toList ++ p.toList) = (p.toList, none) := by
  have hslashes : ¬ "sqlite://".toList <+: p.toList := by
    intro hp
    exact h.sqlite ((List.prefix_append "sqlite:".toList "//".toList).trans hp)
  rw [splitUrl, dropRepeated_append (by simp) hslashes, dropRepeated_of_not h.sqlite,
    splitFirst_of_not_mem h.query]

theorem ofText_jdbc {t : String} (h : ¬ "jdbc:".toList <+: t.toList) :
    ofText ("jdbc:" ++ t) = ofText t := by
  simp only [ofText, String.toList_append, dropOnce_append, dropOnce_of_not h]

theorem ofText_name (h : Plain p) : ofText p = .ok { target := .file p } := by
  have hsqlite : ¬ "sqlite:".toList.isPrefixOf p.toList := by
    rw [List.isPrefixOf_iff_prefix]
    exact h.sqlite
  simp only [ofText, dropOnce_of_not h.jdbc, if_neg hsqlite, String.ofList_toList]

theorem not_jdbc_of_sqlite {t : String} (h : "sqlite:".toList <+: t.toList) :
    ¬ "jdbc:".toList <+: t.toList := by
  intro hjdbc
  have hheads := List.prefix_of_prefix_length_le hjdbc h (by decide)
  exact absurd (List.isPrefixOf_iff_prefix.mpr hheads) (by decide)

theorem ofText_url {t : String} (h : "sqlite:".toList <+: t.toList) :
    ofText t = ofUrl t.toList := by
  simp only [ofText, dropOnce_of_not (not_jdbc_of_sqlite h),
    if_pos (List.isPrefixOf_iff_prefix.mpr h)]

/-- All forms of a location that a name can be put into mean the file of that name: not in memory,
not for reading only, and created if it is missing. -/
theorem ofText_of_mem_fronts (p : String) (h : Plain p) :
    ∀ front ∈ fronts, ofText (front ++ p) = .ok {
      target := .file p
      inMemory := false
      readOnly := false
      createIfMissing := true
      sharedCache := false
      immutable := false
      layer := none } := by
  have hsqlite : "sqlite:".toList <+: ("sqlite:" ++ p).toList := by
    rw [String.toList_append]
    exact List.prefix_append _ _
  have hslashes : "sqlite:".toList <+: ("sqlite://" ++ p).toList := by
    rw [String.toList_append]
    exact (List.prefix_append "sqlite:".toList "//".toList).trans (List.prefix_append _ _)
  have hname := ofText_name h
  have hurl : ofText ("sqlite:" ++ p) = .ok { target := .file p } := by
    rw [ofText_url hsqlite, String.toList_append, ofUrl_of_splitUrl h (splitUrl_sqlite h)]
  have hurlSlashes : ofText ("sqlite://" ++ p) = .ok { target := .file p } := by
    rw [ofText_url hslashes, String.toList_append, ofUrl_of_splitUrl h (splitUrl_sqliteSlashes h)]
  intro front hfront
  simp only [fronts, List.mem_cons, List.not_mem_nil, or_false] at hfront
  rcases hfront with rfl | rfl | rfl | rfl | rfl | rfl
  · rwa [String.empty_append]
  · rwa [ofText_jdbc h.jdbc]
  · exact hurl
  · exact hurlSlashes
  · rwa [show "jdbc:sqlite:" = "jdbc:" ++ "sqlite:" from rfl, String.append_assoc,
      ofText_jdbc (not_jdbc_of_sqlite hsqlite)]
  · rwa [show "jdbc:sqlite://" = "jdbc:" ++ "sqlite://" from rfl, String.append_assoc,
      ofText_jdbc (not_jdbc_of_sqlite hslashes)]

end

/-- A name from the root with characters of one to four bytes, and with fronts inside of it. -/
def rootedName : String :=
  "/sqlite://jdbc:é€😀 &=+#:memory:"

theorem ofText_of_mem_fronts_rootedName :
    Plain rootedName ∧ "jdbc:sqlite:" ∈ fronts ∧
      ofText "jdbc:sqlite:/sqlite://jdbc:é€😀 &=+#:memory:" =
        .ok { target := .file rootedName } := by
  have hplain : Plain rootedName :=
    ⟨by decide, by decide, by decide, by decide, by decide, by decide⟩
  have hfront : "jdbc:sqlite:" ∈ fronts := by decide
  exact ⟨hplain, hfront, ofText_of_mem_fronts rootedName hplain "jdbc:sqlite:" hfront⟩

end Location

end Markbook
