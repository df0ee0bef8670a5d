import Markbook.Proofs.Nuls
import Markbook.Proofs.Rows
import Markbook.Provision

namespace Markbook

namespace Environment

theorem eq_of_append_equals {xs ys xs' ys' : List Char} (hxs : '=' ∉ xs) (hxs' : '=' ∉ xs')
    (h : xs ++ '=' :: ys = xs' ++ '=' :: ys') : xs = xs' := by
  have htake {xs : List Char} (ys : List Char) (hxs : '=' ∉ xs) :
      (xs ++ '=' :: ys).takeWhile (· != '=') = xs := by
    have hother : ∀ c ∈ xs, (c != '=') = true := fun c hc => bne_iff_ne.mpr fun he => hxs (he ▸ hc)
    rw [List.takeWhile_append_of_pos hother]
    simp
  calc xs = (xs ++ '=' :: ys).takeWhile (· != '=') := (htake ys hxs).symm
    _ = (xs' ++ '=' :: ys').takeWhile (· != '=') := by rw [h]
    _ = xs' := htake ys' hxs'

variable {env env' env'' : Environment} {name key value raw : String}

theorem valueFor_of_ne (hname : '=' ∉ name.toList) (hkey : '=' ∉ key.toList) (hne : name ≠ key) :
    valueFor name (key, some value) = none := by
  rw [valueFor, if_neg]
  rw [List.isPrefixOf_iff_prefix]
  rintro ⟨rest, hrest⟩
  rw [List.append_assoc, List.singleton_append] at hrest
  exact hne (String.toList_inj.mp (eq_of_append_equals hname hkey hrest))

theorem get?_cons_of_ne (hname : '=' ∉ name.toList) (hkey : '=' ∉ key.toList) (hne : name ≠ key) :
    get? ((key, some value) :: env) name = env.get? name := by
  rw [get?, get?, List.findSome?_cons, valueFor_of_ne hname hkey hne]

/-- Every variable that has a text still has it. -/
def Keeps (env env' : Environment) : Prop :=
  ∀ name raw : String, '=' ∉ name.toList → env.get? name = some raw → env'.get? name = some raw

theorem Keeps.refl (env : Environment) : env.Keeps env :=
  fun _ _ _ h => h

theorem Keeps.trans (h : env.Keeps env') (h' : env'.Keeps env'') : env.Keeps env'' :=
  fun name raw hname hraw => h' name raw hname (h name raw hname hraw)

theorem setIfUnset_cases (env : Environment) (key value : String) :
    ((env.get? key).isSome ∧ env.setIfUnset key value = .ok env) ∨
      (env.get? key = none ∧ '\x00' ∉ value.toList ∧
        env.setIfUnset key value = .ok ((key, some value) :: env)) ∨
      env.get? key = none ∧ '\x00' ∈ value.toList ∧
        env.setIfUnset key value = .error ⟨key, value⟩ := by
  rw [setIfUnset]
  split
  · next hset => exact .inl ⟨hset, rfl⟩
  next hunset =>
      rw [Option.not_isSome_iff_eq_none] at hunset
      rw [set]
      split
      · next hnul => exact .inr (.inr ⟨hunset, holdsNul_iff.mp hnul, rfl⟩)
      · next hnul => exact .inr (.inl ⟨hunset, holdsNul_iff.not.mp hnul, rfl⟩)

theorem keeps_setIfUnset (hkey : '=' ∉ key.toList) (h : env.setIfUnset key value = .ok env') :
    env.Keeps env' := by
  rcases setIfUnset_cases env key value with ⟨-, heq⟩ | ⟨hunset, -, heq⟩ | ⟨-, -, heq⟩
  · rw [heq] at h
    cases h
    exact Keeps.refl env
  · rw [heq] at h
    cases h
    intro name raw hname hraw
    have hne : name ≠ key := by
      rintro rfl
      rw [hraw] at hunset
      cases hunset
    rwa [get?_cons_of_ne hname hkey hne]
  · rw [heq] at h
    cases h

def NulFree (env : Environment) : Prop :=
  ∀ name raw, env.get? name = some raw → '\x00' ∉ raw.toList

theorem nulFree_nil : NulFree [] := by
  intro name raw hraw
  rw [get?] at hraw
  split at hraw <;> cases hraw

theorem NulFree.cons (h : env.NulFree) (hkey : '\x00' ∉ key.toList)
    (hvalue : '\x00' ∉ value.toList) : NulFree ((key, some value) :: env) := by
  intro name raw hraw
  rw [get?] at hraw
  split at hraw
  · cases hraw
  next hname =>
      rw [List.findSome?_cons] at hraw
      cases hfirst : valueFor name (key, some value) with
      | some found =>
          -- What a name finds here is a last part of `key=value`.
          rw [hfirst] at hraw
          rw [valueFor] at hfirst
          split at hfirst
          · cases hfirst
            cases hraw
            rw [String.toList_ofList]
            intro hmem
            have hmem := List.mem_of_mem_drop hmem
            simp [hkey, hvalue] at hmem
          · cases hfirst
      | none =>
          rw [hfirst] at hraw
          refine h name raw ?_
          rwa [get?, if_neg hname]

end Environment

namespace EnvFile

open Environment

/-- The lines are read, none of them is in error, and this is what they come to. -/
inductive Reads : Progress → List (Option (List Char)) → Progress → Prop
  | done (p : Progress) : Reads p [] p
  | blank {p q : Progress} {line : List Char} {lines : List (Option (List Char))}
      (hline : readLine p.lookup line = some none) (h : Reads p lines q) :
      Reads p (some line :: lines) q
  | assigns {p p' q : Progress} {line : List Char} {lines : List (Option (List Char))}
      {key value : String} (hline : readLine p.lookup line = some (some (key, value)))
      (hassign : p.assign key value = .ok p') (h : Reads p' lines q) :
      Reads p (some line :: lines) q

/-- A line that is reached gives a value with a NUL to a variable that has no text then. -/
def Panics (p : Progress) (lines : List (Option (List Char))) (e : Panic) : Prop :=
  ∃ earlier line later q, lines = earlier ++ some line :: later ∧ Reads p earlier q ∧
    readLine q.lookup line = some (some (e.name, e.value)) ∧ q.env.get? e.name = none ∧
    '\x00' ∈ e.value.toList

variable {p p' q : Progress} {e : Panic} {key value : String} {line : List Char}
  {lines : List (Option (List Char))}

theorem assign_eq_ok_iff : p.assign key value = .ok p' ↔
    p.env.setIfUnset key value = .ok p'.env ∧ p'.seen = (key, value) :: p.seen := by
  rw [Progress.assign]
  cases p.env.setIfUnset key value with
  | error e => exact ⟨fun h => (by cases h), fun h => (by cases h.1)⟩
  | ok env =>
      constructor
      · intro h
        cases h
        exact ⟨rfl, rfl⟩
      · rintro ⟨henv, hseen⟩
        cases henv
        cases p'
        cases hseen
        rfl

theorem assign_eq_error_iff : p.assign key value = .error e ↔
    p.env.get? key = none ∧ '\x00' ∈ value.toList ∧ e = ⟨key, value⟩ := by
  rw [Progress.assign]
  rcases setIfUnset_cases p.env key value with ⟨hset, heq⟩ | ⟨-, hnul, heq⟩ | ⟨hunset, hnul, heq⟩
  · rw [heq]
    refine ⟨fun h => (by cases h), fun h => ?_⟩
    rw [h.1] at hset
    cases hset
  · rw [heq]
    exact ⟨fun h => (by cases h), fun h => absurd h.2.1 hnul⟩
  · rw [heq]
    constructor
    · intro h
      cases h
      exact ⟨hunset, hnul, rfl⟩
    · rintro ⟨-, -, rfl⟩
      rfl

theorem Panics.of_readLines (h : readLines p lines = .error e) : Panics p lines e := by
  induction lines generalizing p with
  | nil => cases h
  | cons line lines ih =>
      cases line with
      | none => cases h
      | some line =>
          rw [readLines] at h
          split at h
          next key value hline =>
              cases hassign : p.assign key value with
              | error e' =>
                  rw [hassign] at h
                  cases h
                  obtain ⟨hunset, hnul, rfl⟩ := assign_eq_error_iff.mp hassign
                  exact ⟨[], line, lines, p, rfl, .done p, hline, hunset, hnul⟩
              | ok p' =>
                  rw [hassign] at h
                  obtain ⟨earlier, line', later, q, rfl, hreads, hlast⟩ := ih h
                  exact ⟨some line :: earlier, line', later, q, rfl,
                    .assigns hline hassign hreads, hlast⟩
          next hline =>
              obtain ⟨earlier, line', later, q, rfl, hreads, hlast⟩ := ih h
              exact ⟨some line :: earlier, line', later, q, rfl, .blank hline hreads, hlast⟩
          next => cases h

theorem Reads.readLines_append (h : Reads p lines q) (later : List (Option (List Char))) :
    readLines p (lines ++ later) = readLines q later := by
  induction h with
  | done p => rfl
  | blank hline _ ih =>
      rw [List.cons_append, readLines, hline]
      exact ih
  | assigns hline hassign _ ih =>
      rw [List.cons_append, readLines, hline]
      dsimp only
      rw [hassign]
      exact ih

theorem readLines_eq_error_iff : readLines p lines = .error e ↔ Panics p lines e := by
  refine ⟨Panics.of_readLines, ?_⟩
  rintro ⟨earlier, line, later, q, rfl, hreads, hline, hunset, hnul⟩
  rw [hreads.readLines_append, readLines, hline]
  dsimp only
  rw [assign_eq_error_iff.mpr ⟨hunset, hnul, rfl⟩]
  rfl

theorem keeps_readLines (h : readLines p lines = .ok q) : p.env.Keeps q.env := by
  induction lines generalizing p with
  | nil =>
      cases h
      exact Keeps.refl _
  | cons line lines ih =>
      cases line with
      | none =>
          cases h
          exact Keeps.refl _
      | some line =>
          rw [readLines] at h
          split at h
          next key value hline =>
              obtain ⟨p', hassign, h⟩ := Store.bind_eq_ok.mp h
              have hset := (assign_eq_ok_iff.mp hassign).1
              exact (keeps_setIfUnset (not_mem_key_of_readLine hline (by decide)) hset).trans (ih h)
          next => exact ih h
          next =>
              cases h
              exact Keeps.refl _

structure Progress.NulFree (p : Progress) : Prop where
  env : p.env.NulFree
  seen : ∀ entry ∈ p.seen, '\x00' ∉ entry.2.toList

theorem Progress.NulFree.lookup (h : p.NulFree) (name : String) :
    '\x00' ∉ (p.lookup name).toList := by
  rw [Progress.lookup]
  cases henv : p.env.get? name with
  | some raw => exact h.env name raw henv
  | none =>
      cases hseen : p.seen.lookup name with
      | none => simp
      | some raw =>
          obtain ⟨before, after, heq, -⟩ := List.lookup_eq_some_iff.mp hseen
          exact h.seen (name, raw) (by simp [heq])

theorem Progress.NulFree.assign (h : p.NulFree) (hkey : '\x00' ∉ key.toList)
    (hvalue : '\x00' ∉ value.toList) : ∃ p', p.assign key value = .ok p' ∧ p'.NulFree := by
  have hseen : ∀ entry ∈ (key, value) :: p.seen, '\x00' ∉ entry.2.toList :=
    List.forall_mem_cons.mpr ⟨hvalue, h.seen⟩
  rcases setIfUnset_cases p.env key value with ⟨-, heq⟩ | ⟨-, -, heq⟩ | ⟨-, hnul, -⟩
  · exact ⟨⟨p.env, (key, value) :: p.seen⟩, assign_eq_ok_iff.mpr ⟨heq, rfl⟩, ⟨h.env, hseen⟩⟩
  · exact ⟨⟨_, (key, value) :: p.seen⟩, assign_eq_ok_iff.mpr ⟨heq, rfl⟩,
      ⟨h.env.cons hkey hvalue, hseen⟩⟩
  · exact absurd hnul hvalue

theorem readLines_of_nulFree (hp : p.NulFree) (hlines : ∀ line, some line ∈ lines → '\x00' ∉ line) :
    ∃ q, readLines p lines = .ok q := by
  induction lines generalizing p with
  | nil => exact ⟨p, rfl⟩
  | cons line lines ih =>
      have hlater : ∀ line, some line ∈ lines → '\x00' ∉ line :=
        fun line hline => hlines line (List.mem_cons_of_mem _ hline)
      cases line with
      | none => exact ⟨p, rfl⟩
      | some line =>
          rw [readLines]
          split
          next key value hline =>
              have hkey : '\x00' ∉ key.toList := not_mem_key_of_readLine hline (by decide)
              have hvalue := not_mem_value_of_readLine hline hp.lookup (by decide)
                (hlines line List.mem_cons_self)
              obtain ⟨p', hassign, hp'⟩ := hp.assign hkey hvalue
              rw [hassign]
              exact ih hp' hlater
          next => exact ih hp hlater
          next => exact ⟨p, rfl⟩

variable {text : String} {env env' : Environment}

theorem keeps_load (h : load text env = .ok env') : env.Keeps env' := by
  obtain ⟨q, hq, h⟩ := Store.bind_eq_ok.mp h
  cases h
  exact keeps_readLines hq

theorem load_eq_error_iff : load text env = .error e ↔ Panics ⟨env, []⟩ (linesOf text) e := by
  rw [load, ← readLines_eq_error_iff]
  cases readLines ⟨env, []⟩ (linesOf text) with
  | error e' => exact ⟨fun h => (by cases h; rfl), fun h => (by cases h; rfl)⟩
  | ok q => exact ⟨fun h => (by cases h), fun h => (by cases h)⟩

theorem load_of_nulFree (henv : env.NulFree) (htext : '\x00' ∉ text.toList) :
    ∃ env', load text env = .ok env' := by
  obtain ⟨q, hq⟩ := readLines_of_nulFree (p := ⟨env, []⟩) ⟨henv, by simp⟩
    (not_mem_linesOf (by decide) htext)
  exact ⟨q.env, by rw [load, hq]; rfl⟩

end EnvFile

theorem Provision.environment_cases (env : Environment) (d : Directory) :
    (∃ env', environment env d = .ok env' ∧ env.Keeps env') ∨
      ∃ text e, d.find? (Path.ofName envFileName) = some (.text text) ∧
        EnvFile.load text env = .error e := by
  rw [environment]
  split
  next text hfile =>
      cases hload : EnvFile.load text env with
      | ok env' => exact .inl ⟨env', rfl, EnvFile.keeps_load hload⟩
      | error e => exact .inr ⟨text, e, hfile, hload⟩
  · exact .inl ⟨env, rfl, Environment.Keeps.refl env⟩

namespace Settings

def variableNames : List String :=
  ["DATABASE_URL", "DATABASE_MAX_CONNECTIONS", "DATABASE_BUSY_TIMEOUT_MS", "LOG_FORMAT", "RUST_LOG"]

variable {env env' : Environment} {name : String}

theorem number_congr (h : env.get? name = env'.get? name) (bound default : Nat) :
    number env name bound default = number env' name bound default := by
  rw [number, number, h]

theorem logFormat_congr (h : env.get? name = env'.get? name) :
    logFormat env name = logFormat env' name := by
  rw [logFormat, logFormat, h]

theorem ofEnvironment_congr (h : ∀ name ∈ variableNames, env.get? name = env'.get? name) :
    ofEnvironment env = ofEnvironment env' := by
  have hurl := h "DATABASE_URL" (by decide)
  have hfilter := h "RUST_LOG" (by decide)
  have hmax := number_congr (h "DATABASE_MAX_CONNECTIONS" (by decide)) uint32Bound
    defaultMaxConnections
  have hbusy := number_congr (h "DATABASE_BUSY_TIMEOUT_MS" (by decide)) uint64Bound
    defaultBusyTimeoutMs
  have hformat := logFormat_congr (h "LOG_FORMAT" (by decide))
  rw [ofEnvironment, ofEnvironment, hurl, hfilter, hmax, hbusy, hformat]

theorem not_mem_of_mem_variableNames : ∀ name ∈ variableNames, '=' ∉ name.toList := by
  decide

theorem ofEnvironment_of_keeps (hset : ∀ name ∈ variableNames, (env.get? name).isSome)
    (h : env.Keeps env') : ofEnvironment env' = ofEnvironment env := by
  apply ofEnvironment_congr
  intro name hname
  obtain ⟨raw, hraw⟩ := Option.isSome_iff_exists.mp (hset name hname)
  rw [hraw]
  exact h name raw (not_mem_of_mem_variableNames name hname) hraw

/-- The environment goes before the env file: a variable that has a text before the file is read has
the same text after it, whatever the text of the file is and wherever it is in error. All that a
file can do beyond that is to end the process, by a value with a NUL for a variable without a text,
which takes a NUL in the file. So where all variables have a text, the settings are those of the
environment with any other file and with none. -/
theorem environment_prevails (env : Environment) :
    (∀ text env', EnvFile.load text env = .ok env' → ∀ name ∈ variableNames, ∀ raw,
        env.get? name = some raw → env'.get? name = some raw) ∧
      (∀ text e, EnvFile.load text env = .error e ↔
        EnvFile.Panics ⟨env, []⟩ (EnvFile.linesOf text) e) ∧
      (env.NulFree → ∀ text, '\x00' ∉ text.toList → ∃ env', EnvFile.load text env = .ok env') ∧
      ((∀ name ∈ variableNames, (env.get? name).isSome) → ∀ d,
        Provision.settings env d = .ok (ofEnvironment env) ∨
          ∃ text e, d.find? (Path.ofName Provision.envFileName) = some (.text text) ∧
            EnvFile.Panics ⟨env, []⟩ (EnvFile.linesOf text) e ∧
            Provision.settings env d = .error e) := by
  refine ⟨?_, fun _ _ => EnvFile.load_eq_error_iff, fun henv _ => EnvFile.load_of_nulFree henv, ?_⟩
  · intro text env' h name hname raw hraw
    exact EnvFile.keeps_load h name raw (not_mem_of_mem_variableNames name hname) hraw
  · intro hset d
    rcases Provision.environment_cases env d with ⟨env', henv, hkeeps⟩ | ⟨text, e, hfile, he⟩
    · left
      rw [Provision.settings, henv, ← ofEnvironment_of_keeps hset hkeeps]
      rfl
    · right
      refine ⟨text, e, hfile, EnvFile.load_eq_error_iff.mp he, ?_⟩
      rw [Provision.settings, Provision.environment, hfile]
      dsimp only
      rw [he]
      rfl

def guarded : Environment :=
  [("DATABASE_URL", some "kept.db"), ("DATABASE_MAX_CONNECTIONS", some "2"),
    ("DATABASE_BUSY_TIMEOUT_MS", some "3"), ("LOG_FORMAT", some "text")]

/-- Assigns variables that are set and one that is not, over two lines and with a reference to
another, and has an error at its end. -/
def assigning : String :=
  "# all\nexport DATABASE_URL='other\n.db' # quoted\nLOG_FORMAT=json\n" ++
    "RUST_LOG=\"$\x7bLOG_FORMAT\x7d, \\$\"\n=\nRUST_LOG=off"

def directoryWith (text : String) : Directory :=
  Directory.empty.put (Path.ofName Provision.envFileName) (.text text)

theorem nulFree_guarded : guarded.NulFree := by
  refine .cons (.cons (.cons (.cons Environment.nulFree_nil ?_ ?_) ?_ ?_) ?_ ?_) ?_ ?_
  all_goals decide

theorem environment_prevails_assigning :
    (EnvFile.load assigning guarded).map (·.get? "DATABASE_URL") = .ok (some "kept.db") ∧
      (EnvFile.load assigning guarded).map (·.get? "RUST_LOG") = .ok (some "text, $") ∧
      let env : Environment := ("RUST_LOG", some "warn") :: guarded
      (∀ name ∈ variableNames, (env.get? name).isSome) ∧
        Provision.settings env (directoryWith assigning) = .ok (ofEnvironment env) ∧
        Provision.settings env (directoryWith "RUST_LOG=a\x00b") = .ok (ofEnvironment env) ∧
        Provision.settings env (directoryWith "X=a\x00b") = .error ⟨"X", "a\x00b"⟩ := by
  obtain ⟨hkept, -, hloads, -⟩ := environment_prevails guarded
  obtain ⟨env', hload⟩ := hloads nulFree_guarded assigning (by decide +kernel)
  refine ⟨?_, by decide +kernel, ?_⟩
  · rw [hload]
    exact congrArg Except.ok (hkept assigning env' hload "DATABASE_URL" (by decide) _ (by decide))
  intro env
  have hset : ∀ name ∈ variableNames, (env.get? name).isSome := by decide +kernel
  obtain ⟨-, hpanics, hloads, hall⟩ := environment_prevails env
  have hfile (text : String) : (directoryWith text).find? (Path.ofName Provision.envFileName) =
      some (.text text) := rfl
  have hstands {text : String} (h : ∃ env', EnvFile.load text env = .ok env') :
      Provision.settings env (directoryWith text) = .ok (ofEnvironment env) := by
    obtain ⟨env', h⟩ := h
    rcases hall hset (directoryWith text) with hok | ⟨text', e, hfile', hpanic, -⟩
    · exact hok
    · rw [hfile] at hfile'
      cases hfile'
      rw [← hpanics, h] at hpanic
      cases hpanic
  refine ⟨hset, ?_, ?_, ?_⟩
  · refine hstands (hloads ?_ assigning (by decide +kernel))
    exact nulFree_guarded.cons (by decide) (by decide)
  · exact hstands ⟨env, by decide +kernel⟩
  · decide +kernel

end Settings

end Markbook
