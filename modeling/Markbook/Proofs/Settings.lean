import Mathlib
import Markbook.Settings
import Markbook.Proofs.Numerals

namespace Markbook

open Text

def SaysNumber (bound : Nat) (raw : String) (n : Nat) : Prop :=
  ∃ body, Trims raw.toList body ∧ Numeral body n ∧ n < bound

inductive NamesFormat : String → Bool → Prop
  | json : NamesFormat "json" true
  | text : NamesFormat "text" false
  | pretty : NamesFormat "pretty" false
  | empty : NamesFormat "" false

def SaysFormat (raw : String) (json : Bool) : Prop :=
  ∃ body, Trims raw.toList body ∧ NamesFormat (String.ofList (body.map Char.toLower)) json

theorem readBelow_trim_eq_some {bound n : Nat} {raw : String} :
    readBelow bound (trim raw.toList) = some n ↔ SaysNumber bound raw n := by
  rw [readBelow_eq_some, SaysNumber, exists_trims_iff]

theorem namesFormat_iff {word : String} {json : Bool} : NamesFormat word json ↔
    (if word = "json" then some true
      else if word = "text" ∨ word = "pretty" ∨ word = "" then some false else none) =
        some json := by
  constructor
  · intro h
    cases h <;> decide
  · intro h
    split at h
    · next hword =>
      cases h
      rw [hword]
      exact .json
    split at h
    · next hword =>
      cases h
      rcases hword with rfl | rfl | rfl
      · exact .text
      · exact .pretty
      · exact .empty
    · cases h

theorem jsonFormat?_eq_some {raw : String} {json : Bool} :
    Settings.jsonFormat? raw = some json ↔ SaysFormat raw json := by
  rw [Settings.jsonFormat?, ← namesFormat_iff, SaysFormat, exists_trims_iff]

namespace Settings

variable {α : Type}

/-- A setting is what its variable says, or `default` if the variable is not set. -/
structure Shows (env : Environment) (name : String) (meaning : String → α → Prop) (default x : α) :
    Prop where
  set : ∀ raw, env.get? name = some raw → meaning raw x
  unset : env.get? name = none → x = default

structure Checked where
  name : String
  accepts : String → Prop

def Checked.Offends (v : Checked) (env : Environment) : Prop :=
  ∃ raw, env.get? v.name = some raw ∧ ¬ v.accepts raw

def Checked.of (name : String) (meaning : String → α → Prop) : Checked :=
  ⟨name, fun raw => ∃ x, meaning raw x⟩

def checked : List Checked :=
  [.of "DATABASE_MAX_CONNECTIONS" (SaysNumber (2 ^ 32)),
    .of "DATABASE_BUSY_TIMEOUT_MS" (SaysNumber (2 ^ 64)),
    .of "LOG_FORMAT" SaysFormat]

/-- Each setting is the value of its variable, as it stands or as it is read, or else the
default. -/
structure Reflects (env : Environment) (s : Settings) : Prop where
  url : Shows env "DATABASE_URL" Eq "sqlite://gradebook.db" s.store.url
  maxConnections :
    Shows env "DATABASE_MAX_CONNECTIONS" (SaysNumber (2 ^ 32)) 1 s.store.maxConnections
  busyTimeoutMs :
    Shows env "DATABASE_BUSY_TIMEOUT_MS" (SaysNumber (2 ^ 64)) 5000 s.store.busyTimeoutMs
  filter : Shows env "RUST_LOG" Eq "info" s.log.filter
  json : Shows env "LOG_FORMAT" SaysFormat false s.log.json

def ofVariable (env : Environment) (name : String) (read : String → Option α) (default : α) :
    Except InvalidSetting α :=
  match env.get? name with
  | none => .ok default
  | some raw =>
    match read raw with
    | some x => .ok x
    | none => .error ⟨name⟩

theorem number_eq (env : Environment) (name : String) (bound default : Nat) :
    number env name bound default =
      ofVariable env name (fun raw => readBelow bound (trim raw.toList)) default := by
  rw [number, ofVariable]
  cases env.get? name with
  | none => rfl
  | some raw => cases h : readBelow bound (trim raw.toList) <;> simp only [h]

theorem logFormat_eq (env : Environment) (name : String) :
    logFormat env name = ofVariable env name jsonFormat? false := by
  rw [logFormat, ofVariable]
  cases env.get? name with
  | none => rfl
  | some raw => cases h : jsonFormat? raw <;> simp only [h]

/-- What reading a variable comes to: either the variable is at fault, and is named, or it gives a
value. -/
def ReadsTo (env : Environment) (name : String) (meaning : String → α → Prop) (default : α)
    (result : Except InvalidSetting α) : Prop :=
  (Checked.of name meaning).Offends env ∧ result = .error ⟨name⟩ ∨
    ¬ (Checked.of name meaning).Offends env ∧
      ∃ x, result = .ok x ∧ Shows env name meaning default x

theorem readsTo_ofVariable {read : String → Option α} {meaning : String → α → Prop}
    (hread : ∀ raw x, read raw = some x ↔ meaning raw x) (env : Environment) (name : String)
    (default : α) :
    ReadsTo env name meaning default (ofVariable env name read default) := by
  cases hget : env.get? name with
  | none =>
      have hunset {raw : String} (h : env.get? name = some raw) : False := by simp [hget] at h
      refine .inr ⟨?_, default, by simp only [ofVariable, hget], ?_, fun _ => rfl⟩
      · rintro ⟨raw, hraw, -⟩
        exact hunset hraw
      · exact fun raw hraw => (hunset hraw).elim
  | some raw =>
      have hset {raw' : String} (h : env.get? name = some raw') : raw' = raw := by
        simpa [hget] using h.symm
      cases hraw : read raw with
      | none =>
          refine .inl ⟨⟨raw, hget, ?_⟩, by simp only [ofVariable, hget, hraw]⟩
          rintro ⟨x, hx⟩
          rw [← hread, hraw] at hx
          cases hx
      | some x =>
          have hx := (hread raw x).mp hraw
          refine .inr ⟨?_, x, by simp only [ofVariable, hget, hraw], ?_, ?_⟩
          · rintro ⟨raw', hraw', hnone⟩
            obtain rfl := hset hraw'
            exact hnone ⟨x, hx⟩
          · intro raw' hraw'
            obtain rfl := hset hraw'
            exact hx
          · intro hunset
            simp [hget] at hunset

theorem readsTo_number (env : Environment) (name : String) (bound default : Nat) :
    ReadsTo env name (SaysNumber bound) default (number env name bound default) := by
  rw [number_eq]
  exact readsTo_ofVariable (fun _ _ => readBelow_trim_eq_some) env name default

theorem readsTo_logFormat (env : Environment) (name : String) :
    ReadsTo env name SaysFormat false (logFormat env name) := by
  rw [logFormat_eq]
  exact readsTo_ofVariable (fun _ _ => jsonFormat?_eq_some) env name false

theorem shows_getD (env : Environment) (name default : String) :
    Shows env name Eq default ((env.get? name).getD default) := by
  constructor
  · intro raw hraw
    rw [hraw, Option.getD_some]
  · intro hunset
    rw [hunset, Option.getD_none]

theorem ofEnvironment_outcome (env : Environment) :
    (∃ before v after, checked = before ++ v :: after ∧ (∀ w ∈ before, ¬ w.Offends env) ∧
        v.Offends env ∧ ofEnvironment env = .error ⟨v.name⟩) ∨
      (∀ v ∈ checked, ¬ v.Offends env) ∧ ∃ s, ofEnvironment env = .ok s ∧ Reflects env s := by
  have hbound : uint32Bound = 2 ^ 32 := rfl
  have hbound' : uint64Bound = 2 ^ 64 := rfl
  rw [ofEnvironment, hbound, hbound']
  -- One variable after the other: a fault ends the reading, whatever the later ones hold.
  rcases readsTo_number env "DATABASE_MAX_CONNECTIONS" (2 ^ 32) defaultMaxConnections with
    ⟨hbad, hmax⟩ | ⟨hgood, m, hmax, hm⟩ <;> rw [hmax]
  · exact .inl ⟨[], _, _, rfl, by simp, hbad, rfl⟩
  rcases readsTo_number env "DATABASE_BUSY_TIMEOUT_MS" (2 ^ 64) defaultBusyTimeoutMs with
    ⟨hbad, hbusy⟩ | ⟨hgood', b, hbusy, hb⟩ <;> rw [hbusy]
  · exact .inl ⟨[_], _, _, rfl, by simpa using hgood, hbad, rfl⟩
  rcases readsTo_logFormat env "LOG_FORMAT" with
    ⟨hbad, hformat⟩ | ⟨hgood'', json, hformat, hjson⟩ <;> rw [hformat]
  · exact .inl ⟨[_, _], _, _, rfl, by simpa using ⟨hgood, hgood'⟩, hbad, rfl⟩
  · refine .inr ⟨by simpa [checked] using ⟨hgood, hgood', hgood''⟩, _, rfl, ?_⟩
    exact ⟨shows_getD env _ _, hm, hb, shows_getD env _ _, hjson⟩

/-- Settings are refused exactly if a variable is set to a text that it may not have, and it is the
first such variable that is named. Else each setting is what its variable says. -/
theorem ofEnvironment_spec (env : Environment) :
    ((∃ e, ofEnvironment env = .error e) ↔ ∃ v ∈ checked, v.Offends env) ∧
      (∀ e, ofEnvironment env = .error e → ∃ before v after, checked = before ++ v :: after ∧
        (∀ w ∈ before, ¬ w.Offends env) ∧ v.Offends env ∧ e.name = v.name ∧
          e.message = "Invalid value for environment variable: " ++ v.name) ∧
      ∀ s, ofEnvironment env = .ok s → Reflects env s := by
  rcases ofEnvironment_outcome env with ⟨before, v, after, hchecked, hbefore, hv, hresult⟩ |
    ⟨hnone, s, hresult, hs⟩
  · have hmem : v ∈ checked := hchecked ▸ List.mem_append_right _ (List.mem_cons_self ..)
    refine ⟨iff_of_true ⟨_, hresult⟩ ⟨v, hmem, hv⟩, ?_, ?_⟩
    · intro e he
      cases hresult.symm.trans he
      exact ⟨before, v, after, hchecked, hbefore, hv, rfl, rfl⟩
    · intro s hs
      cases hresult.symm.trans hs
  · refine ⟨iff_of_false ?_ ?_, ?_, ?_⟩
    · rintro ⟨e, he⟩
      cases hresult.symm.trans he
    · rintro ⟨v, hmem, hv⟩
      exact hnone v hmem hv
    · intro e he
      cases hresult.symm.trans he
    · intro s' hs'
      cases hresult.symm.trans hs'
      exact hs

def faulty : Environment :=
  [("LOG_FORMAT", some "xml"), ("DATABASE_BUSY_TIMEOUT_MS", some "18446744073709551616"),
    ("DATABASE_MAX_CONNECTIONS", some "\t+0004294967295\n")]

def unusual : Environment :=
  [("LOG_FORMAT", some "\u3000Json\u00A0"), ("RUST_LOG", none), ("DATABASE_URL", some " "),
    ("DATABASE_BUSY_TIMEOUT_MS", some "18446744073709551615"),
    ("DATABASE_MAX_CONNECTIONS", some "\t+0004294967295\n")]

theorem ofEnvironment_spec_extremes :
    (ofEnvironment faulty = .error ⟨"DATABASE_BUSY_TIMEOUT_MS"⟩ ∧
      ∃ v ∈ checked, v.Offends faulty) ∧
      ofEnvironment unusual = .ok ⟨⟨" ", 4294967295, 18446744073709551615⟩, ⟨"info", true⟩⟩ ∧
        Reflects unusual ⟨⟨" ", 4294967295, 18446744073709551615⟩, ⟨"info", true⟩⟩ := by
  have hfaulty : ofEnvironment faulty = .error ⟨"DATABASE_BUSY_TIMEOUT_MS"⟩ := by decide +kernel
  have hunusual : ofEnvironment unusual =
      .ok ⟨⟨" ", 4294967295, 18446744073709551615⟩, ⟨"info", true⟩⟩ := by decide +kernel
  obtain ⟨hiff, -, -⟩ := ofEnvironment_spec faulty
  obtain ⟨-, -, hreflects⟩ := ofEnvironment_spec unusual
  exact ⟨⟨hfaulty, hiff.mp ⟨_, hfaulty⟩⟩, hunusual, hreflects _ hunusual⟩

end Settings

end Markbook
