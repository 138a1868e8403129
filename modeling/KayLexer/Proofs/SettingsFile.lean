import KayLexer.Proofs.Settings

/-!
A settings file that changes. Loading sets the variables of the file that are not set yet, and they
stay set, so that a later load finds them and leaves them as they are. Main statement: settings that
are taken again behind a change of the file are, one by one, those of the first file where it sets
the variable, and those of the new file elsewhere.
-/

namespace KayLexer

namespace Environment

variable {env : Environment} {key : String}

/-- A variable that is set is not loaded again. -/
theorem load_of_isSome (h : (env key).isSome) (file : List (String × String)) :
    env.load file key = env key := by
  obtain ⟨value, hvalue⟩ := Option.isSome_iff_exists.1 h
  rw [load, hvalue]
  rfl

/-- **Of two files the first one counts** for the variables that it sets, and the second one for all
others. -/
theorem load_load (env : Environment) (first second : List (String × String)) (key : String) :
    (env.load first).load second key =
      env.load (if (ofList first key).isSome then first else second) key := by
  cases hfirst : ofList first key with
  | some value =>
    have hset : (env.load first key).isSome := by
      rw [load, hfirst]
      cases env key <;> rfl
    rw [load_of_isSome hset]
    rfl
  | none =>
    have hunset : env.load first key = env key := by
      rw [load, hfirst]
      cases env key <;> rfl
    rw [load, hunset]
    rfl

end Environment

namespace Settings

variable {s s' : Settings} {env env' : Environment} {registry : Encoding.Registry}

/-- Each setting is taken from its variable alone. -/
theorem encodingOf_congr (h : env encodingKey = env' encodingKey) :
    encodingOf env registry = encodingOf env' registry := by
  rw [encodingOf, encodingOf, h]

theorem thresholdOf_congr (h : env thresholdKey = env' thresholdKey) :
    thresholdOf env = thresholdOf env' := by
  rw [thresholdOf, thresholdOf, h]

theorem ofEnvironment_eq_ok_iff : ofEnvironment env registry = .ok s ↔
    encodingOf env registry = .ok s.sourceEncoding ∧ thresholdOf env = .ok s.logThreshold := by
  obtain ⟨name, n⟩ := s
  unfold ofEnvironment
  cases encodingOf env registry with
  | error e => simp [bind, Except.bind]
  | ok name' =>
    cases thresholdOf env with
    | error e => simp [bind, Except.bind]
    | ok n' => simp [bind, Except.bind, pure, Except.pure]

/-- Settings that are taken again are those of the environment. -/
theorem reload_eq_ok (h : ofEnvironment env registry = .ok s') :
    s.reload env registry = (.ok (), s') := by
  obtain ⟨hname, hthreshold⟩ := ofEnvironment_eq_ok_iff.1 h
  rw [reload, hname]
  simp only [hthreshold]

/-- Where each of two files gives settings, loading one behind the other gives settings too, each of
them from the file that counts for its variable. -/
theorem ofEnvironment_load_load {first second : List (String × String)} {s₁ s₂ : Settings}
    (h₁ : ofEnvironment (env.load first) registry = .ok s₁)
    (h₂ : ofEnvironment (env.load second) registry = .ok s₂) :
    ∃ s, ofEnvironment ((env.load first).load second) registry = .ok s ∧
      s.sourceEncoding =
        (if (Environment.ofList first encodingKey).isSome then s₁ else s₂).sourceEncoding ∧
      s.logThreshold =
        (if (Environment.ofList first thresholdKey).isSome then s₁ else s₂).logThreshold := by
  obtain ⟨hname₁, hthreshold₁⟩ := ofEnvironment_eq_ok_iff.1 h₁
  obtain ⟨hname₂, hthreshold₂⟩ := ofEnvironment_eq_ok_iff.1 h₂
  let s : Settings :=
    ⟨(if (Environment.ofList first encodingKey).isSome then s₁ else s₂).sourceEncoding,
      (if (Environment.ofList first thresholdKey).isSome then s₁ else s₂).logThreshold⟩
  refine ⟨s, ofEnvironment_eq_ok_iff.2 ⟨?_, ?_⟩, rfl, rfl⟩
  · rw [encodingOf_congr (env.load_load first second encodingKey)]
    dsimp only [s]
    split
    · exact hname₁
    · exact hname₂
  · rw [thresholdOf_congr (env.load_load first second thresholdKey)]
    dsimp only [s]
    split
    · exact hthreshold₁
    · exact hthreshold₂

end Settings

namespace SettingsProcess

open Settings (encodingKey thresholdKey)

variable {p p' p₁ p₂ : SettingsProcess}

theorem create_eq_ok (h : p.create = (.ok (), p')) : ∃ s,
    Settings.ofEnvironment (p.env.load p.file) p.registry = .ok s ∧
      p' = { p.loaded with settings := some s } := by
  simp only [create, loaded] at h
  split at h
  · next s hs =>
    cases h
    exact ⟨s, hs, rfl⟩
  · cases h

/-- **Behind a change of the settings file the variables of the old file stay.** Settings are made
from one file, and again from another one in the environment as it was at first. Where the first
file is replaced by the other and the settings are taken again, this gives no error, and each
setting is the one of the first file if that sets its variable, and the one of the other file if
not. So they all are those of the other file only where that agrees with what the first one set. -/
theorem reload_changed {file : List (String × String)} (h₁ : p.create = (.ok (), p₁))
    (h₂ : { p with file }.create = (.ok (), p₂)) : ∃ s₁ s₂ s p',
    p₁.settings = some s₁ ∧ p₂.settings = some s₂ ∧
    { p₁ with file }.reload = some (.ok (), p') ∧ p'.settings = some s ∧
    s.sourceEncoding =
      (if (Environment.ofList p.file encodingKey).isSome then s₁ else s₂).sourceEncoding ∧
    s.logThreshold =
      (if (Environment.ofList p.file thresholdKey).isSome then s₁ else s₂).logThreshold ∧
    (s = s₂ ↔
      ((Environment.ofList p.file encodingKey).isSome → s₁.sourceEncoding = s₂.sourceEncoding) ∧
      ((Environment.ofList p.file thresholdKey).isSome → s₁.logThreshold = s₂.logThreshold)) := by
  obtain ⟨s₁, hs₁, rfl⟩ := create_eq_ok h₁
  obtain ⟨s₂, hs₂, rfl⟩ := create_eq_ok h₂
  obtain ⟨s, hs, hname, hthreshold⟩ := Settings.ofEnvironment_load_load hs₁ hs₂
  have hreload : s₁.reload ((p.env.load p.file).load file) p.registry = (.ok (), s) :=
    Settings.reload_eq_ok hs
  let p' : SettingsProcess := ⟨(p.env.load p.file).load file, file, some s, p.registry⟩
  have hp' : ({ p.loaded with settings := some s₁, file } : SettingsProcess).reload =
      some (.ok (), p') := by
    rw [reload_eq_some (s := s₁) rfl]
    dsimp only [loaded]
    rw [hreload]
  refine ⟨s₁, s₂, s, p', rfl, rfl, hp', rfl, hname, hthreshold, ?_⟩
  have heq : s = s₂ ↔
      s.sourceEncoding = s₂.sourceEncoding ∧ s.logThreshold = s₂.logThreshold := by
    cases s
    cases s₂
    simp
  rw [heq, hname, hthreshold, apply_ite Settings.sourceEncoding, apply_ite Settings.logThreshold,
    ite_eq_right_iff, ite_eq_right_iff]

/-- A process whose settings file sets the threshold. -/
def informed : SettingsProcess := { initial with file := [(thresholdKey, "info")] }

/-- What the settings file says later: another threshold, and an encoding too. -/
def laterFile : List (String × String) := [(encodingKey, "ascii"), (thresholdKey, "error")]

/-- The process with the settings of its first file. -/
def informedMade : SettingsProcess := { informed.loaded with settings := some ⟨"utf-8", 20⟩ }

/-- The process with the settings that the later file gives by itself. -/
def laterMade : SettingsProcess :=
  { ({ informed with file := laterFile } : SettingsProcess).loaded with
    settings := some ⟨"ascii", 40⟩ }

theorem create_informed : informed.create = (.ok (), informedMade) := by
  with_unfolding_all rfl

theorem create_laterFile : { informed with file := laterFile }.create = (.ok (), laterMade) := by
  with_unfolding_all rfl

/-- The encoding is taken from the later file, and the threshold is not. -/
theorem reload_changed_informed : informed.create = (.ok (), informedMade) ∧
    { informed with file := laterFile }.create = (.ok (), laterMade) ∧
    ∃ p', { informedMade with file := laterFile }.reload = some (.ok (), p') ∧
      p'.settings = some ⟨"ascii", 20⟩ := by
  refine ⟨create_informed, create_laterFile, ?_⟩
  obtain ⟨s₁, s₂, s, p', hs₁, hs₂, hreload, hs, hname, hthreshold, -⟩ :=
    reload_changed create_informed create_laterFile
  obtain rfl := Option.some.inj hs₁
  obtain rfl := Option.some.inj hs₂
  have hunset : (Environment.ofList informed.file encodingKey).isSome = false := by decide
  have hset : (Environment.ofList informed.file thresholdKey).isSome = true := by decide
  rw [hunset] at hname
  rw [hset] at hthreshold
  obtain ⟨name, n⟩ := s
  obtain rfl : name = "ascii" := hname
  obtain rfl : n = 20 := hthreshold
  exact ⟨p', hreload, hs⟩

/-- **A changed settings file is not always picked up.** -/
theorem reload_not_refreshed : ¬ ∀ (p p₁ p₂ : SettingsProcess) (file : List (String × String)),
    p.env encodingKey = none → p.env thresholdKey = none → p.create = (.ok (), p₁) →
    { p with file }.create = (.ok (), p₂) →
    ∃ p', { p₁ with file }.reload = some (.ok (), p') ∧ p'.settings = p₂.settings := by
  intro h
  obtain ⟨p', hreload, hsettings⟩ :=
    h informed _ _ laterFile rfl rfl create_informed create_laterFile
  have hstale : (reload { informedMade with file := laterFile }).map (·.2.settings) =
      some (some ⟨"ascii", 20⟩) := by
    with_unfolding_all rfl
  rw [hreload] at hstale
  have hkept : p'.settings = some ⟨"ascii", 20⟩ := Option.some.inj hstale
  have hfresh : laterMade.settings = some ⟨"ascii", 40⟩ := rfl
  rw [hsettings, hfresh] at hkept
  simp at hkept

end SettingsProcess

end KayLexer
