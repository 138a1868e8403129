import KayLexer.Settings

/-!
Settings that are taken again. The encoding and the threshold are taken one after the other, each
only if its variable gives one. Main statement: what settings are left by an error, which keeps the
threshold, and keeps the encoding too unless it was taken before the threshold was refused.
-/

namespace KayLexer

namespace Settings

variable {s s' : Settings} {env : Environment} {registry : Encoding.Registry} {e : SettingsError}
  {name : String}

/-- A name that an environment sets is that of an encoding. -/
theorem exists_ofName_of_encodingOf (h : encodingOf env registry = .ok name) :
    ∃ encoding, Encoding.ofName name registry = .ok encoding := by
  unfold encodingOf parseEncoding at h
  split at h
  · next encoding hname =>
    obtain rfl := Except.ok.inj h
    exact ⟨encoding, hname⟩
  · cases h
  · cases h

/-- **The two ways in which settings are refused**, and what is left by them. -/
theorem reload_eq_error_iff : s.reload env registry = (.error e, s') ↔
    encodingOf env registry = .error e ∧ s' = s ∨
    ∃ name, encodingOf env registry = .ok name ∧ thresholdOf env = .error e ∧
      s' = { s with sourceEncoding := name } := by
  unfold reload
  cases hname : encodingOf env registry with
  | error x => simp [eq_comm]
  | ok name =>
    cases hthreshold : thresholdOf env with
    | error x => simp [eq_comm]
    | ok n => simp

end Settings

namespace SettingsProcess

variable {p p' : SettingsProcess} {s : Settings} {r : Except SettingsError Unit}

/-- Settings are taken from the environment into which the settings file was loaded. -/
theorem reload_eq_some (hs : p.settings = some s) : p.reload =
    some ((s.reload p.loaded.env p.registry).1,
      { p.loaded with settings := some (s.reload p.loaded.env p.registry).2 }) := by
  rw [reload, hs]
  rfl

/-- **An error keeps the threshold, and keeps the encoding unless the threshold was refused.** In
the latter case the encoding is the one that the environment sets, which was found to be one. This
is so whatever encodings are known by further names. -/
theorem reload_error {e : SettingsError} (hs : p.settings = some s)
    (h : p.reload = some (.error e, p')) : ∃ s', p'.settings = some s' ∧
      s'.logThreshold = s.logThreshold ∧
      (Settings.encodingOf p.loaded.env p.registry = .error e ∧
          s'.sourceEncoding = s.sourceEncoding ∨
        Settings.encodingOf p.loaded.env p.registry = .ok s'.sourceEncoding ∧
        Settings.thresholdOf p.loaded.env = .error e ∧
        ∃ encoding, Encoding.ofName s'.sourceEncoding p.registry = .ok encoding) := by
  rw [reload_eq_some hs] at h
  obtain ⟨herror, hp⟩ := Prod.mk.inj (Option.some.inj h)
  have hleft : s.reload p.loaded.env p.registry =
      (.error e, (s.reload p.loaded.env p.registry).2) := Prod.ext herror rfl
  refine ⟨(s.reload p.loaded.env p.registry).2, by rw [← hp], ?_⟩
  rcases Settings.reload_eq_error_iff.1 hleft with ⟨hname, hkept⟩ | ⟨name, hname, hthreshold, hkept⟩
  · rw [hkept]
    exact ⟨rfl, Or.inl ⟨hname, rfl⟩⟩
  · rw [hkept]
    exact ⟨rfl, Or.inr ⟨hname, hthreshold, Settings.exists_ofName_of_encodingOf hname⟩⟩

/-- The standard settings in an environment that sets an encoding, and a threshold that is none. -/
def halfRefused : SettingsProcess :=
  { (initial.set Settings.encodingKey (some "ascii")).set Settings.thresholdKey (some "LOUD") with
    settings := some ⟨"utf-8", LogThreshold.standard⟩ }

/-- What is left there by an error: the encoding of the environment, and the threshold as it was. -/
def halfTaken : SettingsProcess :=
  { halfRefused.loaded with settings := some ⟨"ascii", LogThreshold.standard⟩ }

theorem reload_halfRefused :
    halfRefused.reload = some (.error (.unknownThreshold "LOUD"), halfTaken) := by
  with_unfolding_all rfl

theorem reload_error_halfRefused :
    halfRefused.settings = some ⟨"utf-8", LogThreshold.standard⟩ ∧
    halfRefused.reload = some (.error (.unknownThreshold "LOUD"), halfTaken) ∧
    ∃ s', halfTaken.settings = some s' ∧ s'.logThreshold = LogThreshold.standard ∧
      (Settings.encodingOf halfRefused.loaded.env = .error (.unknownThreshold "LOUD") ∧
          s'.sourceEncoding = "utf-8" ∨
        Settings.encodingOf halfRefused.loaded.env = .ok s'.sourceEncoding ∧
        Settings.thresholdOf halfRefused.loaded.env = .error (.unknownThreshold "LOUD") ∧
        ∃ encoding, Encoding.ofName s'.sourceEncoding = .ok encoding) :=
  ⟨rfl, reload_halfRefused, reload_error rfl reload_halfRefused⟩

/-- **Settings that are refused may have been taken in part.** -/
theorem reload_not_atomic : ¬ ∀ (p p' : SettingsProcess) (s : Settings) (e : SettingsError),
    p.settings = some s → p.reload = some (.error e, p') → p'.settings = some s := by
  intro h
  have hkept := h halfRefused halfTaken _ _ rfl reload_halfRefused
  have hchanged : halfTaken.settings = some ⟨"ascii", LogThreshold.standard⟩ := rfl
  rw [hchanged] at hkept
  simp at hkept

end SettingsProcess

end KayLexer
