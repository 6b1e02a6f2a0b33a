/-
  ErrorBudget.Proofs.Settings.Load

  Which settings are loaded. Settings are checked twice: what a file says is checked before
  the environment comes over it, and then what is in effect. So a wrong value in a file
  keeps settings from being loaded even if the environment gives a right one in its place.
-/
import ErrorBudget.Files.Tree
import ErrorBudget.Proofs.Files
import ErrorBudget.Proofs.Generation.Report
import ErrorBudget.Settings.Load

namespace ErrorBudget.Settings

open Files (bind_apply pure_apply)

/-! ## Sound settings -/

/-- Settings that can be used. -/
structure Sound (s : Settings) : Prop where
  level : s.general.level ∈ logLevels
  format : s.general.format ∈ logFormats
  labels : ∀ key ∈ s.generator.kubernetesLabels.keys, IsVisible key

theorem check_eq_ok_iff (s : Settings) : s.check = .ok () ↔ s.Sound := by
  have blank_iff : s.generator.kubernetesLabels.keys.any Text.isBlank = true ↔
      ¬ ∀ key ∈ s.generator.kubernetesLabels.keys, IsVisible key := by
    simp only [List.any_eq_true, isBlank_iff, not_forall, exists_prop]
  rw [check]
  by_cases level : s.general.level ∈ logLevels
  · by_cases format : s.general.format ∈ logFormats
    · by_cases labels : ∀ key ∈ s.generator.kubernetesLabels.keys, IsVisible key
      · simp [level, format, mt blank_iff.1 (not_not.2 labels), Sound.mk level format labels]
      · simp [level, format, blank_iff.2 labels, mt Sound.labels labels]
    · simp [level, format, mt Sound.format format]
  · simp [level, mt Sound.level level]

theorem exists_fault (s : Settings) (h : ¬ s.Sound) : ∃ fault, s.check = .error fault := by
  cases checked : s.check with
  | error fault => exact ⟨fault, rfl⟩
  | ok _ => exact absurd (s.check_eq_ok_iff.1 checked) h

theorem overridden_eq_ok_iff (env : Environment) (s c : Settings) :
    overridden env s = .ok c ↔ (s.override env).Sound ∧ c = s.override env := by
  rw [← check_eq_ok_iff]
  change ((s.override env).check >>= fun _ => pure (s.override env)) = .ok c ↔ _
  cases (s.override env).check with
  | error fault => exact ⟨fun h => (nomatch h), fun h => (nomatch h.1)⟩
  | ok _ => exact ⟨fun h => ⟨rfl, (Except.ok.inj h).symm⟩, fun h => congrArg Except.ok h.2.symm⟩

/-! ## Values that the environment replaces -/

/-- The file has a wrong value for a setting, and the environment one to put in its place:
    a level or a format that there is, or labels that can be read. -/
inductive Replaced (env : Environment) (s : Settings) : Prop where
  | level (wrong : s.general.level ∉ logLevels) {value : String} (right : value ∈ logLevels)
      (given : env.lookup Variable.logLevel.name = some value)
  | format (wrong : s.general.format ∉ logFormats) {value : String} (right : value ∈ logFormats)
      (given : env.lookup Variable.logFormat.name = some value)
  | labels {key : String} (wrong : key ∈ s.generator.kubernetesLabels.keys ∧ ¬ IsVisible key)
      {listing : String} {labels : Labels}
      (read : Labels.readLenientListing? listing = some labels)
      (given : env.lookup Variable.kubernetesLabels.name = some listing)

theorem Replaced.not_sound {env : Environment} {s : Settings} (h : Replaced env s) :
    ¬ s.Sound := by
  intro sound
  cases h with
  | level wrong => exact wrong sound.level
  | format wrong => exact wrong sound.format
  | labels wrong => exact wrong.2 (sound.labels _ wrong.1)

/-- A text in effect that is among some texts is the file's or the environment's. -/
theorem mem_overText {env : Environment} {v : Variable} {old : String} {values : List String}
    (h : overText env v old ∈ values) :
    old ∈ values ∨ ∃ value ∈ values, env.lookup v.name = some value := by
  rw [overText] at h
  cases given : env.lookup v.name with
  | none =>
    rw [given] at h
    exact .inl h
  | some value =>
    rw [given] at h
    exact .inr ⟨value, h, rfl⟩

/-- Labels in effect are the file's or can be read from the environment. -/
theorem overLabels_cases (env : Environment) (v : Variable) (old : Labels) :
    overLabels env v old = old ∨ ∃ listing labels, env.lookup v.name = some listing ∧
      Labels.readLenientListing? listing = some labels := by
  rw [overLabels]
  cases given : env.lookup v.name with
  | none => exact .inl rfl
  | some listing =>
    rw [Option.bind_some]
    cases read : Labels.readLenientListing? listing with
    | none => exact .inl rfl
    | some labels => exact .inr ⟨listing, labels, rfl, read⟩

/-- If the settings in effect are sound and those of the file are not, some wrong value of
    the file is not in effect. -/
theorem replaced_of_not_sound {env : Environment} {s : Settings}
    (sound : (s.override env).Sound) (h : ¬ s.Sound) : Replaced env s := by
  by_cases level : s.general.level ∈ logLevels
  · by_cases format : s.general.format ∈ logFormats
    · have labels : ¬ ∀ key ∈ s.generator.kubernetesLabels.keys, IsVisible key :=
        fun labels => h ⟨level, format, labels⟩
      obtain ⟨key, listed, blank⟩ : ∃ key ∈ s.generator.kubernetesLabels.keys, ¬ IsVisible key := by
        simpa only [not_forall, exists_prop] using labels
      rcases overLabels_cases env .kubernetesLabels s.generator.kubernetesLabels with
        same | ⟨listing, labels, given, read⟩
      · have visible := sound.labels key
        rw [override, same] at visible
        exact absurd (visible listed) blank
      · exact .labels ⟨listed, blank⟩ read given
    · obtain ⟨value, right, given⟩ := (mem_overText sound.format).resolve_left format
      exact .format format right given
  · obtain ⟨value, right, given⟩ := (mem_overText sound.level).resolve_left level
    exact .level level right given

/-! ## Loading -/

section Load

variable {σ : Type} {files : Files (StateM σ)} {path content : String} {t t' : σ}

/-- What is loaded from a file that can be read. -/
theorem load_apply (readable : files.readText path t = (.ok content, t')) (env : Environment) :
    load files env path t =
      ((do
        let s ← ofText content
        s.check
        overridden env s), t') := by
  rw [load, bind_apply, ofFile, bind_apply, readable]
  dsimp only [pure_apply]
  simp only [bind_assoc, pure_bind]

theorem load_of_sound (readable : files.readText path t = (.ok content, t')) (env : Environment)
    {s : Settings} (parsed : ofText content = .ok s) (sound : s.Sound) :
    load files env path t = (overridden env s, t') := by
  rw [load_apply readable, parsed]
  change ((s.check >>= fun _ => overridden env s), t') = _
  rw [s.check_eq_ok_iff.2 sound]
  rfl

/-- The fault of what a file says comes up in any environment. -/
theorem load_of_fault (readable : files.readText path t = (.ok content, t')) (env : Environment)
    {s : Settings} {fault : SettingsFault} (parsed : ofText content = .ok s)
    (wrong : s.check = .error fault) : load files env path t = (.error fault, t') := by
  rw [load_apply readable, parsed]
  change ((s.check >>= fun _ => overridden env s), t') = _
  rw [wrong]
  rfl

theorem load_eq_ok_iff (readable : files.readText path t = (.ok content, t'))
    (env : Environment) (c : Settings) :
    load files env path t = (.ok c, t') ↔
      ∃ s, ofText content = .ok s ∧ s.Sound ∧ (s.override env).Sound ∧ c = s.override env := by
  constructor
  · intro loaded
    cases parsed : ofText content with
    | error fault =>
      rw [load_apply readable, parsed] at loaded
      exact nomatch (Prod.mk.inj loaded).1
    | ok s =>
      have sound : s.Sound := by
        by_contra not_sound
        obtain ⟨fault, wrong⟩ := s.exists_fault not_sound
        rw [load_of_fault readable env parsed wrong] at loaded
        exact nomatch (Prod.mk.inj loaded).1
      rw [load_of_sound readable env parsed sound] at loaded
      exact ⟨s, rfl, sound, (overridden_eq_ok_iff env s c).1 (Prod.mk.inj loaded).1⟩
  · rintro ⟨s, parsed, sound, effective⟩
    rw [load_of_sound readable env parsed sound, (overridden_eq_ok_iff env s c).2 effective]

/-- Settings are loaded from a file that can be read exactly if they are sound both as the
    file has them and with the environment over them, and they are the latter. If they are
    not sound in the file, its fault comes up in any environment; so settings that would
    be sound in effect are refused exactly if the environment replaces a wrong value. -/
theorem load_checks_file (readable : files.readText path t = (.ok content, t'))
    (env : Environment) :
    (∀ c, load files env path t = (.ok c, t') ↔
      ∃ s, ofText content = .ok s ∧ s.Sound ∧ (s.override env).Sound ∧ c = s.override env) ∧
    (∀ s fault, ofText content = .ok s → s.check = .error fault →
      load files env path t = (.error fault, t')) ∧
    ∀ s, ofText content = .ok s → (s.override env).Sound →
      ((∃ fault, load files env path t = (.error fault, t')) ↔ Replaced env s) := by
  refine ⟨load_eq_ok_iff readable env, fun s fault => load_of_fault readable env,
    fun s parsed effective => ⟨fun ⟨fault, refused⟩ => ?_, fun replaced => ?_⟩⟩
  · refine replaced_of_not_sound effective fun sound => ?_
    have loaded := (load_eq_ok_iff readable env _).2 ⟨s, parsed, sound, effective, rfl⟩
    exact nomatch (Prod.mk.inj (refused.symm.trans loaded)).1
  · obtain ⟨fault, wrong⟩ := s.exists_fault replaced.not_sound
    exact ⟨fault, load_of_fault readable env parsed wrong⟩

/-- A level that there is not in the file, and one that there is in the environment. -/
theorem load_checks_file_level :
    let content := "[general]\nlog_level = \"verbose\"\n"
    let t := FileTree.ofEntries [] [("slogen.toml", .file content.toUTF8)]
    let env : Environment := [("SLOGEN_GENERAL_LOG_LEVEL", "debug")]
    FileTree.files.readText "slogen.toml" t = (.ok content, t) ∧
    ∃ s, ofText content = .ok s ∧ (s.override env).Sound ∧
      ∃ fault, load FileTree.files env "slogen.toml" t = (.error fault, t) := by
  intro content t env
  have read : t.readText "slogen.toml" = .ok content := eq_ok_of_toOption (by decide +kernel)
  have readable : FileTree.files.readText "slogen.toml" t = (.ok content, t) :=
    congrArg (fun result => (result, t)) read
  have parsed : ofText content = .ok { general := { level := "verbose" } } :=
    eq_ok_of_toOption (by decide +kernel)
  have effective : (override env { general := { level := "verbose" } }).Sound :=
    ⟨by decide, by decide, by decide⟩
  have replaced : Replaced env { general := { level := "verbose" } } :=
    .level (by decide) (by decide : "debug" ∈ logLevels) rfl
  exact ⟨readable, _, parsed, effective,
    ((load_checks_file readable env).2.2 _ parsed effective).2 replaced⟩

end Load

end ErrorBudget.Settings
