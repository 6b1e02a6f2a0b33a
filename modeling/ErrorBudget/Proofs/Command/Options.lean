/-
  ErrorBudget.Proofs.Command.Options

  The options of a call that makes rules. Arguments come over the settings in effect: a
  switch that either of the two turns on is on, labels are taken key by key, and a class file
  that the arguments name hides that of the settings. What is done for the call depends on
  the settings only through these options.
-/
import ErrorBudget.Command
import ErrorBudget.Files.Tree
import ErrorBudget.Proofs.Settings.Precedence
import ErrorBudget.Proofs.Text

namespace ErrorBudget

open Files (bind_apply)

/-! ## Class files -/

namespace Settings

/-- The class file of the settings: a path in which something is to be seen, without white
    space at its ends. -/
theorem classesPath_eq (s : Settings) :
    s.classesPath = if IsVisible s.generator.classesPath
      then some (Text.trim s.generator.classesPath) else none := by
  have blank_iff : (Text.trim s.generator.classesPath).isEmpty = true ↔
      ¬ IsVisible s.generator.classesPath := by
    rw [String.isEmpty_iff, Text.trim, String.ofList_eq_empty_iff, Text.trimChars_eq_nil_iff]
    simp [IsVisible, Text.Blank]
  rw [classesPath]
  by_cases visible : IsVisible s.generator.classesPath
  · rw [if_pos visible, if_neg fun blank => blank_iff.1 blank visible]
  · rw [if_neg visible, if_pos (blank_iff.2 visible)]

end Settings

namespace Command

/-! ## Options -/

/-- Labels that the arguments of a call list. -/
def Listed : Option String → Labels → Prop
  | none, extra => extra = KeyMap.empty
  | some listing, extra => Labels.readListing listing = .ok extra

/-- Options that put the arguments of a call over the settings. -/
structure RuleOptions.Over (s : Settings) (disableTicket kubernetes : Bool)
    (labels : Option String) (o : RuleOptions) : Prop where
  disableTicket : o.disableTicket = (disableTicket || s.generator.disableTicket)
  kubernetes : o.kubernetes = (kubernetes || s.generator.kubernetes)
  labels : ∃ extra, Listed labels extra ∧
    ∀ key, o.labels.get? key = (extra.get? key).or (s.generator.kubernetesLabels.get? key)

theorem RuleOptions.over_iff {s : Settings} {disableTicket kubernetes : Bool}
    {labels : Option String} {o : RuleOptions} :
    o.Over s disableTicket kubernetes labels ↔ ∃ extra, Listed labels extra ∧ o =
      { disableTicket := disableTicket || s.generator.disableTicket
        kubernetes := kubernetes || s.generator.kubernetes
        labels := s.generator.kubernetesLabels.union extra } := by
  constructor
  · rintro ⟨tickets, manifests, extra, listed, each⟩
    obtain ⟨_, _, l⟩ := o
    obtain rfl : l = s.generator.kubernetesLabels.union extra :=
      KeyMap.ext_get? fun key => (each key).trans (KeyMap.get?_union _ _ key).symm
    exact ⟨extra, listed, by rw [← tickets, ← manifests]⟩
  · rintro ⟨extra, listed, rfl⟩
    exact ⟨rfl, rfl, extra, listed, KeyMap.get?_union _ _⟩

/-- Options are there exactly if the labels of the arguments can be read. -/
theorem resolve_eq_ok_iff {s : Settings} {disableTicket kubernetes : Bool}
    {labels : Option String} {o : RuleOptions} :
    RuleOptions.resolve s disableTicket kubernetes labels = .ok o ↔
      o.Over s disableTicket kubernetes labels := by
  rw [RuleOptions.over_iff]
  cases labels with
  | none => simp [RuleOptions.resolve, Listed, eq_comm]
  | some listing =>
    cases read : Labels.readListing listing with
    | error e => simp [RuleOptions.resolve, Listed, read]
    | ok extra => simp [RuleOptions.resolve, Listed, read, eq_comm]

/-! ## Calls -/

section Stages

variable {m : Type → Type} [Monad m]

/-- The rules of a document, or how a call ends without them. -/
def collectRules (files : Files m) (output : ReportFormat) (sloPath : String)
    (classesPath : Option String) (o : RuleOptions) : m (Except Ending (List SloRules)) := do
  match ← Document.loadWith files sloPath classesPath with
  | .error fault => return .error { fault := some (.rules fault) }
  | .ok d =>
    let g : Generator := { disableTicket := o.disableTicket }
    match (g.generateAll d).result with
    | .error failures =>
      return .error {
        stderr := (Report.failures (failures.map .of)).render output
        fault := some (.failedSlos failures.length) }
    | .ok rules => return .ok rules

/-- Makes and writes rules by options, and no settings, with a writer for the rules. -/
def makeRulesWith (write : Yaml.Writer) (files : Files m) (output : ReportFormat)
    (sloPath : String) (classesPath ruleOutput : Option String) (o : RuleOptions) : m Ending := do
  match ← collectRules files output sloPath classesPath o with
  | .error ending => return ending
  | .ok rules => writeRules write files output ruleOutput o rules

/-- Makes and writes rules by options, and no settings. -/
def makeRules (files : Files m) (output : ReportFormat) (sloPath : String)
    (classesPath ruleOutput : Option String) (o : RuleOptions) : m Ending :=
  makeRulesWith Yaml.writer files output sloPath classesPath ruleOutput o

end Stages

section Calls

variable {σ : Type} (files : Files (StateM σ)) {env : Settings.Environment} {i : Invocation}
  {sloPath : String} {classesPath ruleOutput labels : Option String}
  {disableTicket kubernetes : Bool} {s : Settings} {t t' : σ}

theorem generate_of_resolved {o : RuleOptions} (write : Yaml.Writer) (output : ReportFormat)
    (resolved : RuleOptions.resolve s disableTicket kubernetes labels = .ok o) (t : σ) :
    generate write files s output sloPath classesPath ruleOutput disableTicket kubernetes labels t =
      makeRulesWith write files output sloPath (classesPath <|> s.classesPath) ruleOutput o t := by
  rw [generate, resolved, makeRulesWith, collectRules]
  dsimp only
  rw [bind_apply, bind_apply, bind_apply]
  cases (Document.loadWith files sloPath (classesPath <|> s.classesPath) t).1 with
  | error fault => rfl
  | ok d =>
    dsimp only
    cases (Generator.generateAll { disableTicket := o.disableTicket } d).result with
    | error failures => rfl
    | ok rules => rfl

/-- A call that names no settings file makes rules by its options, once there are settings. -/
theorem perform_of_over {c : Settings} {o : RuleOptions} (unnamed : i.config = none)
    (makes : i.action =
      .generate sloPath classesPath ruleOutput disableTicket kubernetes labels)
    (loaded : (Settings.loadOrDefault files env defaultSettings t).1 = .ok c)
    (settled : o.Over c disableTicket kubernetes labels) :
    perform files env i t = makeRules files i.output sloPath (classesPath <|> c.classesPath)
      ruleOutput o (Settings.loadOrDefault files env defaultSettings t).2 := by
  have resolved := resolve_eq_ok_iff.2 settled
  rw [perform, performWith, bind_apply, unnamed, loadSettings, makes, loaded]
  exact generate_of_resolved files Yaml.writer i.output resolved _

end Calls

/-- Where the options of a call come from. Settings are those of the environment, or else of
    the file, or else their own, each kind by its own rule, and a file that is missing is like
    an empty one; a variable changes its own setting only, and once. Arguments come over the
    settings, labels key by key, and the rules are made by the options that result. -/
theorem settings_precedence {σ : Type} (files : Files (StateM σ)) (env : Settings.Environment) :
    (∀ (path : String) (t : σ) (c : Settings),
      (Settings.loadOrDefault files env path t).1 = .ok c →
        ∃ root, Settings.Says (files.readText path t).1 root ∧ Settings.InEffect env root c) ∧
    (∀ listing l, Labels.readLenientListing? listing = some l ↔
      ∃ labels, Labels.Lists listing labels ∧ l = KeyMap.ofList labels) ∧
    (∀ s : Settings, (s.override env).override env = s.override env ∧
      ∀ (v w : Settings.Variable) (value : String), w ≠ v →
        w.Same (s.override ((v.name, value) :: env)) (s.override env)) ∧
    (∀ (s : Settings) (disableTicket kubernetes : Bool) (labels : Option String) (o : RuleOptions),
      RuleOptions.resolve s disableTicket kubernetes labels = .ok o ↔
        o.Over s disableTicket kubernetes labels) ∧
    (∀ (i : Invocation) (sloPath : String) (classesPath ruleOutput labels : Option String)
      (disableTicket kubernetes : Bool) (t : σ) (c : Settings) (o : RuleOptions),
      i.config = none →
      i.action = .generate sloPath classesPath ruleOutput disableTicket kubernetes labels →
      (Settings.loadOrDefault files env defaultSettings t).1 = .ok c →
      o.Over c disableTicket kubernetes labels →
        perform files env i t = makeRules files i.output sloPath
          (classesPath <|> if IsVisible c.generator.classesPath
            then some (Text.trim c.generator.classesPath) else none)
          ruleOutput o (Settings.loadOrDefault files env defaultSettings t).2) ∧
    ∀ (path other : String) (t t' u u' : σ), files.readText path t = (.error .notFound, t') →
      files.readText other u = (.ok "", u') →
        (Settings.loadOrDefault files env path t).1 =
          (Settings.loadOrDefault files env other u).1 := by
  refine ⟨fun path t c => Settings.inEffect_of_loadOrDefault,
    fun listing l => Labels.readLenientListing?_eq_some_iff,
    fun s => ⟨s.override_override env, fun v w value other =>
      Settings.same_override_cons other value env s⟩,
    fun s disableTicket kubernetes labels o => resolve_eq_ok_iff, ?_, ?_⟩
  · intro i sloPath classesPath ruleOutput labels disableTicket kubernetes t c o unnamed makes
      loaded settled
    rw [perform_of_over files unnamed makes loaded settled, c.classesPath_eq]
  · intro path other t t' u u' absent empty
    rw [Settings.loadOrDefault_absent absent, Settings.loadOrDefault_empty empty]

/-- A file and an environment that share the settings, in a call with a label of its own. -/
theorem settings_precedence_manifests :
    let content := "[general]\nlog_level = \"debug\"\n[generator]\nkubernetes = true\n" ++
      "kubernetes_labels.team = \"sre\"\nclasses_path = \" classes.yml\"\n"
    let t := FileTree.ofEntries [] [("slogen.toml", .file content.toUTF8)]
    let env : Settings.Environment :=
      [("SLOGEN_GENERATOR_KUBERNETES", "yes"), ("SLOGEN_GENERATOR_DISABLE_TICKET", "true")]
    let i : Invocation :=
      { action := .generate "slos.yml" none none false false (some "tier=gold") }
    let labels := KeyMap.ofList [("team", "sre"), ("tier", "gold")]
    (∃ c, (Settings.loadOrDefault FileTree.files env "slogen.toml" t).1 = .ok c ∧
      (∃ root, Settings.Says (FileTree.files.readText "slogen.toml" t).1 root ∧
        Settings.InEffect env root c) ∧
      perform FileTree.files env i t = makeRules FileTree.files i.output "slos.yml"
        (some "classes.yml") none ⟨true, true, labels⟩
        (Settings.loadOrDefault FileTree.files env "slogen.toml" t).2) ∧
    (Settings.loadOrDefault FileTree.files env "none.toml" t).1 =
      (Settings.loadOrDefault FileTree.files env "slogen.toml"
        (FileTree.ofEntries [] [("slogen.toml", .file "".toUTF8)])).1 := by
  intro content t env i labels
  obtain ⟨in_effect, -, -, resolves, made, absent⟩ := settings_precedence FileTree.files env
  let c : Settings :=
    { general := { level := "debug" }
      generator :=
        { disableTicket := true
          kubernetes := true
          kubernetesLabels := KeyMap.ofList [("team", "sre")]
          classesPath := " classes.yml" } }
  have loaded : (Settings.loadOrDefault FileTree.files env "slogen.toml" t).1 = .ok c :=
    eq_ok_of_toOption (by decide +kernel)
  have read : Labels.readListing "tier=gold" = .ok (KeyMap.ofList [("tier", "gold")]) :=
    eq_ok_of_toOption (by decide +kernel)
  have settled : RuleOptions.Over c false false (some "tier=gold") ⟨true, true, labels⟩ :=
    RuleOptions.over_iff.2 ⟨_, read, rfl⟩
  have missing : t.readText "none.toml" = .error .notFound := by decide +kernel
  have empty : (FileTree.ofEntries [] [("slogen.toml", .file "".toUTF8)]).readText
      "slogen.toml" = .ok "" := eq_ok_of_toOption (by decide +kernel)
  refine ⟨⟨c, loaded, in_effect _ t c loaded, ?_⟩, ?_⟩
  · have visible : IsVisible c.generator.classesPath := ⟨'c', by decide, rfl⟩
    have trimmed : Text.trim c.generator.classesPath = "classes.yml" := by decide
    have call := made i "slos.yml" none none _ false false t c _ rfl rfl loaded settled
    rw [if_pos visible, trimmed] at call
    exact call
  · exact absent _ _ t t _ _ (congrArg (·, t) missing) (congrArg (·, _) empty)

end Command

end ErrorBudget
