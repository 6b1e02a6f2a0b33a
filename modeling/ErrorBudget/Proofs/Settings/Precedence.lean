/-
  ErrorBudget.Proofs.Settings.Precedence

  Where the settings in effect come from. The environment comes over the file, and the file
  over the values that settings have by themselves. How a variable comes over the file
  depends on its kind: a text always does, a truth value and labels only if they can be read.
  A file that is missing is like an empty one.
-/
import ErrorBudget.Proofs.Labels.Listing
import ErrorBudget.Proofs.Settings.Load
import ErrorBudget.Proofs.Toml.Record

namespace ErrorBudget.Settings

open Files (bind_apply)
open Toml (Filled Value filled_of_field keeps_cons keeps_one)

/-! ## Layers -/

/-- The value of a setting: what the environment gives, or else what the file has, or else
    what it is by itself. -/
inductive Layers {β : Type} (environment : Option β) (file : Option Value)
    (denotes : Value → Option β) (default : β) : β → Prop where
  | environment {x : β} (given : environment = some x) : Layers environment file denotes default x
  | file {v : Value} {x : β} (unset : environment = none) (written : file = some v)
      (reads : denotes v = some x) : Layers environment file denotes default x
  | default (unset : environment = none) (absent : file = none) :
      Layers environment file denotes default default

/-- A value that was read from a file, or the environment's in its place. -/
theorem layers_of_filled {β : Type} {read : Value → Reader β} {denotes : Value → Option β}
    (decodes : Toml.Decodes read denotes) {old x : β} {file : Option Value}
    (h : Filled read old file x) (environment : Option β) :
    Layers environment file denotes old (environment.getD x) := by
  cases environment with
  | some y => exact .environment rfl
  | none =>
    cases h with
    | absent => exact .default rfl rfl
    | present given => exact .file rfl rfl (decodes given)

/-- The truth value that a text denotes. -/
def truth? : String → Option Bool
  | "true" => some true
  | "false" => some false
  | _ => none

theorem overBool_eq (env : Environment) (v : Variable) (old : Bool) :
    overBool env v old = ((env.lookup v.name).bind truth?).getD old := by
  rw [overBool]
  split
  · rename_i is_true
    rw [is_true]
    rfl
  · rename_i is_false
    rw [is_false]
    rfl
  · rename_i not_true not_false
    cases given : env.lookup v.name with
    | none => rfl
    | some s =>
      have unreadable : truth? s = none := by
        unfold truth?
        split
        · exact absurd given not_true
        · exact absurd given not_false
        · rfl
      rw [Option.bind_some, unreadable]
      rfl

/-! ## Variables -/

/-- Two settings have the same value in the field of a variable. -/
def Variable.Same (a b : Settings) : Variable → Prop
  | .logLevel => a.general.level = b.general.level
  | .logFormat => a.general.format = b.general.format
  | .disableTicket => a.generator.disableTicket = b.generator.disableTicket
  | .kubernetes => a.generator.kubernetes = b.generator.kubernetes
  | .kubernetesLabels => a.generator.kubernetesLabels = b.generator.kubernetesLabels
  | .classesPath => a.generator.classesPath = b.generator.classesPath

theorem Variable.name_injective {v w : Variable} (h : v.name = w.name) : v = w := by
  revert h
  cases v <;> cases w <;> decide

/-- A field in effect depends on its own variable only. -/
theorem same_override {env other : Environment} {v : Variable}
    (h : env.lookup v.name = other.lookup v.name) (s : Settings) :
    v.Same (s.override env) (s.override other) := by
  cases v with
  | logLevel => exact congrArg (Option.getD · s.general.level) h
  | logFormat => exact congrArg (Option.getD · s.general.format) h
  | disableTicket =>
    change overBool env _ _ = overBool other _ _
    rw [overBool_eq, overBool_eq, h]
  | kubernetes =>
    change overBool env _ _ = overBool other _ _
    rw [overBool_eq, overBool_eq, h]
  | kubernetesLabels =>
    change overLabels env _ _ = overLabels other _ _
    rw [overLabels, overLabels, h]
  | classesPath => exact congrArg (Option.getD · s.generator.classesPath) h

/-- Setting a variable changes no field but its own. -/
theorem same_override_cons {v w : Variable} (other : w ≠ v) (value : String) (env : Environment)
    (s : Settings) : w.Same (s.override ((v.name, value) :: env)) (s.override env) := by
  refine same_override ?_ s
  rw [KeyMap.lookup_cons, if_neg fun same => other (Variable.name_injective same)]

theorem getD_getD {β : Type} (environment : Option β) (old : β) :
    environment.getD (environment.getD old) = environment.getD old := by
  cases environment with
  | none => rfl
  | some x => rfl

/-- The environment comes over settings once. -/
theorem override_override (env : Environment) (s : Settings) :
    (s.override env).override env = s.override env := by
  simp only [override, overText, overBool_eq, overLabels, getD_getD]

/-! ## Files -/

/-- What a file has for the setting of a variable. -/
def Variable.entry? (root : Value) : Variable → Option Value
  | .logLevel => (root.field? "general" 0).bind (·.field? "log_level" 0)
  | .logFormat => (root.field? "general" 0).bind (·.field? "log_format" 1)
  | .disableTicket => (root.field? "generator" 1).bind (·.field? "disable_ticket" 0)
  | .kubernetes => (root.field? "generator" 1).bind (·.field? "kubernetes" 1)
  | .kubernetesLabels => (root.field? "generator" 1).bind (·.field? "kubernetes_labels" 2)
  | .classesPath => (root.field? "generator" 1).bind (·.field? "classes_path" 3)

/-- What there is to read in place of a settings file: the table of its text, and an empty
    one if it is missing. -/
inductive Says : Except FileFault String → Value → Prop where
  | present {text : String} {root : Value} (parsed : Toml.parse? text = some root) :
      Says (.ok text) root
  | absent : Says (.error .notFound) (.table [])

/-- The settings in effect, each by the rule of its kind. -/
structure InEffect (env : Environment) (root : Value) (c : Settings) : Prop where
  level : Layers (env.lookup Variable.logLevel.name) (Variable.logLevel.entry? root)
    Value.text? "info" c.general.level
  format : Layers (env.lookup Variable.logFormat.name) (Variable.logFormat.entry? root)
    Value.text? "pretty" c.general.format
  disableTicket : Layers ((env.lookup Variable.disableTicket.name).bind truth?)
    (Variable.disableTicket.entry? root) Value.bool? false c.generator.disableTicket
  kubernetes : Layers ((env.lookup Variable.kubernetes.name).bind truth?)
    (Variable.kubernetes.entry? root) Value.bool? false c.generator.kubernetes
  kubernetesLabels :
    Layers ((env.lookup Variable.kubernetesLabels.name).bind Labels.readLenientListing?)
      (Variable.kubernetesLabels.entry? root) Value.labels? KeyMap.empty
      c.generator.kubernetesLabels
  classesPath : Layers (env.lookup Variable.classesPath.name) (Variable.classesPath.entry? root)
    Value.text? "" c.generator.classesPath

/-! ## Reading a file -/

section Sections

variable {α β : Type} {n n' : Nat} {v : Value}

theorem filled_of_readLogging {s : LogSettings} (h : LogSettings.read v n = .ok (s, n')) :
    Filled Source.text "info" (v.field? "log_level" 0) s.level ∧
    Filled Source.text "pretty" (v.field? "log_format" 1) s.format := by
  constructor
  · refine filled_of_field LogSettings.level h rfl rfl (fun _ _ => rfl) ?_ (by decide)
    exact keeps_one fun _ _ => rfl
  · refine filled_of_field LogSettings.format h rfl rfl (fun _ _ => rfl) ?_ (by decide)
    exact keeps_one fun _ _ => rfl

theorem filled_of_readRules {s : RuleSettings} (h : RuleSettings.read v n = .ok (s, n')) :
    Filled Source.bool false (v.field? "disable_ticket" 0) s.disableTicket ∧
    Filled Source.bool false (v.field? "kubernetes" 1) s.kubernetes ∧
    Filled Source.labels KeyMap.empty (v.field? "kubernetes_labels" 2) s.kubernetesLabels ∧
    Filled Source.text "" (v.field? "classes_path" 3) s.classesPath := by
  refine ⟨?_, ?_, ?_, ?_⟩
  · refine filled_of_field RuleSettings.disableTicket h rfl rfl (fun _ _ => rfl) ?_ (by decide)
    exact keeps_cons (fun _ _ => rfl) (keeps_cons (fun _ _ => rfl) (keeps_one fun _ _ => rfl))
  · refine filled_of_field RuleSettings.kubernetes h rfl rfl (fun _ _ => rfl) ?_ (by decide)
    exact keeps_cons (fun _ _ => rfl) (keeps_cons (fun _ _ => rfl) (keeps_one fun _ _ => rfl))
  · refine filled_of_field RuleSettings.kubernetesLabels h rfl rfl (fun _ _ => rfl) ?_ (by decide)
    exact keeps_cons (fun _ _ => rfl) (keeps_cons (fun _ _ => rfl) (keeps_one fun _ _ => rfl))
  · refine filled_of_field RuleSettings.classesPath h rfl rfl (fun _ _ => rfl) ?_ (by decide)
    exact keeps_cons (fun _ _ => rfl) (keeps_cons (fun _ _ => rfl) (keeps_one fun _ _ => rfl))

theorem filled_of_readAll {s : Settings} (h : Settings.read v n = .ok (s, n')) :
    Filled LogSettings.read {} (v.field? "general" 0) s.general ∧
    Filled RuleSettings.read {} (v.field? "generator" 1) s.generator := by
  constructor
  · refine filled_of_field Settings.general h rfl rfl (fun _ _ => rfl) ?_ (by decide)
    exact keeps_one fun _ _ => rfl
  · refine filled_of_field Settings.generator h rfl rfl (fun _ _ => rfl) ?_ (by decide)
    exact keeps_one fun _ _ => rfl

/-- A part of a section is filled with what the section has for it, if there is one. -/
theorem filled_inner {read : Value → Reader α} {inner : Value → Reader β} {initial x : α}
    (get : α → β) {name : String} {place : Nat} {file : Option Value}
    (h : Filled read initial file x)
    (fills : ∀ v n y n', read v n = .ok (y, n') →
      Filled inner (get initial) (v.field? name place) (get y)) :
    Filled inner (get initial) (file.bind (·.field? name place)) (get x) := by
  cases h with
  | absent => exact .absent
  | present given => exact fills _ _ _ _ given

/-- What was read from a file, with the environment over it, is in effect. -/
theorem inEffect_of_read {root : Value} {s : Settings} (h : Settings.read root n = .ok (s, n'))
    (env : Environment) : InEffect env root (s.override env) := by
  obtain ⟨general, generator⟩ := filled_of_readAll h
  refine ⟨?_, ?_, ?_, ?_, ?_, ?_⟩
  · have level := filled_inner LogSettings.level general fun _ _ _ _ h => (filled_of_readLogging h).1
    exact layers_of_filled Toml.decodes_text level _
  · have format := filled_inner LogSettings.format general fun _ _ _ _ h =>
      (filled_of_readLogging h).2
    exact layers_of_filled Toml.decodes_text format _
  · have tickets := filled_inner RuleSettings.disableTicket generator fun _ _ _ _ h =>
      (filled_of_readRules h).1
    change Layers _ _ _ _ (overBool env .disableTicket s.generator.disableTicket)
    rw [overBool_eq]
    exact layers_of_filled Toml.decodes_bool tickets _
  · have manifests := filled_inner RuleSettings.kubernetes generator fun _ _ _ _ h =>
      (filled_of_readRules h).2.1
    change Layers _ _ _ _ (overBool env .kubernetes s.generator.kubernetes)
    rw [overBool_eq]
    exact layers_of_filled Toml.decodes_bool manifests _
  · have labels := filled_inner RuleSettings.kubernetesLabels generator fun _ _ _ _ h =>
      (filled_of_readRules h).2.2.1
    exact layers_of_filled Toml.decodes_labels labels _
  · have path := filled_inner RuleSettings.classesPath generator fun _ _ _ _ h =>
      (filled_of_readRules h).2.2.2
    exact layers_of_filled Toml.decodes_text path _

end Sections

/-- The settings in a text come from its table. -/
theorem exists_read_of_ofText {text : String} {s : Settings} (h : ofText text = .ok s) :
    ∃ root n, Toml.parse? text = some root ∧ Settings.read root 0 = .ok (s, n) := by
  cases read : Toml.read Settings.read text with
  | error e =>
    rw [ofText, read] at h
    cases h
  | ok c =>
    rw [ofText, read] at h
    obtain rfl := Except.ok.inj h
    rw [Toml.read] at read
    cases parsed : Toml.parse? text with
    | none =>
      rw [parsed] at read
      cases read
    | some root =>
      rw [parsed] at read
      change (Settings.read root 0).map Prod.fst = _ at read
      cases given : Settings.read root 0 with
      | error e =>
        rw [given] at read
        cases read
      | ok r =>
        rw [given] at read
        obtain rfl := Except.ok.inj read
        exact ⟨root, r.2, rfl, given⟩

/-! ## Loading -/

section Load

variable {σ : Type} {files : Files (StateM σ)} {path content : String} {t t' : σ}

/-- Two steps that never say that a file is missing do not say so together. -/
theorem bind_ne_missing {α β : Type} {x : Except SettingsFault α} {f : α → Except SettingsFault β}
    {p : String} (first : x ≠ .error (.missing p)) (next : ∀ a, f a ≠ .error (.missing p)) :
    x >>= f ≠ .error (.missing p) := by
  cases x with
  | error fault => exact fun h => first (congrArg Except.error (Except.error.inj h))
  | ok a => exact next a

theorem check_ne_missing (s : Settings) (p : String) : s.check ≠ .error (.missing p) := by
  intro h
  rw [check] at h
  split at h
  · cases h
  · split at h
    · cases h
    · split at h
      · cases h
      · cases h

theorem overridden_ne_missing (env : Environment) (s : Settings) (p : String) :
    overridden env s ≠ .error (.missing p) := by
  refine bind_ne_missing (check_ne_missing _ p) fun _ h => ?_
  cases h

theorem ofText_ne_missing (text p : String) : ofText text ≠ .error (.missing p) := by
  intro h
  rw [ofText] at h
  split at h
  · cases h
  · cases h

/-- A file that can be read is not missing. -/
theorem load_ne_missing (readable : files.readText path t = (.ok content, t'))
    (env : Environment) (p : String) : (load files env path t).1 ≠ .error (.missing p) := by
  rw [load_apply readable]
  exact bind_ne_missing (ofText_ne_missing content p) fun s =>
    bind_ne_missing (check_ne_missing s p) fun _ => overridden_ne_missing env s p

/-- What is loaded from a file that can be read is loaded even if it may be missing. -/
theorem loadOrDefault_present (readable : files.readText path t = (.ok content, t'))
    (env : Environment) : (loadOrDefault files env path t).1 = (load files env path t).1 := by
  have there := load_ne_missing readable env
  rw [loadOrDefault, bind_apply]
  cases loaded : (load files env path t).1 with
  | ok c => rfl
  | error fault =>
    cases fault with
    | missing p => exact absurd loaded (there p)
    | malformed => rfl
    | invalid => rfl
    | unreadable => rfl

/-- Another fault of the file system comes up. -/
theorem loadOrDefault_unreadable {fault : FileFault}
    (unreadable : files.readText path t = (.error fault, t')) (there : fault ≠ .notFound)
    (env : Environment) : (loadOrDefault files env path t).1 = .error (.unreadable fault) := by
  have loaded : (load files env path t).1 = .error (.unreadable fault) := by
    rw [load, bind_apply, ofFile, bind_apply, unreadable]
    cases fault with
    | notFound => exact absurd rfl there
    | _ => rfl
  rw [loadOrDefault, bind_apply, loaded]
  rfl

/-- A file that is missing leaves only the environment. -/
theorem loadOrDefault_absent (absent : files.readText path t = (.error .notFound, t'))
    (env : Environment) : (loadOrDefault files env path t).1 = overridden env {} := by
  have loaded : (load files env path t).1 = .error (.missing path) := by
    rw [load, bind_apply, ofFile, bind_apply, absent]
    rfl
  rw [loadOrDefault, bind_apply, loaded]
  rfl

/-- So does a file that is empty. -/
theorem loadOrDefault_empty (empty : files.readText path t = (.ok "", t'))
    (env : Environment) : (loadOrDefault files env path t).1 = overridden env {} := by
  have parsed : ofText "" = .ok {} := eq_ok_of_toOption (by decide +kernel)
  have sound : ({} : Settings).Sound := ⟨by decide, by decide, by decide⟩
  rw [loadOrDefault_present empty, load_of_sound empty env parsed sound]

/-- Settings that are loaded are in effect, whether there is a file or not. -/
theorem inEffect_of_loadOrDefault {env : Environment} {c : Settings}
    (h : (loadOrDefault files env path t).1 = .ok c) :
    ∃ root, Says (files.readText path t).1 root ∧ InEffect env root c := by
  rcases read : files.readText path t with ⟨fault | content, t'⟩
  · by_cases absent : fault = .notFound
    · rw [absent] at read
      rw [loadOrDefault_absent read, overridden_eq_ok_iff] at h
      obtain ⟨_, rfl⟩ := h
      -- settings by themselves are what an empty table says
      have default : Settings.read (Value.table []) 0 = .ok ({}, 0) := rfl
      rw [absent]
      exact ⟨_, .absent, inEffect_of_read default env⟩
    · rw [loadOrDefault_unreadable read absent] at h
      cases h
  · rw [loadOrDefault_present read] at h
    obtain ⟨s, parsed, _, _, rfl⟩ :=
      (load_eq_ok_iff read env c).1 (Prod.ext h (by rw [load_apply read]))
    obtain ⟨root, n, table, given⟩ := exists_read_of_ofText parsed
    exact ⟨root, .present table, inEffect_of_read given env⟩

end Load

end ErrorBudget.Settings
