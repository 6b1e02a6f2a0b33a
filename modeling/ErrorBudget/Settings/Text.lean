/-
  ErrorBudget.Settings.Text

  Settings as TOML text: reading them, and writing all of them or one section.
-/
import ErrorBudget.Settings
import ErrorBudget.Slo.Layout
import ErrorBudget.Toml.Printer

namespace ErrorBudget

open Source (field record)

variable {σ : Type} [Source σ]

/-! ## Reading -/

/-- Settings of logging may leave out any field. -/
def LogSettings.read : σ → Reader LogSettings :=
  record "struct GeneralConfig"
    [ field "log_level" Source.text fun s x => { s with level := x },
      field "log_format" Source.text fun s x => { s with format := x } ]
    {}

/-- Settings of rules may leave out any field. -/
def RuleSettings.read : σ → Reader RuleSettings :=
  record "struct GeneratorConfig"
    [ field "disable_ticket" Source.bool fun s x => { s with disableTicket := x },
      field "kubernetes" Source.bool fun s x => { s with kubernetes := x },
      field "kubernetes_labels" Source.labels fun s x => { s with kubernetesLabels := x },
      field "classes_path" Source.text fun s x => { s with classesPath := x } ]
    {}

/-- Settings may leave out any section. -/
def Settings.read : σ → Reader Settings :=
  record "struct SloGenConfig"
    [ field "general" LogSettings.read fun s x => { s with general := x },
      field "generator" RuleSettings.read fun s x => { s with generator := x } ]
    {}

/-- The settings in a TOML text. Their values are not checked. -/
def Settings.ofText (s : String) : Except SettingsFault Settings :=
  match Toml.read Settings.read s with
  | .ok settings => .ok settings
  | .error _ => .error .malformed

/-! ## Trees -/

/-- The fields of logging. -/
def LogSettings.toTree (s : LogSettings) : Tree :=
  .map [("log_level", .text s.level), ("log_format", .text s.format)]

/-- The fields of rules. -/
def RuleSettings.toTree (s : RuleSettings) : Tree :=
  .map
    [ ("disable_ticket", .bool s.disableTicket),
      ("kubernetes", .bool s.kubernetes),
      ("kubernetes_labels", s.kubernetesLabels.toTree),
      ("classes_path", .text s.classesPath) ]

/-- The sections. -/
def Settings.toTree (s : Settings) : Tree :=
  .map [("general", s.general.toTree), ("generator", s.generator.toTree)]

/-! ## Writing -/

/-- The fields of logging. -/
def LogSettings.toToml (s : LogSettings) : Toml.Value :=
  .table [("log_level", .text s.level), ("log_format", .text s.format)]

/-- The fields of rules. -/
def RuleSettings.toToml (s : RuleSettings) : Toml.Value :=
  .table
    [ ("disable_ticket", .bool s.disableTicket),
      ("kubernetes", .bool s.kubernetes),
      ("kubernetes_labels",
        .table (s.kubernetesLabels.entries.map fun (k, v) => (k, .text v))),
      ("classes_path", .text s.classesPath) ]

/-- The sections. -/
def Settings.toToml (s : Settings) : Toml.Value :=
  .table [("general", s.general.toToml), ("generator", s.generator.toToml)]

/-- The settings, or one section of them, as TOML text; there are no other sections. -/
def Settings.text? (s : Settings) : Option String → Option String
  | none => some (Toml.write s.toToml)
  | some "general" => some (Toml.write s.general.toToml)
  | some "generator" => some (Toml.write s.generator.toToml)
  | some _ => none

end ErrorBudget
