/-
  ErrorBudget.Settings

  The program's settings: how it logs, and how it makes rules unless it is told
  otherwise.
-/
import ErrorBudget.Fault
import ErrorBudget.Labels.Listing
import ErrorBudget.Text.Blank

namespace ErrorBudget

/-- How the program logs. -/
structure LogSettings where
  level : String := "info"
  format : String := "pretty"
deriving Inhabited, DecidableEq

/-- How rules are made. -/
structure RuleSettings where
  disableTicket : Bool := false
  kubernetes : Bool := false
  kubernetesLabels : Labels := KeyMap.empty
  classesPath : String := ""
deriving Inhabited, DecidableEq

/-- All settings. -/
structure Settings where
  general : LogSettings := {}
  generator : RuleSettings := {}
deriving Inhabited, DecidableEq

/-! ## Faults -/

/-- A setting that has a wrong value. -/
inductive SettingFault where
  | logLevel
  | logFormat
  | labelName
deriving DecidableEq, Repr

/-- Why there are no settings. -/
inductive SettingsFault where
  | missing (path : String)
  | malformed
  | invalid (cause : SettingFault)
  | unreadable (cause : FileFault)
deriving DecidableEq, Repr

namespace Settings

/-- The levels that can be logged. -/
def logLevels : List String := ["trace", "debug", "info", "warn", "error"]

/-- The formats of log lines. -/
def logFormats : List String := ["json", "pretty"]

end Settings

namespace SettingFault

/-- The setting that is wrong. -/
def field : SettingFault → String
  | logLevel => "general.log_level"
  | logFormat => "general.log_format"
  | labelName => "generator.kubernetes_labels"

/-- What is wrong with it. -/
def reason : SettingFault → String
  | logLevel => "must be one of: " ++ ", ".intercalate Settings.logLevels
  | logFormat => "must be one of: " ++ ", ".intercalate Settings.logFormats
  | labelName => "label names must not be empty"

end SettingFault

/-- The fault in words. -/
def SettingsFault.message : SettingsFault → String
  | missing path => "config error: config file not found: " ++ path
  | malformed => "config error: failed to parse config: not valid TOML"
  | invalid cause =>
    "config error: invalid config value for '" ++ cause.field ++ "': " ++ cause.reason
  | unreadable cause => "io error: " ++ cause.message

namespace Settings

/-! ## Checks -/

/-- The level, the format and the names of labels, in this order. -/
def check (s : Settings) : Except SettingsFault Unit :=
  if !logLevels.contains s.general.level then .error (.invalid .logLevel)
  else if !logFormats.contains s.general.format then .error (.invalid .logFormat)
  else if s.generator.kubernetesLabels.keys.any Text.isBlank then .error (.invalid .labelName)
  else .ok ()

/-- The path of the class file, without white space around it; none if that is empty. -/
def classesPath (s : Settings) : Option String :=
  let path := Text.trim s.generator.classesPath
  if path.isEmpty then none else some path

/-! ## Environment -/

/-- Variables with their values. -/
abbrev Environment := List (String × String)

/-- A variable that a setting can come from. -/
inductive Variable where
  | logLevel
  | logFormat
  | disableTicket
  | kubernetes
  | kubernetesLabels
  | classesPath
deriving DecidableEq, Repr

namespace Variable

/-- All variables. -/
def all : List Variable :=
  [logLevel, logFormat, disableTicket, kubernetes, kubernetesLabels, classesPath]

/-- The name of a variable in the environment. -/
def name : Variable → String
  | logLevel => "SLOGEN_GENERAL_LOG_LEVEL"
  | logFormat => "SLOGEN_GENERAL_LOG_FORMAT"
  | disableTicket => "SLOGEN_GENERATOR_DISABLE_TICKET"
  | kubernetes => "SLOGEN_GENERATOR_KUBERNETES"
  | kubernetesLabels => "SLOGEN_GENERATOR_KUBERNETES_LABELS"
  | classesPath => "SLOGEN_GENERATOR_CLASSES_PATH"

end Variable

/-- A text, or the value of a variable in its place. -/
def overText (env : Environment) (v : Variable) (old : String) : String :=
  (env.lookup v.name).getD old

/-- A truth value, or that of a variable in its place, if it is one. -/
def overBool (env : Environment) (v : Variable) (old : Bool) : Bool :=
  match env.lookup v.name with
  | some "true" => true
  | some "false" => false
  | _ => old

/-- A label set, or that of a variable in its place, if it is one. -/
def overLabels (env : Environment) (v : Variable) (old : Labels) : Labels :=
  ((env.lookup v.name).bind Labels.readLenientListing?).getD old

/-- The settings with those over them that the environment gives. -/
def override (env : Environment) (s : Settings) : Settings :=
  { general :=
      { level := overText env .logLevel s.general.level
        format := overText env .logFormat s.general.format }
    generator :=
      { disableTicket := overBool env .disableTicket s.generator.disableTicket
        kubernetes := overBool env .kubernetes s.generator.kubernetes
        kubernetesLabels := overLabels env .kubernetesLabels s.generator.kubernetesLabels
        classesPath := overText env .classesPath s.generator.classesPath } }

end Settings

end ErrorBudget
