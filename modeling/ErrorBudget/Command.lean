/-
  ErrorBudget.Command

  What the program does for a call: it reads settings and documents, makes or
  checks rules, and says how that went.
-/
import ErrorBudget.Command.Arguments
import ErrorBudget.Document.Load
import ErrorBudget.RuleFile.Layout
import ErrorBudget.Settings.Load

namespace ErrorBudget.Command

/-! ## Faults -/

/-- Why the program fails. -/
inductive CommandFault where
  | settings (cause : SettingsFault)
  | invalidSettings
  | unknownSection (name : String)
  | failedSlos (count : Nat)
  | invalidSlos (count : Nat)
  | rules (cause : Fault)
  | unwritable (cause : String)
  | file (cause : FileFault)

namespace CommandFault

/-- The fault in words. -/
def message : CommandFault → String
  | settings cause => cause.message
  | invalidSettings => "configuration error: configuration is invalid"
  | unknownSection name =>
    "unknown section: " ++ name ++ " (expected: general, generator)"
  | failedSlos count => toString count ++ " slo(s) failed to generate, no rules were written"
  | invalidSlos count => toString count ++ " invalid slo(s)"
  | rules cause => cause.message
  | unwritable cause => "render error: " ++ cause
  | file cause => "io error: " ++ cause.message

/-- The exit code: 2 for settings, 10 for files, and 1 for anything else. -/
def exitCode : CommandFault → UInt32
  | settings (.unreadable _) => 10
  | settings _ => 2
  | invalidSettings => 2
  | file _ => 10
  | _ => 1

end CommandFault

/-- What the program writes to its two streams, and the code it exits with. -/
structure Result where
  exitCode : UInt32 := 0
  stdout : String := ""
  stderr : String := ""
deriving DecidableEq, Repr

/-- How a call ends: what was written to the two streams by then, and the fault if it fails. -/
structure Ending where
  stdout : String := ""
  stderr : String := ""
  fault : Option CommandFault := none

/-- The result of a call: a fault is told after what was written. -/
def Ending.result (e : Ending) : Result :=
  match e.fault with
  | none => { stdout := e.stdout, stderr := e.stderr }
  | some fault =>
    { exitCode := fault.exitCode
      stdout := e.stdout
      stderr := e.stderr ++ "error: " ++ fault.message ++ "\n" }

/-- The result for arguments that ask for no work: what is asked for is written to the
    first stream, and what is wrong to the second. -/
def Usage.result (u : Usage) : Result :=
  if u.exitCode = 0 then { stdout := u.text }
  else { exitCode := u.exitCode, stderr := u.text }

/-! ## Rules -/

/-- How rules are made and written. -/
structure RuleOptions where
  disableTicket : Bool
  kubernetes : Bool
  labels : Labels

namespace RuleOptions

/-- The options of the settings with those of the arguments over them. -/
def resolve (s : Settings) (disableTicket kubernetes : Bool) (labels : Option String) :
    Except Fault RuleOptions :=
  let options (extra : Labels) : RuleOptions :=
    { disableTicket := disableTicket || s.generator.disableTicket
      kubernetes := kubernetes || s.generator.kubernetes
      labels := s.generator.kubernetesLabels.union extra }
  match labels with
  | none => .ok (options KeyMap.empty)
  | some listing => match Labels.readListing listing with
    | .ok extra => .ok (options extra)
    | .error e => .error (.label e)

/-- Rules as text: one file, or manifests. -/
def render (o : RuleOptions) (rules : List SloRules) : String :=
  if o.kubernetes then Manifest.text (Manifest.ofRules o.labels rules)
  else (RuleFile.ofRules rules).text

/-- Rules as a writer has them, or why it has no text for one of the documents. -/
def renderWith (write : Yaml.Writer) (o : RuleOptions) (rules : List SloRules) :
    Except String String :=
  if o.kubernetes then
    ((Manifest.ofRules o.labels rules).mapM fun m => write m.toTree).map Manifest.stream
  else write (RuleFile.ofRules rules).toTree

end RuleOptions

variable {m : Type → Type} [Monad m]

/-- Writes rules, to a file if one is given. If they have no text, nothing is written. -/
def writeRules (write : Yaml.Writer) (files : Files m) (output : ReportFormat)
    (path : Option String) (o : RuleOptions) (rules : List SloRules) : m Ending := do
  match o.renderWith write rules with
  | .error cause => return { fault := some (.unwritable cause) }
  | .ok text => match path with
    | none => return { stdout := text }
    | some path => match ← files.writeDeep path text with
      | .error fault => return { fault := some (.file fault) }
      | .ok () =>
        return { stdout := (Report.generation path o.kubernetes (rules.map .of)).render output }

/-- Makes the rules of a document. If one service has none, nothing is written. -/
def generate (write : Yaml.Writer) (files : Files m) (s : Settings) (output : ReportFormat)
    (sloPath : String) (classesPath ruleOutput : Option String)
    (disableTicket kubernetes : Bool) (labels : Option String) : m Ending := do
  match RuleOptions.resolve s disableTicket kubernetes labels with
  | .error fault => return { fault := some (.rules fault) }
  | .ok o => match ← Document.loadWith files sloPath (classesPath <|> s.classesPath) with
    | .error fault => return { fault := some (.rules fault) }
    | .ok d =>
      let g : Generator := { disableTicket := o.disableTicket }
      match (g.generateAll d).result with
      | .error failures =>
        return {
          stderr := (Report.failures (failures.map .of)).render output
          fault := some (.failedSlos failures.length) }
      | .ok rules => writeRules write files output ruleOutput o rules

/-- Checks the services of a document. -/
def validate (files : Files m) (s : Settings) (output : ReportFormat)
    (sloPath : String) (classesPath : Option String) (disableTicket : Bool) : m Ending := do
  match ← Document.loadWith files sloPath (classesPath <|> s.classesPath) with
  | .error fault => return { fault := some (.rules fault) }
  | .ok d =>
    let g : Generator := { disableTicket := disableTicket || s.generator.disableTicket }
    let results := Report.sloResults g d
    let invalid := Report.invalidCount results
    return {
      stdout := (Report.validation sloPath results).render output
      fault := if invalid = 0 then none else some (.invalidSlos invalid) }

/-! ## Settings -/

/-- The settings file that is read if no other is given. It may be missing. -/
def defaultSettings : String := "slogen.toml"

/-- The settings of a call. -/
def loadSettings (files : Files m) (env : Settings.Environment) (config : Option String) :
    m (Except SettingsFault Settings) :=
  match config with
  | some path => Settings.load files env path
  | none => Settings.loadOrDefault files env defaultSettings

/-- The report on the settings, or on one section. -/
def settingsReport (source : String) (s : Settings) (part : Option String) :
    Except CommandFault Report :=
  match s.text? part with
  | some toml => .ok (Report.settings source part toml)
  | none => .error (.unknownSection (part.getD ""))

/-- Shows the settings. -/
def showSettings (source : String) (output : ReportFormat) (part : Option String)
    (s : Settings) : Ending :=
  match settingsReport source s part with
  | .ok report => { stdout := report.render output }
  | .error fault => { fault := some fault }

/-- Says whether the settings can be used. -/
def checkSettings (source : String) (output : ReportFormat)
    (s : Except SettingsFault Settings) : Ending :=
  match s with
  | .ok _ => { stdout := (Report.settingsValidation source none).render output }
  | .error fault =>
    { stdout := (Report.settingsValidation source (some fault)).render output
      fault := some .invalidSettings }

/-! ## Calls -/

/-- Does what a call asks for, with a writer for the rules. -/
def performWith (write : Yaml.Writer) (files : Files m) (env : Settings.Environment)
    (i : Invocation) : m Ending := do
  let source := i.config.getD defaultSettings
  match i.action, ← loadSettings files env i.config with
  | .checkSettings, s => return checkSettings source i.output s
  | _, .error fault => return { fault := some (.settings fault) }
  | .showSettings part, .ok s => return showSettings source i.output part s
  | .generate sloPath classesPath ruleOutput disableTicket kubernetes labels, .ok s =>
    generate write files s i.output sloPath classesPath ruleOutput disableTicket kubernetes labels
  | .validate sloPath classesPath disableTicket, .ok s =>
    validate files s i.output sloPath classesPath disableTicket

/-- Does what a call asks for. -/
def perform (files : Files m) (env : Settings.Environment) (i : Invocation) : m Ending :=
  performWith Yaml.writer files env i

/-- What a call writes to the two streams in the end, and its exit code. -/
def run (files : Files m) (env : Settings.Environment) (i : Invocation) : m Result := do
  return (← perform files env i).result

end ErrorBudget.Command
