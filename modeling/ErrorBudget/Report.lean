/-
  ErrorBudget.Report

  What the program says about its work, as text for people or as JSON.
-/
import ErrorBudget.Generate
import ErrorBudget.Json.Printer
import ErrorBudget.Settings.Text

namespace ErrorBudget

/-- How reports are written. -/
inductive ReportFormat where
  | text
  | json
deriving DecidableEq, Repr

/-- The format of a name. -/
def ReportFormat.ofName? (name : String) : Option ReportFormat :=
  if name = "text" then some .text else if name = "json" then some .json else none

/-- A report in both forms: lines of text, and a tree. -/
structure Report where
  lines : String
  tree : Tree

/-- The report in a format. -/
def Report.render (r : Report) : ReportFormat → String
  | .text => r.lines
  | .json => Json.pretty r.tree ++ "\n"

namespace Report

/-- Texts as lines. -/
def ofLines (lines : List String) : String :=
  String.join (lines.map fun l => l ++ "\n")

/-- A number of things. -/
def count (n : Nat) : Tree := .int n

/-! ## Tables -/

/-- A text with spaces after it up to a width. -/
def padRight (width : Nat) (s : String) : String :=
  s ++ String.ofList (List.replicate (width - s.length) ' ')

/-- A text with spaces before it up to a width. -/
def padLeft (width : Nat) (s : String) : String :=
  String.ofList (List.replicate (width - s.length) ' ') ++ s

/-- A row of the table of services: the name, and two numbers. -/
def row (name recording alerts : String) : String :=
  padRight 40 name ++ " " ++ padLeft 10 recording ++ " " ++ padLeft 8 alerts

/-! ## Services -/

/-- How a service fared: its rules, or why it has none. -/
structure SloResult where
  name : String
  error : Option String
  recordingRules : Nat
  alerts : Nat

/-- How a service fared. -/
def SloResult.of (slo : Slo) : Except Fault SloRules → SloResult
  | .ok r => ⟨slo.name, none, r.recordingRuleCount, r.alerts.length⟩
  | .error fault => ⟨slo.name, some fault.message, 0, 0⟩

/-- How each service of a document fared. -/
def sloResults (g : Generator) (d : Document) : List SloResult :=
  (g.results d).map fun (slo, r) => .of slo r

/-- How many services have no rules. -/
def invalidCount (rs : List SloResult) : Nat := rs.countP fun r => r.error.isSome

namespace SloResult

/-- One line for a service. -/
def line (r : SloResult) : String :=
  match r.error with
  | none =>
    "  OK " ++ r.name ++ " (" ++ toString r.recordingRules ++ " recording rules, "
      ++ toString r.alerts ++ " alerts)"
  | some error => "  INVALID " ++ r.name ++ ": " ++ error

/-- The fields for a service; the error only if there is one. -/
def toTree (r : SloResult) : Tree :=
  .map
    ([("name", .text r.name), ("valid", .bool r.error.isNone)]
      ++ (r.error.toList.map fun e => ("error", .text e))
      ++ [("recording_rules", count r.recordingRules), ("alerts", count r.alerts)])

end SloResult

/-- How the services of a document fared. -/
def validation (source : String) (rs : List SloResult) : Report :=
  { lines := ofLines
      (["SLO Validation: " ++ source]
        ++ if rs.isEmpty then ["  No slos defined."]
          else rs.map SloResult.line ++ ["",
            "Result: " ++ toString (rs.length - invalidCount rs) ++ " valid, "
              ++ toString (invalidCount rs) ++ " invalid"])
    tree := .map [("source", .text source), ("slos", .list (rs.map SloResult.toTree))] }

/-- A service that has no rules, and why in words. -/
structure SloFailure where
  slo : String
  error : String
deriving DecidableEq, Repr

/-- A failure in words. -/
def SloFailure.of (f : Failure) : SloFailure := ⟨f.slo, f.fault.message⟩

/-- Services that have no rules, and why. -/
def failures (fs : List SloFailure) : Report :=
  { lines := ofLines
      (("FAILED " ++ toString fs.length ++ " slo(s) failed to generate")
        :: fs.map fun f => "  " ++ f.slo ++ ": " ++ f.error)
    tree := .map
      [("failures", .list (fs.map fun f =>
        .map [("slo", .text f.slo), ("error", .text f.error)]))] }

/-- How many rules a service has. -/
structure SloSummary where
  name : String
  recordingRules : Nat
  alerts : Nat
deriving DecidableEq, Repr

/-- The numbers of rules among those of a service. -/
def SloSummary.of (r : SloRules) : SloSummary := ⟨r.slo, r.recordingRuleCount, r.alerts.length⟩

/-- Rules that were written to a file. -/
def generation (output : String) (kubernetes : Bool) (slos : List SloSummary) : Report :=
  let format := if kubernetes then "kubernetes" else "rules"
  { lines := ofLines
      (("Generated " ++ format ++ " rules for " ++ toString slos.length ++ " slo(s): " ++ output)
        :: if slos.isEmpty then []
          else ["", row "SLO" "RECORDING" "ALERTS", String.ofList (List.replicate 60 '-')]
            ++ slos.map fun s => row s.name (toString s.recordingRules) (toString s.alerts))
    tree := .map
      [ ("output", .text output),
        ("format", .text format),
        ("slos", .list (slos.map fun s => .map
          [ ("name", .text s.name),
            ("recording_rules", count s.recordingRules),
            ("alerts", count s.alerts) ])) ] }

/-! ## Settings -/

/-- The settings, or one section of them, as TOML text. -/
def settings (source : String) (part : Option String) (toml : String) : Report :=
  { lines :=
      (match part with
        | some name => "Configuration [" ++ name ++ "] (source: " ++ source ++ ")\n\n"
        | none => "Configuration (source: " ++ source ++ ")\n\n") ++ toml
    tree := .map (("source", .text source) :: part.toList.map fun name => ("section", .text name)) }

/-- Whether settings can be used. -/
def settingsValidation (source : String) (fault : Option SettingsFault) : Report :=
  let errors := fault.toList.map SettingsFault.message
  { lines := ofLines
      (("Config Validation: " ++ source)
        :: if errors.isEmpty then ["  Result: VALID"]
          else "  Result: INVALID" :: errors.map fun e => "  Error: " ++ e)
    tree := .map
      [("source", .text source), ("valid", .bool errors.isEmpty), ("errors", .texts errors)] }

end Report

end ErrorBudget
