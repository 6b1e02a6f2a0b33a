/-
  ErrorBudget.Command.Usage

  The commands of the program and their options, and why arguments are not
  taken.
-/
import ErrorBudget.Report

namespace ErrorBudget.Command

/-- Where in the tree of commands an argument stands. -/
inductive Level where
  | program
  | generate
  | validate
  | config
  | configValidate
  | configShow
deriving DecidableEq, Repr

/-- What an option's value has to be. A path is not empty. -/
inductive ValueKind where
  | path
  | text
  | format
deriving DecidableEq, Repr

/-- An option: its name, perhaps a letter, and its value if it takes one. -/
structure OptionSpec where
  name : String
  letter : Option Char := none
  value : Option ValueKind := none
deriving DecidableEq, Repr

namespace Level

/-- Options of every command. -/
def common : List OptionSpec :=
  [ { name := "log-level", value := some .text },
    { name := "output", value := some .format } ]

/-- The options of a command besides those of every command. -/
def own : Level → List OptionSpec
  | program => [{ name := "config", letter := some 'c', value := some .path }]
  | generate =>
    [ { name := "slo-path", value := some .path },
      { name := "classes-path", value := some .path },
      { name := "rule-output", value := some .path },
      { name := "disable-ticket" },
      { name := "kubernetes" },
      { name := "kubernetes-labels", value := some .text } ]
  | validate =>
    [ { name := "slo-path", value := some .path },
      { name := "classes-path", value := some .path },
      { name := "disable-ticket" } ]
  | config | configValidate => []
  | configShow => [{ name := "section", value := some .text }]

/-- All options of a command. -/
def options (l : Level) : List OptionSpec := l.own ++ common

/-- The options that a command cannot do without. -/
def required : Level → List String
  | generate | validate => ["slo-path"]
  | _ => []

/-- The commands below a command. -/
def children : Level → List (String × Level)
  | program => [("generate", generate), ("validate", validate), ("config", config)]
  | config => [("validate", configValidate), ("show", configShow)]
  | _ => []

end Level

/-- Why the program does not start its work. Two of these are asked for. -/
inductive Usage where
  | help
  | version
  | nothingGiven
  | missingCommand
  | missingOption
  | unknownArgument
  | unknownCommand
  | invalidValue
  | conflict
  | unwantedValue
deriving DecidableEq, Repr

namespace Usage

/-- The exit code: what is asked for is no failure. -/
def exitCode : Usage → UInt32
  | help | version => 0
  | _ => 2

/-- How the program is called. -/
def summary : String := Report.ofLines
  [ "usage: slogen [-c FILE] generate --slo-path FILE [--classes-path FILE]",
    "              [--rule-output FILE] [--disable-ticket] [--kubernetes]",
    "              [--kubernetes-labels LIST]",
    "       slogen [-c FILE] validate --slo-path FILE [--classes-path FILE]",
    "              [--disable-ticket]",
    "       slogen [-c FILE] config validate",
    "       slogen [-c FILE] config show [--section NAME]",
    "options everywhere: --log-level LEVEL, --output text|json" ]

/-- What the program says instead of working. -/
def text : Usage → String
  | help | nothingGiven => summary
  | version => "slogen\n"
  | missingCommand => "error: a command is missing\n" ++ summary
  | missingOption => "error: --slo-path is missing\n" ++ summary
  | unknownArgument => "error: unknown argument\n" ++ summary
  | unknownCommand => "error: unknown command\n" ++ summary
  | invalidValue => "error: a value is missing or not allowed\n" ++ summary
  | conflict => "error: an option is given twice\n" ++ summary
  | unwantedValue => "error: an option takes no value\n" ++ summary

end Usage

end ErrorBudget.Command
