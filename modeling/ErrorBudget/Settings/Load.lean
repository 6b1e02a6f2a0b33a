/-
  ErrorBudget.Settings.Load

  Settings from a file and the environment, which comes over the file.
-/
import ErrorBudget.Files
import ErrorBudget.Settings.Text

namespace ErrorBudget.Settings

variable {m : Type → Type} [Monad m]

/-- The settings in a file, checked. -/
def ofFile (files : Files m) (path : String) : m (Except SettingsFault Settings) := do
  match ← files.readText path with
  | .error .notFound => return .error (.missing path)
  | .error fault => return .error (.unreadable fault)
  | .ok text => return do
      let s ← ofText text
      s.check
      return s

/-- Settings with the environment over them, checked. -/
def overridden (env : Environment) (s : Settings) : Except SettingsFault Settings := do
  let s := s.override env
  s.check
  return s

/-- The settings in a file, with the environment over them. -/
def load (files : Files m) (env : Environment) (path : String) :
    m (Except SettingsFault Settings) := do
  return (← ofFile files path) >>= overridden env

/-- The settings in a file that may be missing, with the environment over them. -/
def loadOrDefault (files : Files m) (env : Environment) (path : String) :
    m (Except SettingsFault Settings) := do
  match ← load files env path with
  | .error (.missing _) => return overridden env {}
  | r => return r

end ErrorBudget.Settings
