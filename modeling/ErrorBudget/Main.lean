/-
  ErrorBudget.Main

  The program on real files: it reads its arguments and the environment, does
  what they ask for, and exits with the code of the result.
-/
import ErrorBudget.Command

namespace ErrorBudget.Main

/-- What the system says, as far as the program tells it apart. -/
def fault : IO.Error → FileFault
  | .noFileOrDirectory .. => .notFound
  | .inappropriateType _ code _ => if code = 21 then .isDirectory else .notDirectory
  | .alreadyExists .. => .alreadyExists
  | .permissionDenied .. => .permissionDenied
  | e => .other (toString e)

/-- Does something at a path that a file can have. -/
def attempt {α : Type} (path : String) (act : IO (Except FileFault α)) :
    IO (Except FileFault α) := do
  match Path.check path with
  | .error fault => return .error fault
  | .ok () => try act catch e => return .error (fault e)

/-- The files of the system. -/
def files : Files IO where
  size path := attempt path do
    return .ok (← (← IO.FS.realPath path).metadata).byteSize.toNat
  readText path := attempt path do
    return match String.fromUTF8? (← IO.FS.readBinFile path) with
      | some text => .ok text
      | none => .error .notUtf8
  writeText path text := attempt path do
    return .ok (← IO.FS.writeBinFile path text.toUTF8)
  isDirectory path := do
    match ← attempt path.text do return .ok (← (← IO.FS.realPath path.text).isDir) with
    | .ok b => return b
    | .error _ => return false
  createDirectory path := attempt path.text do
    return .ok (← IO.FS.createDir path.text)

/-- Variables of the environment that settings can come from. -/
def environment : IO Settings.Environment := do
  let found ← Settings.Variable.all.mapM fun v => do
    return (← IO.getEnv v.name).map fun value => (v.name, value)
  return found.filterMap id

/-- Writes what the program says, and gives its exit code. -/
def finish (r : Command.Result) : IO UInt32 := do
  (← IO.getStdout).putStr r.stdout
  (← IO.getStderr).putStr r.stderr
  return r.exitCode

end ErrorBudget.Main

/-- Runs the program. -/
def main (args : List String) : IO UInt32 := do
  match ErrorBudget.Command.Invocation.ofArguments args with
  | .error usage => ErrorBudget.Main.finish usage.result
  | .ok call => do
    let result ← ErrorBudget.Command.run ErrorBudget.Main.files
      (← ErrorBudget.Main.environment) call
    ErrorBudget.Main.finish result
