/-
  ErrorBudget.Fault

  Every way in which rules cannot be made from a document, and its wording.
-/
import ErrorBudget.Source
import ErrorBudget.Decimal.General
import ErrorBudget.Schedule

namespace ErrorBudget

/-! ## Causes -/

/-- A number outside its range. -/
inductive RangeFault where
  | availability (got : Float)
  | blankBoundary
  | target (le : String) (got : Float)
  | consumption (index : Nat) (got : Float)
  | emptyWindow (index : Nat)

namespace RangeFault

/-- The fault in words. -/
def message : RangeFault → String
  | availability got =>
    "availability must be in [0, 100], got " ++ Decimal.positional got
  | blankBoundary => "latency: le must not be empty"
  | target le got =>
    "latency: target for le " ++ le ++ " must be in [0, 100], got " ++ Decimal.positional got
  | consumption index got =>
    "windows[" ++ toString index ++ "]: consumption must be in (0, 100], got "
      ++ Decimal.positional got
  | emptyWindow index => "windows[" ++ toString index ++ "]: duration must be greater than 0"

end RangeFault

/-- Why the file system did not do what it was asked. -/
inductive FileFault where
  | notFound
  | notDirectory
  | isDirectory
  | alreadyExists
  | nameTooLong
  | nulInName
  | notUtf8
  | permissionDenied
  /-- A cause that is told in the system's words. -/
  | other (text : String)
deriving DecidableEq, Repr

namespace FileFault

/-- The fault in words. -/
def message : FileFault → String
  | notFound => "No such file or directory (os error 2)"
  | notDirectory => "Not a directory (os error 20)"
  | isDirectory => "Is a directory (os error 21)"
  | alreadyExists => "File exists (os error 17)"
  | nameTooLong => "File name too long (os error 36)"
  | nulInName => "file name contained an unexpected NUL byte"
  | notUtf8 => "stream did not contain valid UTF-8"
  | permissionDenied => "Permission denied (os error 13)"
  | other text => text

end FileFault

/-- The largest document file, in bytes. -/
def maxDocumentSize : Nat := 10 * 1024 * 1024

/-- The most services that one document may define. -/
def maxSlos : Nat := 10000

/-- Why a document was not taken in. -/
inductive LoadFault where
  | noMetadata (cause : FileFault)
  | tooLarge (size : Nat)
  | unreadable (cause : FileFault)
  | yaml (cause : ReadError)
  | tooManySlos

namespace LoadFault

/-- The fault in words. -/
def message : LoadFault → String
  | noMetadata cause => "failed to read file metadata: " ++ cause.message
  | tooLarge size =>
    "file too large: " ++ toString size ++ " bytes (max: " ++ toString maxDocumentSize ++ ")"
  | unreadable cause => "failed to read file: " ++ cause.message
  | yaml cause => "YAML parse error: " ++ cause.message
  | tooManySlos => "too many slos: max " ++ toString maxSlos

end LoadFault

/-- Why a document's names do not stand. -/
inductive NameFault where
  | blankSlo
  | repeatedSlo (name : String)
  | blankClass
  | repeatedClass (name : String)
deriving DecidableEq, Repr

namespace NameFault

/-- The entry that is at fault, as messages call it. -/
def subject : NameFault → String
  | blankSlo => "(empty)"
  | repeatedSlo name => name
  | blankClass => "(empty)"
  | repeatedClass name => "class " ++ name

/-- What is wrong with it. -/
def reason : NameFault → String
  | blankSlo => "slo name must not be empty"
  | repeatedSlo _ => "duplicate slo name"
  | blankClass => "class name must not be empty"
  | repeatedClass _ => "duplicate class name"

end NameFault

/-! ## Faults -/

/-- Why rules could not be made. -/
inductive Fault where
  | unsampledWindow (window : String)
  | unknownClass (name : String)
  | unknownMethod (name : String)
  | conflictingClasses
  | duration (text : String) (defect : Duration.Defect)
  | missingObjectiveWindow
  | ofSlo (slo field : String) (cause : Fault)
  | range (cause : RangeFault)
  | load (source : String) (cause : LoadFault)
  | names (cause : NameFault)
  | label (entry : String)

namespace Fault

/-- The fault in words. -/
def message : Fault → String
  | unsampledWindow window =>
    "sample " ++ window ++ " is not a valid sample, valid samples: "
      ++ ",".intercalate Schedule.buckets
  | unknownClass name => "SLO class \"" ++ name ++ "\" is not found"
  | unknownMethod name => "alertMethod " ++ name ++ " is not valid"
  | conflictingClasses => "you can not define classes in slo and classes files"
  | duration text defect => defect.message text
  | missingObjectiveWindow => "objectives window must be set when custom windows are used"
  | ofSlo slo field cause => "slo '" ++ slo ++ "': " ++ field ++ ": " ++ cause.message
  | range cause => cause.message
  | load source cause => "document load error: " ++ source ++ ": " ++ cause.message
  | names cause =>
    "document validation error: slo '" ++ cause.subject ++ "': " ++ cause.reason
  | label entry => "invalid label \"" ++ entry ++ "\""

/-- The innermost cause. -/
def root : Fault → Fault
  | ofSlo _ _ cause => cause.root
  | fault => fault

/-- The fault as part of a larger job: with the service it belongs to, or as one
    of the document. -/
def report : Fault → String
  | ofSlo slo field cause =>
    "generation error: slo '" ++ slo ++ "': " ++ field ++ ": " ++ cause.message
  | fault => "generation error: document error: " ++ fault.message

end Fault

end ErrorBudget
