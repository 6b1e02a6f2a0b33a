/-
  ErrorBudget.Proofs.Report.Failures

  What the report on services without rules says. As text it has a line with their number and
  then one for each, in their order; as JSON its list is read back as their names with the
  words for what is wrong.
-/
import ErrorBudget.Report
import ErrorBudget.Proofs.Json

namespace ErrorBudget.Report

open ErrorBudget.Tree
open Source (need record)

/-! ## Lines -/

/-- A line for each failure, in their order: the name of the service, and what is wrong. -/
inductive Lines : List Failure → List Char → Prop where
  | nil : Lines [] []
  | cons (f : Failure) {fs : List Failure} {cs : List Char} (later : Lines fs cs) :
      Lines (f :: fs)
        (' ' :: ' ' :: (f.slo.toList ++ ':' :: ' ' :: (f.fault.message.toList ++ '\n' :: cs)))

theorem toList_ofLines_cons (l : String) (ls : List String) :
    (ofLines (l :: ls)).toList = l.toList ++ '\n' :: (ofLines ls).toList := by
  simp [ofLines]

theorem lines_ofLines (fs : List Failure) :
    Lines fs (ofLines (fs.map fun f => "  " ++ f.slo ++ ": " ++ f.fault.message)).toList := by
  induction fs with
  | nil => exact .nil
  | cons f fs ih =>
    have line := Lines.cons f ih
    rw [List.map_cons, toList_ofLines_cons]
    simpa using line

/-! ## Entries -/

/-- Reads the name of a service, and what is wrong with it. -/
def readFailure : Tree → Reader (String × String) :=
  record "a failure"
    [ need "slo" Source.text fun e slo => (slo, e.2),
      need "error" Source.text fun e error => (e.1, error) ]
    ("", "")

/-- Reads all failures of a report. -/
def readFailures : Tree → Reader (List (String × String)) :=
  record "failures" [need "failures" (Source.list readFailure) fun _ es => es] []

/-- The tree of a name and of what is wrong. -/
def failureTree (e : String × String) : Tree :=
  .map [("slo", .text e.1), ("error", .text e.2)]

/-- A failure of which the entries in `seen` were read. -/
def failureUpTo (e : String × String) (seen : List String) : String × String :=
  (if "slo" ∈ seen then e.1 else "", if "error" ∈ seen then e.2 else "")

theorem reads_failureTree (e : String × String) : Reads readFailure (failureTree e) e := by
  refine reads_record (rfl : failureUpTo e [] = _) (by decide) ?holds ?whole
  case holds =>
    exact .needed (reads_text e.1) (by simp [failureUpTo]) <|
      .needed (reads_text e.2) (by simp [failureUpTo]) .nil
  case whole =>
    intro seen all
    simp_all [failureUpTo]

/-- Failures of which the entries in `seen` were read. -/
def failuresUpTo (es : List (String × String)) (seen : List String) : List (String × String) :=
  if "failures" ∈ seen then es else []

theorem reads_failures (es : List (String × String)) :
    Reads readFailures (.map [("failures", .list (es.map failureTree))]) es := by
  refine reads_record (rfl : failuresUpTo es [] = _) (by decide) ?holds ?whole
  case holds =>
    exact .needed (reads_list fun e _ => reads_failureTree e) (by simp [failuresUpTo]) .nil
  case whole =>
    intro seen all
    simp_all [failuresUpTo]

theorem plain_failures (es : List (String × String)) :
    Json.Plain (.map [("failures", .list (es.map failureTree))]) := by
  refine .map (List.nodup_singleton _) (List.forall_mem_singleton.2 (.list ?_))
  intro t listed
  obtain ⟨e, -, rfl⟩ := List.mem_map.1 listed
  refine .map (by simp) ?_
  simp [Json.Plain.text]

/-! ## The report -/

/-- A text that reports on failures in a format: a line with their number and a line for each,
    or JSON whose list is read as their names with what is wrong. -/
inductive Tells (fs : List Failure) : ReportFormat → String → Prop where
  | text {cs : List Char} (lines : Lines fs cs) :
      Tells fs .text
        ("FAILED " ++ toString fs.length ++ " slo(s) failed to generate\n" ++ String.ofList cs)
  | json {s : String} {t : Tree} (parsed : Json.read? s = some t)
      (entries : Tree.read readFailures t = .ok (fs.map fun f => (f.slo, f.fault.message))) :
      Tells fs .json s

/-- The report on failures tells them, all of them and in their order. -/
theorem tells_failures (fs : List Failure) (format : ReportFormat) :
    Tells fs format ((failures (fs.map .of)).render format) := by
  cases format with
  | text =>
    have told := Tells.text (lines_ofLines fs)
    have lines : (fs.map SloFailure.of).map (fun f => "  " ++ f.slo ++ ": " ++ f.error) =
        fs.map fun f => "  " ++ f.slo ++ ": " ++ f.fault.message := List.map_map
    have text : (failures (fs.map .of)).render .text =
        "FAILED " ++ toString fs.length ++ " slo(s) failed to generate\n" ++ String.ofList
          (ofLines (fs.map fun f => "  " ++ f.slo ++ ": " ++ f.fault.message)).toList := by
      rw [← String.toList_inj, render, failures, lines, toList_ofLines_cons]
      simp
    exact text ▸ told
  | json =>
    have entries : (fs.map SloFailure.of).map
          (fun f => Tree.map [("slo", .text f.slo), ("error", .text f.error)]) =
        (fs.map fun f => (f.slo, f.fault.message)).map failureTree := by
      rw [List.map_map, List.map_map]
      rfl
    have tree := congrArg (fun ts => Tree.map [("failures", .list ts)]) entries
    obtain ⟨t, parsed, same⟩ := Json.exists_read?_pretty (tree ▸ plain_failures _)
    exact .json parsed (read_of_reads (tree ▸ reads_failures _) same)

end ErrorBudget.Report
