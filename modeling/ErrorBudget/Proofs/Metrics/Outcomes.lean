/-
  ErrorBudget.Proofs.Metrics.Outcomes

  What the numbers about outcomes are numbers of: services with rules and without, recording
  rules, and services that were timed. Each is kept without labels, apart from all the others,
  so that an event adds to its own number and to no other. Over a run the numbers are those of
  the outcome, and a service that fails adds to the failures only.
-/
import Mathlib.Algebra.BigOperators.Group.List.Basic
import ErrorBudget.Proofs.Generation.Isolation
import ErrorBudget.Proofs.Metrics.Recorder

namespace ErrorBudget

namespace Metrics

/-! ## Numbers about outcomes -/

/-- A number about outcomes. -/
inductive Tally where
  | generated
  | failed
  | recordingRules
  | timed
deriving DecidableEq, Repr

namespace Tally

/-- The metric that the number is kept under. -/
def metric : Tally → String
  | generated => slosGenerated
  | failed => sloFailures
  | recordingRules => Metrics.recordingRules
  | timed => generationDuration

/-- How the number is kept: one sample for each service that was timed, and else a sum. -/
def value : Tally → Nat → Value
  | timed, n => .samples n
  | _, n => .counter n

theorem metric_mem_names (t : Tally) : t.metric ∈ names := by
  cases t <;> decide

theorem metric_injective {t u : Tally} (h : t.metric = u.metric) : t = u := by
  revert h
  cases t <;> cases u <;> decide

theorem metric_ne_alertRules (t : Tally) : alertRules ≠ t.metric := by
  cases t <;> decide

end Tally

/-- What an event adds to a number. -/
def Event.adds (t : Tally) : Event → Nat
  | .alertRules .. => 0
  | .recordingRules n => if t = .recordingRules then n else 0
  | .timed => if t = .timed then 1 else 0
  | .generated => if t = .generated then 1 else 0
  | .failed => if t = .failed then 1 else 0

namespace Recorder

/-- A recorder shows a number: it keeps it under its metric, or it was never asked to and the
    number is zero. -/
def Shows (r : Recorder) (t : Tally) (n : Nat) : Prop :=
  (r.value? t.metric [] = none ∧ n = 0) ∨ r.value? t.metric [] = some (t.value n)

theorem shows_empty (t : Tally) : Shows {} t 0 :=
  .inl ⟨rfl, rfl⟩

/-! ## Steps -/

theorem value?_touch (r : Recorder) (metric : String) (labels : List (String × String))
    (start : Value) (change : Value → Value) (m : String) (ls : List (String × String)) :
    (r.touch metric labels start change).value? m ls =
      if key m ls = key metric labels then
        some (change ((r.value? metric labels).getD start))
      else r.value? m ls := by
  rw [value?, touch, KeyMap.get?_insert]
  split
  · rfl
  · rfl

variable {r : Recorder} {t : Tally} {n : Nat}

/-- A change of another metric leaves a number alone, whatever labels it is kept under. -/
theorem Shows.touch_other (h : r.Shows t n) {metric : String} (named : metric ∈ names)
    (other : metric ≠ t.metric) (labels : List (String × String)) (start : Value)
    (change : Value → Value) : (r.touch metric labels start change).Shows t n := by
  have apart : key t.metric [] ≠ key metric labels := fun same =>
    other (metric_eq_of_key_eq t.metric_mem_names named same).symm
  rw [Shows, value?_touch, if_neg apart]
  exact h

/-- A change that raises one number by `k` raises this number and no other. -/
theorem Shows.touch (h : r.Shows t n) {u : Tally} {k : Nat} {change : Value → Value}
    (raises : ∀ m, change (u.value m) = u.value (m + k)) :
    (r.touch u.metric [] (u.value 0) change).Shows t (n + if t = u then k else 0) := by
  by_cases same : t = u
  · subst same
    have old : (r.value? t.metric []).getD (t.value 0) = t.value n := by
      rcases h with ⟨untouched, rfl⟩ | kept
      · rw [untouched, Option.getD_none]
      · rw [kept, Option.getD_some]
    rw [Shows, value?_touch, if_pos rfl, if_pos rfl, old, raises]
    exact .inr rfl
  · have other : u.metric ≠ t.metric := fun equal => same (Tally.metric_injective equal).symm
    rw [if_neg same, Nat.add_zero]
    exact h.touch_other u.metric_mem_names other [] _ _

/-- With an event, a number goes up by what the event adds to it. -/
theorem Shows.record (h : r.Shows t n) (e : Event) : (r.record e).Shows t (n + e.adds t) := by
  cases e with
  | alertRules method signal k => exact h.touch_other (by decide) t.metric_ne_alertRules _ _ _
  | recordingRules k => exact h.touch (u := .recordingRules) fun _ => rfl
  | timed => exact h.touch (u := .timed) fun _ => rfl
  | generated => exact h.touch (u := .generated) fun _ => rfl
  | failed => exact h.touch (u := .failed) fun _ => rfl

/-! ## Runs -/

/-- Over a run, a number goes up by what its events add to it together. -/
theorem Shows.recordAll (h : r.Shows t n) (events : List Event) :
    (r.recordAll events).Shows t (n + (events.map (Event.adds t)).sum) := by
  induction events generalizing r n with
  | nil => exact h
  | cons e es ih =>
    rw [List.map_cons, List.sum_cons, ← Nat.add_assoc]
    exact ih (h.record e)

end Recorder

/-! ## Services -/

/-- What the result of a service adds to a number. -/
def resultTally (t : Tally) : Except Fault SloRules → Nat
  | .ok rules => match t with
    | .generated => 1
    | .failed => 0
    | .recordingRules => rules.recordingRuleCount
    | .timed => 1
  | .error _ => if t = .failed then 1 else 0

theorem adds_of_mem_alertEvents {p : PreparedSlo} {e : Event} (h : e ∈ alertEvents p)
    (t : Tally) : e.adds t = 0 := by
  have of_batch {b : Option Alerting.Batch} (h : e ∈ batchEvents b) : e.adds t = 0 := by
    cases b with
    | none => cases h
    | some b =>
      obtain rfl := List.mem_singleton.1 h
      rfl
  rw [alertEvents] at h
  split at h
  · cases h
  · rcases List.mem_append.1 h with on_errors | on_latency
    · exact of_batch on_errors
    · split at on_latency
      · cases on_latency
      · exact of_batch on_latency

/-- What is counted for one service: first while its rules are made, then its outcome. -/
def serviceEvents (g : Generator) (classes : ClassTable) (slo : Slo) : List Event :=
  sloEvents g slo classes ++ match g.generate slo classes with
    | .ok _ => [.generated]
    | .error _ => [.failed]

theorem documentEvents_eq (g : Generator) (d : Document) :
    documentEvents g d = d.slos.flatMap (serviceEvents g (.ofClasses d.classes)) :=
  rfl

/-- What is counted for a service is what its result adds. -/
theorem sum_adds_serviceEvents (g : Generator) (classes : ClassTable) (slo : Slo) (t : Tally) :
    ((serviceEvents g classes slo).map (Event.adds t)).sum =
      resultTally t (g.generate slo classes) := by
  rw [serviceEvents, sloEvents, Generator.generate]
  cases g.prepare slo classes with
  | error f => cases t <;> rfl
  | ok p =>
    -- alerts are counted elsewhere, also those of a service that fails over later ones
    have alerts : ((alertEvents p).map (Event.adds t)).sum = 0 := by
      refine List.sum_eq_zero fun k hk => ?_
      obtain ⟨e, counted, rfl⟩ := List.mem_map.1 hk
      exact adds_of_mem_alertEvents counted t
    change (((alertEvents p ++ _) ++ match g.build p with
      | .ok _ => [.generated]
      | .error _ => [.failed]).map _).sum = resultTally t (g.build p)
    rw [List.append_assoc, List.map_append, List.sum_append, alerts, Nat.zero_add]
    cases g.build p with
    | error f => cases t <;> rfl
    | ok rules => cases t <;> rfl

/-! ## Documents -/

theorem sum_adds_documentEvents (g : Generator) (d : Document) (t : Tally) :
    ((documentEvents g d).map (Event.adds t)).sum =
      ((g.results d).map fun e => resultTally t e.2).sum := by
  rw [documentEvents_eq, Generator.results, List.map_map]
  induction d.slos with
  | nil => rfl
  | cons slo slos ih =>
    rw [List.flatMap_cons, List.map_append, List.sum_append, ih, sum_adds_serviceEvents]
    rfl

end Metrics

open Metrics (Tally Recorder)

/-- The numbers of an outcome. -/
def Outcome.tally (o : Outcome) : Tally → Nat
  | .generated => o.succeeded.length
  | .failed => o.failed.length
  | .recordingRules => ((o.succeeded.flatMap SloRules.groups).flatMap RecordingGroup.rules).length
  | .timed => o.succeeded.length

/-- The numbers of an outcome are those of the results that it lists. -/
theorem Outcome.Lists.tally_eq {o : Outcome} {results : List (Slo × Except Fault SloRules)}
    (h : o.Lists results) (t : Tally) :
    o.tally t = (results.map fun e => Metrics.resultTally t e.2).sum := by
  induction h with
  | nil => cases t <;> rfl
  | made slo rules _ ih =>
    rw [List.map_cons, List.sum_cons, ← ih]
    cases t with
    | recordingRules =>
      simp [tally, Metrics.resultTally, SloRules.recordingRuleCount, List.flatMap_append]
    | failed => simp [tally, Metrics.resultTally]
    | generated => exact Nat.add_comm _ 1
    | timed => exact Nat.add_comm _ 1
  | failed slo fault _ ih =>
    rw [List.map_cons, List.sum_cons, ← ih]
    cases t with
    | failed => exact Nat.add_comm _ 1
    | generated => exact (Nat.zero_add _).symm
    | recordingRules => exact (Nat.zero_add _).symm
    | timed => exact (Nat.zero_add _).symm

namespace Generator

theorem tally_generateAll (g : Generator) (d : Document) (t : Tally) :
    (g.generateAll d).tally t = ((g.results d).map fun e => Metrics.resultTally t e.2).sum :=
  (lists_results g d).tally_eq t

/-- A document adds the numbers of its outcome to what a recorder shows. -/
theorem shows_documentEvents {r : Recorder} {t : Tally} {n : Nat} (h : r.Shows t n)
    (g : Generator) (d : Document) :
    (r.recordAll (Metrics.documentEvents g d)).Shows t (n + (g.generateAll d).tally t) := by
  rw [tally_generateAll, ← Metrics.sum_adds_documentEvents]
  exact h.recordAll _

theorem shows_batches {r : Recorder} {t : Tally} {n : Nat} (h : r.Shows t n)
    (batches : List (Generator × Document)) :
    (batches.foldl (fun r b => r.recordAll (Metrics.documentEvents b.1 b.2)) r).Shows t
      (n + (batches.map fun b => (b.1.generateAll b.2).tally t).sum) := by
  induction batches generalizing r n with
  | nil => exact h
  | cons b bs ih =>
    rw [List.map_cons, List.sum_cons, ← Nat.add_assoc]
    exact ih (shows_documentEvents h b.1 b.2)

/-- A service that fails is one more failure of its document, and nothing else. -/
theorem tally_of_failing {g : Generator} {slo : Slo} {classes : List ServiceClass} {fault : Fault}
    (fails : g.generate slo (.ofClasses classes) = .error fault) (before after : List Slo)
    (t : Tally) :
    (g.generateAll ⟨before ++ slo :: after, classes⟩).tally t =
      (g.generateAll ⟨before ++ after, classes⟩).tally t + if t = .failed then 1 else 0 := by
  have own : Metrics.resultTally t (g.generate slo (.ofClasses classes)) =
      if t = .failed then 1 else 0 := by
    rw [fails]
    rfl
  rw [tally_generateAll, tally_generateAll, results, results]
  simp only [List.map_append, List.map_cons, List.sum_append, List.sum_cons, own]
  omega

/-- On a fresh recorder a document leaves the numbers of its outcome: how many services have
    rules, how many have not, how many recording rules there are in the groups of those that
    have, and one sample for each of these. Over several documents the numbers add up; and a
    service that fails, wherever it stands, adds one to the failures and nothing to the others,
    whatever the recorder showed before. -/
theorem outcomes_accounted :
    (∀ (g : Generator) (d : Document),
      (∀ t, (Recorder.recordAll {} (Metrics.documentEvents g d)).Shows t
        ((g.generateAll d).tally t)) ∧
      (g.generateAll d).succeeded.length + (g.generateAll d).failed.length = d.slos.length) ∧
    (∀ (batches : List (Generator × Document)) (t : Tally),
      (batches.foldl (fun (r : Recorder) b => r.recordAll (Metrics.documentEvents b.1 b.2)) {}).Shows
        t (batches.map fun b => (b.1.generateAll b.2).tally t).sum) ∧
    ∀ (g : Generator) (slo : Slo) (classes : List ServiceClass) (fault : Fault),
      g.generate slo (.ofClasses classes) = .error fault →
      ∀ (before after : List Slo) (r : Recorder) (t : Tally) (n : Nat), r.Shows t n →
        (r.recordAll (Metrics.documentEvents g ⟨before ++ slo :: after, classes⟩)).Shows t
          (n + (g.generateAll ⟨before ++ after, classes⟩).tally t
            + if t = .failed then 1 else 0) := by
  refine ⟨fun g d => ⟨fun t => ?_, ?_⟩, fun batches t => ?_,
    fun g slo classes fault fails before after r t n h => ?_⟩
  · have shown := shows_documentEvents (Recorder.shows_empty t) g d
    rwa [Nat.zero_add] at shown
  · rw [(lists_results g d).length_add, results, List.length_map]
  · have shown := shows_batches (Recorder.shows_empty t) batches
    rwa [Nat.zero_add] at shown
  · rw [Nat.add_assoc, ← tally_of_failing fails]
    exact shows_documentEvents h g _

/-- Of two services one asks for a class that is not there. The other has a rule for each of
    the seven windows. -/
theorem outcomes_accounted_unknown_class :
    let g : Generator := ⟨.builtin, false⟩
    let checkout : Slo :=
      { name := "checkout"
        objectives := { availability := 99.9 }
        errors := { expr := "job:errors:ratio" } }
    let search : Slo := { name := "search", className := "gold" }
    let r := Recorder.recordAll {} (Metrics.documentEvents g ⟨[search, checkout], []⟩)
    g.generate search KeyMap.empty = .error (.ofSlo "search" "class" (.unknownClass "gold")) ∧
    r.Shows .generated 1 ∧ r.Shows .failed 1 ∧ r.Shows .recordingRules 7 ∧ r.Shows .timed 1 := by
  intro g checkout search r
  have fails : g.generate search KeyMap.empty =
      .error (.ofSlo "search" "class" (.unknownClass "gold")) := rfl
  obtain ⟨-, -, failing⟩ := outcomes_accounted
  have shown (t : Tally) :=
    failing g search [] _ fails [] [checkout] {} t 0 (Recorder.shows_empty t)
  have made : (g.generateAll ⟨[checkout], []⟩).succeeded.length = 1 := by decide +kernel
  have failed : (g.generateAll ⟨[checkout], []⟩).failed.length = 0 := by decide +kernel
  have recorded : (((g.generateAll ⟨[checkout], []⟩).succeeded.flatMap SloRules.groups).flatMap
      RecordingGroup.rules).length = 7 := by decide +kernel
  refine ⟨fails, ?_, ?_, ?_, ?_⟩
  · have number := shown .generated
    rwa [List.nil_append, List.nil_append, Outcome.tally, made] at number
  · have number := shown .failed
    rwa [List.nil_append, List.nil_append, Outcome.tally, failed] at number
  · have number := shown .recordingRules
    rwa [List.nil_append, List.nil_append, Outcome.tally, recorded] at number
  · have number := shown .timed
    rwa [List.nil_append, List.nil_append, Outcome.tally, made] at number

end Generator

end ErrorBudget
