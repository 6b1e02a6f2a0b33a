/-
  ErrorBudget.Proofs.Metrics.Recorder

  What a recorder has counted. A metric is kept under a text that is made of its name and
  its labels; the text tells the metric, and for alert rules also the method and the
  signal. So the sum over all label sets and the value for one of them both go up with
  each event by what it counts.
-/
import Mathlib.Data.List.Basic
import ErrorBudget.Metrics
import ErrorBudget.Proofs.KeyMap

namespace ErrorBudget.Metrics

/-! ## Keys -/

/-- The names of all metrics. -/
def names : List String :=
  descriptions.map Prod.fst

namespace Recorder

/-- The name of a metric ends where its labels begin. -/
theorem takeWhile_key {metric : String} (named : metric ∈ names)
    (labels : List (String × String)) :
    (key metric labels).toList.takeWhile (· != '\x7b') = metric.toList := by
  have no_brace : (names.all fun name => name.toList.all (· != '\x7b')) = true := by rfl
  have before := List.all_eq_true.1 (List.all_eq_true.1 no_brace metric named)
  rw [key, String.append_assoc, String.append_assoc, String.toList_append,
    List.takeWhile_append_of_pos before, String.toList_append]
  exact List.append_nil _

theorem metric_eq_of_key_eq {m n : String} (hm : m ∈ names) (hn : n ∈ names)
    {labels others : List (String × String)} (h : key m labels = key n others) : m = n := by
  rw [← String.toList_inj, ← takeWhile_key hm labels, h, takeWhile_key hn others]

end Recorder

/-- The labels of alert rules. -/
def alertLabels (method : String) (signal : Signal) : List (String × String) :=
  [("alert_method", method), ("signal", signal.text)]

/-- Alert rules are told by their method and signal, whatever the method is called. -/
theorem alertLabels_of_key_eq {m n : String} {s t : Signal}
    (h : Recorder.key alertRules (alertLabels m s) = Recorder.key alertRules (alertLabels n t)) :
    m = n ∧ s = t := by
  have written (m : String) (s : Signal) : Recorder.key alertRules (alertLabels m s) =
      alertRules ++ "\x7b" ++ ("alert_method=" ++ m ++ "," ++ ("signal=" ++ s.text)) ++ "\x7d" := rfl
  rw [written, written, ← String.toList_inj] at h
  simp only [String.toList_append, List.append_assoc, List.append_cancel_left_eq] at h
  -- the last letters of the signals differ
  have backwards := congrArg List.reverse h
  cases s with
  | error =>
    cases t with
    | error => exact ⟨String.toList_inj.1 (List.append_cancel_right h), rfl⟩
    | latency => simp [Signal.text] at backwards
  | latency =>
    cases t with
    | error => simp [Signal.text] at backwards
    | latency => exact ⟨String.toList_inj.1 (List.append_cancel_right h), rfl⟩

/-! ## What is counted -/

/-- The number that a counter stands at; samples are not summed up. -/
def Value.count : Value → Nat
  | .counter n => n
  | .samples _ => 0

/-- What an entry adds to the number of alert rules. -/
def Entry.alertRules (e : Entry) : Nat :=
  if e.metric = Metrics.alertRules then e.value.count else 0

namespace Recorder

/-- The number that a counter stands at; one that was not touched stands at zero. -/
def counter (r : Recorder) (metric : String) (labels : List (String × String)) : Nat :=
  ((r.value? metric labels).map Value.count).getD 0

/-- The number of alert rules that were counted for a method and a signal. -/
def alertCount (r : Recorder) (method : String) (signal : Signal) : Nat :=
  r.counter Metrics.alertRules (alertLabels method signal)

/-- The number of alert rules that were counted, over all methods and signals. -/
def alertTotal (r : Recorder) : Nat :=
  r.entries.total Entry.alertRules

end Recorder

/-- What an event counts of the alert rules of certain methods and signals. -/
def Event.alertRulesOf (p : String → Signal → Bool) : Event → Nat
  | .alertRules method signal n => if p method signal then n else 0
  | _ => 0

/-! ## Recorders in order -/

/-- An entry stands under its own metric, and a metric is a counter unless it is the time
    that services take. -/
structure Entry.InOrder (key : String) (e : Entry) : Prop where
  named : e.metric ∈ names
  kept : ∃ labels, key = Recorder.key e.metric labels
  counter : e.metric ≠ generationDuration → ∃ n, e.value = .counter n

namespace Recorder

/-- All entries are in order. -/
def InOrder (r : Recorder) : Prop :=
  ∀ key e, r.entries.get? key = some e → e.InOrder key

theorem inOrder_empty : InOrder {} :=
  fun _ _ h => nomatch h

/-- An entry that is found under a metric is one of this metric. -/
theorem InOrder.metric_eq {r : Recorder} (h : r.InOrder) {metric : String}
    (named : metric ∈ names) {labels : List (String × String)} {e : Entry}
    (found : r.entries.get? (key metric labels) = some e) : e.metric = metric := by
  obtain ⟨own, ⟨others, same⟩, -⟩ := h _ _ found
  exact (metric_eq_of_key_eq named own same).symm

/-- In a recorder in order, a counter is raised to the sum. -/
theorem entries_count {r : Recorder} (h : r.InOrder) {metric : String} (named : metric ∈ names)
    (is_counter : metric ≠ generationDuration) (labels : List (String × String)) (n : Nat) :
    (r.count metric labels n).entries = r.entries.insert (key metric labels)
      ⟨metric, .counter (r.counter metric labels + n)⟩ := by
  rw [count, touch, counter, value?]
  cases found : r.entries.get? (key metric labels) with
  | none => rfl
  | some e =>
    obtain ⟨m, value⟩ := (h _ _ found).counter (h.metric_eq named found ▸ is_counter)
    simp only [Option.map_some, Option.getD_some, value, Value.count]

/-- A recorder stays in order when an entry is set under its own metric. -/
theorem InOrder.of_insert {r r' : Recorder} (h : r.InOrder) {metric : String}
    (named : metric ∈ names) {labels : List (String × String)} {value : Value}
    (counter : metric ≠ generationDuration → ∃ n, value = .counter n)
    (made : r'.entries = r.entries.insert (key metric labels) ⟨metric, value⟩) : r'.InOrder := by
  intro k e found
  rw [made, KeyMap.get?_insert] at found
  split at found
  · rename_i same
    obtain rfl := Option.some.inj found
    exact ⟨named, ⟨labels, same⟩, counter⟩
  · exact h k e found

theorem inOrder_count {r : Recorder} (h : r.InOrder) {metric : String} (named : metric ∈ names)
    (counter : metric ≠ generationDuration) (labels : List (String × String)) (n : Nat) :
    (r.count metric labels n).InOrder :=
  h.of_insert named (fun _ => ⟨_, rfl⟩) (entries_count h named counter labels n)

/-! ## Steps -/

/-- An entry of another metric does not change what was counted of alert rules. -/
theorem alerts_of_insert {r r' : Recorder} (h : r.InOrder) {metric : String}
    (named : metric ∈ names) (other : metric ≠ alertRules) {labels : List (String × String)}
    {value : Value} (made : r'.entries = r.entries.insert (key metric labels) ⟨metric, value⟩) :
    r'.alertTotal = r.alertTotal ∧ ∀ m s, r'.alertCount m s = r.alertCount m s := by
  constructor
  · have traded := KeyMap.total_insert Entry.alertRules r.entries (key metric labels)
      ⟨metric, value⟩
    have before : ((r.entries.get? (key metric labels)).map Entry.alertRules).getD 0 = 0 := by
      cases found : r.entries.get? (key metric labels) with
      | none => rfl
      | some e =>
        rw [Option.map_some, Option.getD_some, Entry.alertRules,
          if_neg (h.metric_eq named found ▸ other)]
    rw [before, Entry.alertRules, if_neg other] at traded
    rw [alertTotal, made]
    exact traded
  · intro m s
    have apart : key Metrics.alertRules (alertLabels m s) ≠ key metric labels := fun same =>
      other (metric_eq_of_key_eq (by decide) named same).symm
    rw [alertCount, counter, value?, made, KeyMap.get?_insert, if_neg apart]
    rfl

theorem alertTotal_count {r : Recorder} (h : r.InOrder) (labels : List (String × String))
    (n : Nat) : (r.count Metrics.alertRules labels n).alertTotal = r.alertTotal + n := by
  have named : Metrics.alertRules ∈ names := by decide
  have before : ((r.entries.get? (key Metrics.alertRules labels)).map Entry.alertRules).getD 0 =
      r.counter Metrics.alertRules labels := by
    rw [counter, value?]
    cases found : r.entries.get? (key Metrics.alertRules labels) with
    | none => rfl
    | some e => exact if_pos (h.metric_eq named found)
  have traded := KeyMap.total_insert Entry.alertRules r.entries (key Metrics.alertRules labels)
    ⟨Metrics.alertRules, .counter (r.counter Metrics.alertRules labels + n)⟩
  rw [before, Entry.alertRules, if_pos rfl, Value.count] at traded
  rw [alertTotal, entries_count h named (by decide), alertTotal]
  omega

theorem alertCount_count {r : Recorder} (h : r.InOrder) (method : String) (signal : Signal)
    (n : Nat) (m : String) (s : Signal) :
    (r.count Metrics.alertRules (alertLabels method signal) n).alertCount m s =
      r.alertCount m s + if method = m ∧ signal = s then n else 0 := by
  rw [alertCount, counter, value?, entries_count h (by decide) (by decide), KeyMap.get?_insert]
  by_cases same : method = m ∧ signal = s
  · obtain ⟨rfl, rfl⟩ := same
    rw [if_pos rfl, if_pos ⟨rfl, rfl⟩]
    rfl
  · have apart : key Metrics.alertRules (alertLabels m s) ≠
        key Metrics.alertRules (alertLabels method signal) := fun equal =>
      same ((alertLabels_of_key_eq equal).imp Eq.symm Eq.symm)
    rw [if_neg apart, if_neg same]
    rfl

theorem inOrder_record {r : Recorder} (h : r.InOrder) (e : Event) : (r.record e).InOrder := by
  cases e with
  | alertRules method signal n => exact inOrder_count h (by decide) (by decide) _ n
  | recordingRules n => exact inOrder_count h (by decide) (by decide) _ n
  | timed => exact h.of_insert (by decide) (fun counter => absurd rfl counter) rfl
  | generated => exact inOrder_count h (by decide) (by decide) _ 1
  | failed => exact inOrder_count h (by decide) (by decide) _ 1

/-- With an event, the numbers of alert rules go up by what it counts. -/
theorem alerts_record {r : Recorder} (h : r.InOrder) (e : Event) :
    (r.record e).alertTotal = r.alertTotal + e.alertRulesOf (fun _ _ => true) ∧
    ∀ m s, (r.record e).alertCount m s =
      r.alertCount m s + e.alertRulesOf (fun n t => n = m ∧ t = s) := by
  have counted {metric : String} (named : metric ∈ names) (other : metric ≠ Metrics.alertRules)
      (counter : metric ≠ generationDuration) (n : Nat) :=
    alerts_of_insert h named other (entries_count h named counter [] n)
  cases e with
  | alertRules method signal n =>
    refine ⟨alertTotal_count h _ n, fun m s => ?_⟩
    simp only [Event.alertRulesOf, decide_eq_true_eq]
    exact alertCount_count h method signal n m s
  | recordingRules n => exact counted (by decide) (by decide) (by decide) n
  | timed => exact alerts_of_insert h (by decide) (by decide) rfl
  | generated => exact counted (by decide) (by decide) (by decide) 1
  | failed => exact counted (by decide) (by decide) (by decide) 1

/-! ## Runs -/

/-- Over a run, the numbers of alert rules go up by what its events count together. -/
theorem alerts_recordAll {r : Recorder} (h : r.InOrder) (events : List Event) :
    (r.recordAll events).alertTotal =
      r.alertTotal + (events.map (Event.alertRulesOf fun _ _ => true)).sum ∧
    ∀ m s, (r.recordAll events).alertCount m s =
      r.alertCount m s + (events.map (Event.alertRulesOf fun n t => n = m ∧ t = s)).sum := by
  induction events generalizing r with
  | nil => exact ⟨rfl, fun _ _ => rfl⟩
  | cons e es ih =>
    obtain ⟨total, each⟩ := alerts_record h e
    obtain ⟨totals, every⟩ := ih (inOrder_record h e)
    constructor
    · change ((r.record e).recordAll es).alertTotal = _
      rw [totals, total, List.map_cons, List.sum_cons, Nat.add_assoc]
    · intro m s
      change ((r.record e).recordAll es).alertCount m s = _
      rw [every, each, List.map_cons, List.sum_cons, Nat.add_assoc]

end Recorder

end ErrorBudget.Metrics
