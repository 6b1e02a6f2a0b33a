/-
  ErrorBudget.Proofs.Generation.Report

  Checks as reports: a check goes through faults in an order of its own and fails
  with the first that it meets. The checks of numbers and custom windows report
  numbers outside their ranges, blank boundaries and empty spans.
-/
import ErrorBudget.Proofs.Decimal.Order

namespace ErrorBudget

open Decimal (number?)

/-! ## Checks and what they report -/

/-- A check reports faults: it passes if there are none, and fails with the first of
    them. -/
inductive Reports {α : Type} : Except Fault α → List Fault → Prop where
  | pass (x : α) : Reports (.ok x) []
  | fail (f : Fault) (fs : List Fault) : Reports (.error f) (f :: fs)

namespace Reports

variable {α β : Type} {c : Except Fault α} {fs gs : List Fault}

theorem ok_iff (h : Reports c fs) : (∃ x, c = .ok x) ↔ fs = [] := by
  cases h with
  | pass x => exact ⟨fun _ => rfl, fun _ => ⟨x, rfl⟩⟩
  | fail f fs => exact ⟨fun ⟨_, h⟩ => (nomatch h), fun h => (nomatch h)⟩

theorem error_iff (h : Reports c fs) (f : Fault) : c = .error f ↔ fs.head? = some f := by
  cases h with
  | pass x => exact ⟨fun h => (nomatch h), fun h => (nomatch h)⟩
  | fail g fs =>
    rw [List.head?_cons, Option.some_inj]
    exact ⟨Except.error.inj, congrArg Except.error⟩

/-- Checks in a row report the faults of the first before those of the next. -/
theorem bind {g : α → Except Fault β} (h : Reports c fs)
    (next : ∀ x, c = .ok x → Reports (g x) gs) : Reports (c >>= g) (fs ++ gs) := by
  cases h with
  | pass x => exact next x rfl
  | fail f fs => exact .fail f (fs ++ gs)

/-- A check whose faults are changed reports the changed faults. -/
theorem mapError (h : Reports c fs) (k : Fault → Fault) :
    Reports (c.mapError k) (fs.map k) := by
  cases h with
  | pass x => exact .pass x
  | fail f fs => exact .fail (k f) (fs.map k)

theorem map (h : Reports c fs) (k : α → β) : Reports (c.map k) fs := by
  cases h with
  | pass x => exact .pass (k x)
  | fail f fs => exact .fail f fs

end Reports

/-- A computation in two steps has a result if both steps have. -/
theorem exists_of_bind_eq_ok {ε α β : Type} {c : Except ε α} {g : α → Except ε β} {y : β}
    (h : c >>= g = .ok y) : ∃ x, c = .ok x ∧ g x = .ok y := by
  cases c with
  | ok x => exact ⟨x, rfl, h⟩
  | error f => cases h

theorem eq_ok_of_toOption {ε α : Type} {result : Except ε α} {x : α}
    (h : result.toOption = some x) : result = .ok x := by
  cases result with
  | error _ => cases h
  | ok y => exact congrArg Except.ok (Option.some.inj h)

/-- The fault, unless a requirement is met. -/
def require (p : Prop) [Decidable p] (f : Fault) : List Fault :=
  if p then [] else [f]

theorem require_eq_nil {p : Prop} [Decidable p] {f : Fault} : require p f = [] ↔ p := by
  rw [require]
  split
  · rename_i met
    exact ⟨fun _ => met, fun _ => rfl⟩
  · rename_i unmet
    exact ⟨fun h => (nomatch h), fun h => absurd h unmet⟩

/-- A guard in front of further checks. -/
theorem Reports.guard {α : Type} {p bad : Prop} [Decidable p] [Decidable bad] {f : Fault}
    {rest : Except Fault α} {fs : List Fault} (h : bad ↔ ¬ p) (others : Reports rest fs) :
    Reports (if bad then .error f else rest) (require p f ++ fs) := by
  by_cases met : p
  · rw [require, if_pos met, if_neg fun failed => h.1 failed met, List.nil_append]
    exact others
  · rw [require, if_neg met, if_pos (h.2 met)]
    exact .fail f fs

/-- A guard that is the last check. -/
theorem Reports.guard_last {p bad : Prop} [Decidable p] [Decidable bad] {f : Fault}
    (h : bad ↔ ¬ p) : Reports (if bad then .error f else .ok ()) (require p f) := by
  have guarded := Reports.guard (f := f) h (.pass ())
  rwa [List.append_nil] at guarded

/-- Faults of a field of a service. -/
def located (slo : Slo) (field : String) (fs : List Fault) : List Fault :=
  fs.map (.ofSlo slo.name field)

/-! ## Numbers -/

/-- A double that denotes a number from 0 to 100. -/
def IsShare (x : Float) : Prop :=
  ∃ q, number? x = some q ∧ 0 ≤ q ∧ q ≤ 100

/-- A double that denotes a number above 0 and up to 100. -/
def IsPositiveShare (x : Float) : Prop :=
  ∃ q, number? x = some q ∧ 0 < q ∧ q ≤ 100

instance (x : Float) : Decidable (IsShare x) := decidable_of_iff _ isPercentage_iff

instance (x : Float) : Decidable (IsPositiveShare x) := decidable_of_iff _ isPositivePercentage_iff

/-- A text with something to be seen in it. -/
def IsVisible (s : String) : Prop :=
  ∃ c ∈ s.toList, Text.isSpace c = false

instance (s : String) : Decidable (IsVisible s) :=
  inferInstanceAs (Decidable (∃ c ∈ s.toList, _))

theorem isBlank_iff (s : String) : Text.isBlank s = true ↔ ¬ IsVisible s := by
  simp [Text.isBlank, IsVisible]

/-- Faults of a latency target. -/
def LatencyTarget.faults (t : LatencyTarget) : List Fault :=
  require (IsVisible t.le) (.range .blankBoundary)
    ++ require (IsShare t.target) (.range (.target t.le t.target))

/-- Faults of objectives. -/
def Objectives.faults (o : Objectives) : List Fault :=
  require (IsShare o.availability) (.range (.availability o.availability))
    ++ o.latency.flatMap LatencyTarget.faults

/-- Faults of a custom window, which is told by its index. -/
def Window.faults (index : Nat) (w : Window) : List Fault :=
  require (IsPositiveShare w.consumption) (.range (.consumption index w.consumption))
    ++ require (w.duration ≠ Duration.zero) (.range (.emptyWindow index))

/-- Faults of an indicator's custom windows. -/
def Indicator.windowFaults (i : Indicator) : List Fault :=
  i.windows.zipIdx.flatMap fun (w, index) => w.faults index

theorem LatencyTarget.reports_check (t : LatencyTarget) : Reports t.check t.faults := by
  have range : (!isPercentage t.target) = true ↔ ¬ IsShare t.target := by
    rw [Bool.not_eq_true', ← Bool.not_eq_true]
    exact not_congr isPercentage_iff
  exact .guard (isBlank_iff t.le) (.guard_last range)

theorem Objectives.reports_check (o : Objectives) : Reports o.check o.faults := by
  have range : (!isPercentage o.availability) = true ↔ ¬ IsShare o.availability := by
    rw [Bool.not_eq_true', ← Bool.not_eq_true]
    exact not_congr isPercentage_iff
  -- the first target that fails stops the check of the others
  have targets (ts : List LatencyTarget) :
      Reports (ts.forM LatencyTarget.check) (ts.flatMap LatencyTarget.faults) := by
    induction ts with
    | nil => exact .pass ()
    | cons t ts ih => exact t.reports_check.bind fun _ _ => ih
  exact .guard range (targets o.latency)

theorem Duration.isZero_iff (d : Duration) : d.isZero = true ↔ ¬ d ≠ zero := by
  rw [isZero, beq_iff_eq, not_not]
  exact ⟨fun h => by cases d; exact congrArg mk h, fun h => h ▸ rfl⟩

theorem Window.reports_check (w : Window) (index : Nat) :
    Reports (w.check index) (w.faults index) := by
  have range : (!isPositivePercentage w.consumption) = true ↔ ¬ IsPositiveShare w.consumption := by
    rw [Bool.not_eq_true', ← Bool.not_eq_true]
    exact not_congr isPositivePercentage_iff
  exact .guard range (.guard_last w.duration.isZero_iff)

theorem Window.reports_checkAll (ws : List Window) (index : Nat) :
    Reports (checkAll index ws) ((ws.zipIdx index).flatMap fun (w, index) => w.faults index) := by
  induction ws generalizing index with
  | nil => exact .pass ()
  | cons w ws ih =>
    -- the recursion is a case split on the first check, which is what a bind is
    have stepwise : checkAll index (w :: ws) = w.check index >>= fun _ => checkAll (index + 1) ws := by
      rw [checkAll]
      cases w.check index <;> rfl
    rw [stepwise, List.zipIdx_cons, List.flatMap_cons]
    exact (w.reports_check index).bind fun _ _ => ih (index + 1)

theorem Indicator.reports_checkWindows (i : Indicator) : Reports i.checkWindows i.windowFaults :=
  Window.reports_checkAll i.windows 0

end ErrorBudget
