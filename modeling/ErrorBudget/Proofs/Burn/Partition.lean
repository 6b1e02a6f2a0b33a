/-
  ErrorBudget.Proofs.Burn.Partition

  How custom windows become the table of what is watched. One window after another is put
  into the row of its tag, or into none if the tag is no severity. So after any number of
  windows each row holds the windows with its tag, in their order and with nothing lost,
  and a severity without windows has no row. Only where there are no windows at all the
  default table is watched.
-/
import ErrorBudget.Proofs.Alerting.Raised

namespace ErrorBudget.Burn

section

variable (objective : Duration) (short : Bool)

/-! ## Entries -/

/-- What is watched for a window: it and, with short windows, its twelfth as they are
    written, and the rate at which its share of the budget is spent within it. -/
def BurnWindow.ofWindow (w : Window) : BurnWindow :=
  { multiplier :=
      (w.consumption / 100.0) / (w.duration.millis.toFloat / objective.millis.toFloat)
    long := w.duration.text
    short := if short then some (Duration.mk (w.duration.millis / shortDivisor)).text else none }

/-- An entry is about a window: its texts are read as the window and its twelfth, and its
    rate is that of the window. -/
structure Watches (w : Window) (b : BurnWindow) : Prop where
  written : b.long = w.duration.text
  long : Duration.read b.long = .ok w.duration
  has_short : b.short.isSome = true ↔ short = true
  short_read : ∀ text ∈ b.short, ∃ d, Duration.read text = .ok d ∧
    d.millis.toNat = w.duration.millis.toNat / 12
  multiplier : b.multiplier =
    (w.consumption / 100.0) / (w.duration.millis.toFloat / objective.millis.toFloat)

theorem watches_ofWindow (w : Window) :
    Watches objective short w (BurnWindow.ofWindow objective short w) where
  written := rfl
  long := Duration.read_text w.duration
  has_short := by
    cases short with
    | false => simp [BurnWindow.ofWindow]
    | true => simp [BurnWindow.ofWindow]
  short_read := by
    intro text h
    cases short with
    | false => cases h
    | true =>
      obtain rfl := Option.some.inj h
      exact ⟨_, Duration.read_text _, UInt64.toNat_div _ _⟩
  multiplier := rfl

theorem ofWindow?_eq {objective : Duration} (h : objective.isZero = false) (w : Window) :
    BurnWindow.ofWindow? objective short w = some (BurnWindow.ofWindow objective short w) := by
  have twelve : shortDivisor ≠ 0 := by decide
  rw [BurnWindow.ofWindow?, Duration.ratio?, h, if_neg Bool.false_ne_true, Option.map_some,
    Duration.div?, if_neg twelve]
  rfl

/-! ## Rows -/

/-- The entries with a severity's tag. -/
def entries (windows : List Window) (severity : Severity) : List BurnWindow :=
  (windows.filter fun w => w.notification = severity.text).map
    (BurnWindow.ofWindow objective short)

/-- A table, told by the entries of each severity: one without entries has no row. -/
def rows (entriesOf : Severity → List BurnWindow) : List (Severity × List BurnWindow) :=
  Severity.all.filterMap fun severity =>
    match entriesOf severity with
    | [] => none
    | burn => some (severity, burn)

theorem mem_rows_iff (entriesOf : Severity → List BurnWindow) (severity : Severity)
    (burn : List BurnWindow) :
    (severity, burn) ∈ rows entriesOf ↔ burn = entriesOf severity ∧ burn ≠ [] := by
  rw [rows, List.mem_filterMap]
  constructor
  · rintro ⟨s, -, row⟩
    split at row
    · cases row
    · rename_i some_entry
      obtain ⟨rfl, rfl⟩ := Prod.mk.inj (Option.some.inj row)
      exact ⟨rfl, some_entry⟩
  · rintro ⟨rfl, some_entry⟩
    refine ⟨severity, severity.mem_all, ?_⟩
    split
    · rename_i none_left
      exact absurd none_left some_entry
    · rfl

/-! ## One window after another -/

/-- An entry put into the row of a severity, which is made if there is none. -/
def putRow (severity : Severity) (b : BurnWindow) :
    List (Severity × List BurnWindow) → List (Severity × List BurnWindow)
  | [] => [(severity, [b])]
  | row :: table =>
    if row.1 = severity then (severity, row.2 ++ [b]) :: table
    else if severity = .page then (severity, [b]) :: row :: table
    else row :: putRow severity b table

/-- A window put into a table: into the row of its tag, or nowhere. -/
def putWindow (table : List (Severity × List BurnWindow)) (w : Window) :
    List (Severity × List BurnWindow) :=
  match Severity.ofTag? w.notification with
  | none => table
  | some severity => putRow severity (BurnWindow.ofWindow objective short w) table

/-- An entry changes the row of its severity and no other, and the order stays. -/
theorem putRow_rows (severity : Severity) (b : BurnWindow)
    (entriesOf : Severity → List BurnWindow) :
    putRow severity b (rows entriesOf) =
      rows (Function.update entriesOf severity (entriesOf severity ++ [b])) := by
  cases pages : entriesOf .page with
  | nil =>
    cases tickets : entriesOf .ticket with
    | nil => cases severity <;> simp [rows, Severity.all, putRow, pages, tickets]
    | cons t ts => cases severity <;> simp [rows, Severity.all, putRow, pages, tickets]
  | cons p ps =>
    cases tickets : entriesOf .ticket with
    | nil => cases severity <;> simp [rows, Severity.all, putRow, pages, tickets]
    | cons t ts => cases severity <;> simp [rows, Severity.all, putRow, pages, tickets]

/-- One more window is one more entry for its tag, and no entry without a severity's tag. -/
theorem entries_concat (windows : List Window) (w : Window) :
    entries objective short (windows ++ [w]) =
      match Severity.ofTag? w.notification with
      | none => entries objective short windows
      | some severity => Function.update (entries objective short windows) severity
          (entries objective short windows severity ++
            [BurnWindow.ofWindow objective short w]) := by
  funext s
  rw [entries, List.filter_append, List.map_append]
  cases tag : Severity.ofTag? w.notification with
  | none =>
    have other : w.notification ≠ s.text := by
      intro same
      rw [Severity.ofTag?_eq_some_iff.2 same] at tag
      cases tag
    rw [List.filter_cons_of_neg (by simpa using other)]
    exact List.append_nil _
  | some severity =>
    have named := Severity.ofTag?_eq_some_iff.1 tag
    by_cases same : s = severity
    · subst same
      rw [List.filter_cons_of_pos (by simpa using named)]
      show _ = Function.update (entries objective short windows) s _ s
      rw [Function.update_self]
      rfl
    · have other : w.notification ≠ s.text := by
        intro text
        exact same (Option.some.inj ((Severity.ofTag?_eq_some_iff.2 text).symm.trans tag))
      rw [List.filter_cons_of_neg (by simpa using other)]
      show _ = Function.update (entries objective short windows) severity _ s
      rw [Function.update_of_ne same]
      exact List.append_nil _

/-- A window that is put into the table of those before it. -/
theorem putWindow_rows (windows : List Window) (w : Window) :
    putWindow objective short (rows (entries objective short windows)) w =
      rows (entries objective short (windows ++ [w])) := by
  rw [entries_concat, putWindow]
  cases Severity.ofTag? w.notification with
  | none => rfl
  | some severity => exact putRow_rows severity _ _

/-- Windows put into an empty table, one after another. -/
theorem foldl_putWindow (windows : List Window) :
    windows.foldl (putWindow objective short) [] = rows (entries objective short windows) := by
  induction windows using List.reverseRecOn with
  | nil => rfl
  | append_singleton windows w ih =>
    rw [List.foldl_append, ih]
    exact putWindow_rows objective short windows w

end

/-! ## The table -/

theorem tagged_eq_filter (severity : Severity) (windows : List Window) :
    tagged severity windows = windows.filter fun w => w.notification = severity.text := by
  rw [tagged]
  refine List.filter_congr fun w _ => ?_
  rw [Bool.eq_iff_iff, beq_iff_eq, decide_eq_true_eq, Severity.ofTag?_eq_some_iff]

theorem burnWindows_custom {objective : Duration} {windows : List Window} (custom : windows ≠ [])
    (h : objective.isZero = false) (short : Bool) :
    burnWindows objective windows short = .ok (rows (entries objective short windows)) := by
  have each (severity : Severity) :
      (tagged severity windows).filterMap (BurnWindow.ofWindow? objective short) =
        entries objective short windows severity := by
    rw [entries, ← tagged_eq_filter, ← List.filterMap_eq_map]
    exact List.filterMap_congr fun w _ => ofWindow?_eq short h w
  rw [burnWindows, if_neg (mt List.isEmpty_iff.1 custom), h, if_neg Bool.false_ne_true]
  simp only [each]
  rfl

/-- Without windows the default table is watched, whatever else is given. Windows need an
    objective that covers some time. Then the table is made by putting in one window after
    another: page comes before ticket, a severity has a row exactly if some window has its
    tag, and the row is about the windows with this tag, one by one and in their order.
    Windows with other tags alone make an empty table. -/
theorem burnWindows_partition (objective : Duration) (windows : List Window) (short : Bool) :
    (windows = [] → burnWindows objective windows short = .ok
      [(.page, [⟨14.4, "1h", some "5m"⟩, ⟨6.0, "6h", some "30m"⟩]),
        (.ticket, [⟨3.0, "1d", some "2h"⟩, ⟨1.0, "3d", some "6h"⟩])]) ∧
    (windows ≠ [] → objective.millis = 0 →
      burnWindows objective windows short = .error .missingObjectiveWindow) ∧
    (windows ≠ [] → objective.millis ≠ 0 → ∃ table,
      burnWindows objective windows short = .ok table ∧
      table = windows.foldl (putWindow objective short) [] ∧
      (table.map Prod.fst).Sublist [.page, .ticket] ∧
      (∀ severity, severity ∈ table.map Prod.fst ↔
        ∃ w ∈ windows, w.notification = severity.text) ∧
      (∀ severity burn, (severity, burn) ∈ table → burn ≠ [] ∧
        List.Forall₂ (Watches objective short)
          (windows.filter fun w => w.notification = severity.text) burn) ∧
      ((∀ w ∈ windows, w.notification ≠ "page" ∧ w.notification ≠ "ticket") → table = [])) := by
  refine ⟨?_, ?_, ?_⟩
  · rintro rfl
    rfl
  · intro custom no_time
    have zero : objective.isZero = true := beq_iff_eq.2 no_time
    rw [burnWindows, if_neg (mt List.isEmpty_iff.1 custom), if_pos zero]
  · intro custom some_time
    have covers : objective.isZero = false := beq_eq_false_iff_ne.2 some_time
    have made := burnWindows_custom custom covers short
    obtain ⟨ordered, has_row⟩ := severities_burnWindows made
    simp only [custom, false_or] at has_row
    refine ⟨_, made, (foldl_putWindow objective short windows).symm, ordered, has_row, ?_, ?_⟩
    · intro severity burn mem
      obtain ⟨rfl, some_entry⟩ := (mem_rows_iff _ severity burn).1 mem
      refine ⟨some_entry, ?_⟩
      rw [entries, List.forall₂_map_right_iff, List.forall₂_same]
      exact fun w _ => watches_ofWindow objective short w
    · intro unknown
      rw [List.eq_nil_iff_forall_not_mem]
      rintro ⟨severity, burn⟩ mem
      obtain ⟨w, hw, tag⟩ := (has_row severity).1 (List.mem_map_of_mem mem)
      cases severity with
      | page => exact (unknown w hw).1 tag
      | ticket => exact (unknown w hw).2 tag

/-- Two pages around a window with another tag, without an objective, and that window alone. -/
theorem burnWindows_partition_pages :
    let day : Window := ⟨.of 1 .day, 10.0, "page"⟩
    let logged : Window := ⟨.of 6 .hour, 5.0, "log"⟩
    let week : Window := ⟨.of 7 .day, 50.0, "page"⟩
    (∃ burn, burnWindows (.of 30 .day) [day, logged, week] true = .ok [(.page, burn)] ∧
      List.Forall₂ (Watches (.of 30 .day) true) [day, week] burn) ∧
    burnWindows .zero [day, logged, week] true = .error .missingObjectiveWindow ∧
    burnWindows (.of 30 .day) [logged] true = .ok [] := by
  intro day logged week
  have some_time : (Duration.of 30 .day).millis ≠ 0 := by decide
  obtain ⟨-, no_time, -⟩ := burnWindows_partition .zero [day, logged, week] true
  obtain ⟨-, -, with_pages⟩ := burnWindows_partition (.of 30 .day) [day, logged, week] true
  obtain ⟨-, -, without⟩ := burnWindows_partition (.of 30 .day) [logged] true
  refine ⟨?_, no_time (List.cons_ne_nil _ _) rfl, ?_⟩
  · obtain ⟨table, made, built, -, -, about, -⟩ := with_pages (List.cons_ne_nil _ _) some_time
    obtain ⟨burn, rfl⟩ : ∃ burn, table = [(.page, burn)] := ⟨_, built⟩
    obtain ⟨-, windows⟩ := about .page burn List.mem_cons_self
    exact ⟨burn, made, windows⟩
  · obtain ⟨table, made, -, -, -, -, unknown⟩ := without (List.cons_ne_nil _ _) some_time
    have other_tag : logged.notification ≠ "page" ∧ logged.notification ≠ "ticket" := by decide
    exact unknown (List.forall_mem_singleton.2 other_tag) ▸ made

end ErrorBudget.Burn
