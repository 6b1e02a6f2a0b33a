/-
  ErrorBudget.Proofs.Recording.Complete

  The recording rules of a service form a table: every window that is recorded has a rule
  for everything that is recorded, and nothing else has one. The templates and boundaries
  decide what is recorded, the schedule over which windows. So the rules can be counted,
  and a group is left out exactly if there is no rule for it.
-/
import ErrorBudget.Proofs.Recording.Distinct

namespace ErrorBudget.Recording

/-! ## What is recorded -/

/-- What a rule records over its window. -/
inductive Subject where
  | traffic
  | errors
  | quantile (name : String) (share : Float)
  | within (le : String)

namespace Subject

/-- What is recorded for a service with some boundaries, in the order of its rules: all
    that there is a template for. -/
def listed (slo : Slo) (les : List String) : List Subject :=
  (if slo.traffic.expr = "" then [] else [traffic]) ++
    (if slo.errors.expr = "" then [] else [errors]) ++
    (if slo.quantiles.expr = "" then []
      else [quantile "p50" 0.5, quantile "p95" 0.95, quantile "p99" 0.99]) ++
    (if slo.latency.expr = "" then [] else les.map within)

/-- The rule that records a subject over a window. Its expression is the template of the
    subject, with the window and, where there is one, the quantile or the boundary put in. -/
def rule (slo : Slo) (w : String) : Subject → RecordingRule
  | traffic =>
    ⟨"slo:service_traffic:ratio_rate_" ++ w,
      Template.render slo.traffic.expr { window := some w }, baseLabels slo⟩
  | errors =>
    ⟨"slo:service_errors_total:ratio_rate_" ++ w,
      Template.render slo.errors.expr { window := some w }, baseLabels slo⟩
  | quantile name share =>
    ⟨"slo:service_latency:" ++ name ++ "_" ++ w,
      Template.render slo.quantiles.expr { window := some w, quantile := some share },
      baseLabels slo⟩
  | within le =>
    ⟨"slo:service_latency:ratio_rate_" ++ w,
      Template.render slo.latency.expr { window := some w, le := some le },
      (baseLabels slo).insert "le" le⟩

end Subject

theorem hasExpr_iff (i : Indicator) : i.hasExpr = true ↔ i.expr ≠ "" := by
  rw [Indicator.hasExpr, Bool.not_eq_true', ← Bool.not_eq_true, String.isEmpty_iff]

/-- What is made for a template, told by its text. -/
theorem ite_hasExpr (i : Indicator) (rules : List RecordingRule) :
    (if i.hasExpr then rules else []) = if i.expr = "" then [] else rules := by
  by_cases template : i.expr = ""
  · have absent : ¬ i.hasExpr = true := fun present => (hasExpr_iff i).1 present template
    rw [if_neg absent, if_pos template]
  · rw [if_pos ((hasExpr_iff i).2 template), if_neg template]

/-- The rules of a window are those of all that is recorded. -/
theorem bucketRules_eq_map (slo : Slo) (les : List String) (w : String) :
    bucketRules slo les w = (Subject.listed slo les).map (Subject.rule slo w) := by
  rw [bucketRules, trafficRules, errorRules, quantileRules, latencyRules]
  simp only [ite_hasExpr, Subject.listed, List.map_append, apply_ite (List.map _),
    List.map_nil, List.map_map]
  rfl

/-- How many rules there are over one window. -/
theorem length_listed (slo : Slo) (les : List String) :
    (Subject.listed slo les).length =
      (if slo.traffic.expr = "" then 0 else 1) + (if slo.errors.expr = "" then 0 else 1) +
        3 * (if slo.quantiles.expr = "" then 0 else 1) +
        les.length * (if slo.latency.expr = "" then 0 else 1) := by
  simp only [Subject.listed, List.length_append, apply_ite List.length, List.length_nil,
    List.length_map, List.length_cons, mul_ite, Nat.mul_zero, Nat.mul_one]

/-! ## Over which windows -/

/-- The windows that are recorded, shortest sample first; without tickets, those that only
    ticket alerts look at are left out. -/
def recordedWindows : Bool → List String
  | false => ["5m", "30m", "1h", "2h", "6h", "1d", "3d"]
  | true => ["5m", "30m", "1h", "6h"]

theorem keptWindows_eq (disableTicket : Bool) :
    keptWindows disableTicket = recordedWindows disableTicket := by
  cases disableTicket <;> decide

theorem keptBuckets_eq (disableTicket : Bool) :
    ∀ sample ∈ Schedule.samples, keptBuckets sample disableTicket =
      sample.buckets.filter fun w => w ∈ recordedWindows disableTicket := by
  cases disableTicket <;> decide

/-- Only without tickets a sample has no window left, and only the one of long windows. -/
theorem keptBuckets_eq_nil_iff (disableTicket : Bool) :
    ∀ sample ∈ Schedule.samples, keptBuckets sample disableTicket = [] ↔
      disableTicket = true ∧ sample.name = "daily" := by
  cases disableTicket <;> decide

/-! ## Groups -/

section

variable (slo : Slo) (o : Objectives) (disableTicket : Bool)

/-- The rules of one sample. -/
def sampleRules (sample : Sample) : List RecordingRule :=
  (keptBuckets sample disableTicket).flatMap fun w =>
    (Subject.listed slo (boundaries slo o)).map (Subject.rule slo w)

/-- The group of one sample, with or without rules. -/
def sampleGroup (sample : Sample) : RecordingGroup :=
  ⟨"slo:" ++ slo.name ++ ":" ++ sample.name, sample.interval,
    sampleRules slo o disableTicket sample⟩

/-- What becomes of one sample: its group, unless it has no rules. -/
theorem group?_eq (sample : Sample) :
    group? slo o disableTicket sample =
      if sampleRules slo o disableTicket sample = [] then none
      else some (sampleGroup slo o disableTicket sample) := by
  have rules : (keptBuckets sample disableTicket).flatMap (bucketRules slo (boundaries slo o)) =
      sampleRules slo o disableTicket sample :=
    List.flatMap_congr fun w _ => bucketRules_eq_map slo _ w
  rw [group?, rules]
  simp only [List.isEmpty_iff]
  rfl

/-- What becomes of any samples: the groups of those that have rules, in their order. -/
theorem filterMap_group? (samples : List Sample) :
    samples.filterMap (group? slo o disableTicket) =
      (samples.filter fun sample => sampleRules slo o disableTicket sample ≠ []).map
        (sampleGroup slo o disableTicket) := by
  induction samples with
  | nil => rfl
  | cons sample samples ih =>
    by_cases none_left : sampleRules slo o disableTicket sample = []
    · have dropped : group? slo o disableTicket sample = none := by
        rw [group?_eq, if_pos none_left]
      rw [List.filterMap_cons_none dropped, List.filter_cons_of_neg (by simpa using none_left), ih]
    · have made : group? slo o disableTicket sample =
          some (sampleGroup slo o disableTicket sample) := by
        rw [group?_eq, if_neg none_left]
      rw [List.filterMap_cons_some made, List.filter_cons_of_pos (by simpa using none_left),
        List.map_cons, ih]

theorem mem_groups_iff (group : RecordingGroup) :
    group ∈ groups slo o disableTicket ↔ ∃ sample ∈ Schedule.samples,
      sampleRules slo o disableTicket sample ≠ [] ∧
        group = sampleGroup slo o disableTicket sample := by
  rw [groups, filterMap_group?, List.mem_map]
  constructor
  · rintro ⟨sample, kept, rfl⟩
    obtain ⟨h, some_rule⟩ := List.mem_filter.1 kept
    exact ⟨sample, h, of_decide_eq_true some_rule, rfl⟩
  · rintro ⟨sample, h, some_rule, rfl⟩
    exact ⟨sample, List.mem_filter.2 ⟨h, decide_eq_true some_rule⟩, rfl⟩

/-- The names of groups tell the samples. -/
theorem sample_eq_of_name_eq {sample other : Sample} (h : sample ∈ Schedule.samples)
    (h' : other ∈ Schedule.samples)
    (same : "slo:" ++ slo.name ++ ":" ++ sample.name = "slo:" ++ slo.name ++ ":" ++ other.name) :
    sample = other := by
  have names : sample.name = other.name := (String.append_right_inj _).1 same
  have told : ∀ s ∈ Schedule.samples, ∀ t ∈ Schedule.samples, s.name = t.name → s = t := by
    decide
  exact told sample h other h' names

/-- A sample has a group exactly if it has rules. -/
theorem exists_group_iff {sample : Sample} (h : sample ∈ Schedule.samples) :
    (∃ group ∈ groups slo o disableTicket,
      group.name = "slo:" ++ slo.name ++ ":" ++ sample.name) ↔
      sampleRules slo o disableTicket sample ≠ [] := by
  constructor
  · rintro ⟨group, mem, named⟩
    obtain ⟨other, listed, some_rule, rfl⟩ := (mem_groups_iff slo o disableTicket group).1 mem
    obtain rfl := sample_eq_of_name_eq slo listed h named
    exact some_rule
  · intro some_rule
    exact ⟨_, (mem_groups_iff slo o disableTicket _).2 ⟨sample, h, some_rule, rfl⟩, rfl⟩

/-- A sample has no rules if nothing is recorded or none of its windows is. -/
theorem sampleRules_eq_nil_iff {sample : Sample} (h : sample ∈ Schedule.samples) :
    sampleRules slo o disableTicket sample = [] ↔
      Subject.listed slo (boundaries slo o) = [] ∨
        (disableTicket = true ∧ sample.name = "daily") := by
  rw [← keptBuckets_eq_nil_iff disableTicket sample h, sampleRules, List.flatMap_eq_nil_iff]
  simp only [List.map_eq_nil_iff]
  constructor
  · intro nothing
    by_cases window : keptBuckets sample disableTicket = []
    · exact .inr window
    · obtain ⟨w, kept⟩ := List.exists_mem_of_ne_nil _ window
      exact .inl (nothing w kept)
  · rintro (nothing | no_window) w kept
    · exact nothing
    · rw [no_window] at kept
      cases kept

end

/-! ## The table -/

theorem boundaries_eq (slo : Slo) (o : Objectives) :
    boundaries slo o =
      if slo.latency.buckets = [] then o.latency.map LatencyTarget.le
      else slo.latency.buckets := by
  rw [boundaries, Objectives.latencyBuckets]
  simp only [List.isEmpty_iff]

theorem flatMap_rules_groups (slo : Slo) (o : Objectives) (disableTicket : Bool) :
    (groups slo o disableTicket).flatMap RecordingGroup.rules =
      (recordedWindows disableTicket).flatMap fun w =>
        (Subject.listed slo (boundaries slo o)).map (Subject.rule slo w) := by
  rw [flatMap_groups, keptWindows_eq]
  exact List.flatMap_congr fun w _ => bucketRules_eq_map slo _ w

theorem length_flatMap_rules_groups (slo : Slo) (o : Objectives) (disableTicket : Bool) :
    ((groups slo o disableTicket).flatMap RecordingGroup.rules).length =
      (recordedWindows disableTicket).length *
        (Subject.listed slo (boundaries slo o)).length := by
  rw [flatMap_rules_groups, List.length_flatMap]
  simp only [List.length_map, List.map_const', List.sum_replicate, smul_eq_mul]

/-- All rules of a service are those of what is recorded, over the windows that are
    recorded, and nothing else. Each group holds those of its sample, in the order of the
    schedule; just the groups that would be empty are missing. The rules are counted by
    windows and by what is recorded over one. -/
theorem groups_complete (slo : Slo) (o : Objectives) (disableTicket : Bool) :
    let les := if slo.latency.buckets = [] then o.latency.map LatencyTarget.le
      else slo.latency.buckets
    let windows := recordedWindows disableTicket
    let rulesOver (w : String) := (Subject.listed slo les).map (Subject.rule slo w)
    let rulesOf (sample : Sample) :=
      (sample.buckets.filter fun w => w ∈ windows).flatMap rulesOver
    (groups slo o disableTicket).flatMap RecordingGroup.rules = windows.flatMap rulesOver ∧
    groups slo o disableTicket =
      (Schedule.samples.filter fun sample => rulesOf sample ≠ []).map (fun sample =>
        ⟨"slo:" ++ slo.name ++ ":" ++ sample.name, sample.interval, rulesOf sample⟩) ∧
    (∀ group ∈ groups slo o disableTicket, group.rules ≠ []) ∧
    (∀ sample ∈ Schedule.samples,
      ((∃ group ∈ groups slo o disableTicket,
        group.name = "slo:" ++ slo.name ++ ":" ++ sample.name) ↔ rulesOf sample ≠ []) ∧
      (rulesOf sample = [] ↔
        Subject.listed slo les = [] ∨ (disableTicket = true ∧ sample.name = "daily"))) ∧
    ∀ alerts, (SloRules.mk slo.name (groups slo o disableTicket) alerts).recordingRuleCount =
      windows.length *
        ((if slo.traffic.expr = "" then 0 else 1) + (if slo.errors.expr = "" then 0 else 1) +
          3 * (if slo.quantiles.expr = "" then 0 else 1) +
          les.length * (if slo.latency.expr = "" then 0 else 1)) := by
  intro les windows rulesOver rulesOf
  have les_eq : boundaries slo o = les := boundaries_eq slo o
  have rules_eq : ∀ sample ∈ Schedule.samples,
      sampleRules slo o disableTicket sample = rulesOf sample := by
    intro sample h
    rw [sampleRules, les_eq, keptBuckets_eq disableTicket sample h]
  refine ⟨?_, ?_, ?_, ?_, ?_⟩
  · rw [flatMap_rules_groups, les_eq]
  · rw [groups, filterMap_group?]
    have kept : (Schedule.samples.filter fun sample =>
        sampleRules slo o disableTicket sample ≠ []) =
        Schedule.samples.filter fun sample => rulesOf sample ≠ [] :=
      List.filter_congr fun sample h => by rw [rules_eq sample h]
    rw [kept]
    refine List.map_congr_left fun sample h => ?_
    rw [sampleGroup, rules_eq sample (List.mem_of_mem_filter h)]
  · intro group mem
    obtain ⟨sample, -, some_rule, rfl⟩ := (mem_groups_iff slo o disableTicket group).1 mem
    exact some_rule
  · intro sample h
    rw [exists_group_iff slo o disableTicket h, ← rules_eq sample h, ← les_eq]
    exact ⟨Iff.rfl, sampleRules_eq_nil_iff slo o disableTicket h⟩
  · intro alerts
    rw [SloRules.recordingRuleCount, length_flatMap_rules_groups, length_listed, les_eq]

/-- Without tickets, traffic and two boundaries: three rules over each of four windows, one
    of them in the middle sample and none in the last. -/
theorem groups_complete_without_tickets :
    let slo : Slo :=
      { name := "checkout", traffic := { expr := "job:requests:rate" },
        latency := { expr := "job:latency:ratio" } }
    let o : Objectives := { availability := 99.9, latency := [⟨"0.1", 95.0⟩, ⟨"0.5", 99.0⟩] }
    (∃ group ∈ groups slo o true, group.name = "slo:checkout:medium" ∧ group.rules ≠ []) ∧
    (¬ ∃ group ∈ groups slo o true, group.name = "slo:checkout:daily") ∧
    ∀ alerts, (SloRules.mk slo.name (groups slo o true) alerts).recordingRuleCount = 12 := by
  intro slo o
  obtain ⟨-, -, some_rule, each, counted⟩ := groups_complete slo o true
  obtain ⟨medium, medium_rules⟩ := each ⟨"medium", .of 2 .minute, ["2h", "6h"]⟩ (by decide)
  obtain ⟨daily, daily_rules⟩ := each ⟨"daily", .of 5 .minute, ["1d", "3d"]⟩ (by decide)
  refine ⟨?_, ?_, fun alerts => (counted alerts).trans rfl⟩
  · have recorded : ¬ (Subject.listed slo (o.latency.map LatencyTarget.le) = [] ∨
        (true = true ∧ "medium" = "daily")) := by
      rintro (nothing | ⟨-, same⟩)
      · cases nothing
      · exact absurd same (by decide)
    obtain ⟨group, mem, named⟩ := medium.2 fun no_rules => recorded (medium_rules.1 no_rules)
    exact ⟨group, mem, named, some_rule group mem⟩
  · intro present
    exact daily.1 present (daily_rules.2 (.inr ⟨rfl, rfl⟩))

end ErrorBudget.Recording
