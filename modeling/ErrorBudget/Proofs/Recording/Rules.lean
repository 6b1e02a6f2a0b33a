/-
  ErrorBudget.Proofs.Recording.Rules

  The rules that record a window, by their names. Every name ends in the window,
  and it tells which kind of rule it is and, for ratios, for which boundary.
-/
import ErrorBudget.Recording

namespace ErrorBudget.Recording

/-! ## Kinds of rules -/

/-- The rules of a window by what they record. -/
theorem cases_of_mem_bucketRules {slo : Slo} {les : List String} {b : String}
    {r : RecordingRule} (h : r ∈ bucketRules slo les b) :
    r.record = "slo:service_traffic:ratio_rate_" ++ b ∨
    (r.record = "slo:service_errors_total:ratio_rate_" ++ b ∧ slo.errors.hasExpr = true ∧
      r.labels = baseLabels slo) ∨
    (∃ q ∈ quantiles, r.record = "slo:service_latency:" ++ q.1 ++ "_" ++ b) ∨
    (r.record = "slo:service_latency:ratio_rate_" ++ b ∧ slo.latency.hasExpr = true ∧
      ∃ le ∈ les, r.labels = (baseLabels slo).insert "le" le) := by
  simp only [bucketRules, List.mem_append] at h
  rcases h with ((h | h) | h) | h
  · rw [trafficRules] at h
    split at h
    · obtain rfl := List.mem_singleton.1 h
      exact .inl rfl
    · cases h
  · rw [errorRules] at h
    split at h
    · rename_i template
      obtain rfl := List.mem_singleton.1 h
      exact .inr (.inl ⟨rfl, template, rfl⟩)
    · cases h
  · rw [quantileRules] at h
    split at h
    · obtain ⟨q, hq, rfl⟩ := List.mem_map.1 h
      exact .inr (.inr (.inl ⟨q, hq, rfl⟩))
    · cases h
  · rw [latencyRules] at h
    split at h
    · rename_i template
      obtain ⟨le, hle, rfl⟩ := List.mem_map.1 h
      exact .inr (.inr (.inr ⟨rfl, template, le, hle, rfl⟩))
    · cases h

/-- Every record of a window has a name that ends in an underscore and the window. -/
theorem record_of_mem_bucketRules {slo : Slo} {les : List String} {b : String}
    {r : RecordingRule} (h : r ∈ bucketRules slo les b) :
    ∃ stem : String, r.record = stem ++ "_" ++ b := by
  rcases cases_of_mem_bucketRules h with record | ⟨record, -⟩ | ⟨q, -, record⟩ | ⟨record, -⟩
  · exact ⟨"slo:service_traffic:ratio_rate", record⟩
  · exact ⟨"slo:service_errors_total:ratio_rate", record⟩
  · exact ⟨"slo:service_latency:" ++ q.1, record⟩
  · exact ⟨"slo:service_latency:ratio_rate", record⟩

/-! ## Rules of ratios -/

/-- Only the rule for errors has the name of a ratio of errors, and its window is told
    by the name. -/
theorem of_record_errors {slo : Slo} {les : List String} {b w : String} {r : RecordingRule}
    (h : r ∈ bucketRules slo les b)
    (named : r.record = "slo:service_errors_total:ratio_rate_" ++ w) :
    (slo.errors.hasExpr = true ∧ b = w) ∧ r.labels = baseLabels slo := by
  -- of the four kinds of rules, three have names that part from this one at a letter
  rcases cases_of_mem_bucketRules h with record | ⟨record, template, labels⟩ |
    ⟨q, -, record⟩ | ⟨record, -⟩
  · rw [record, ← String.toList_inj] at named
    simp [String.toList_append] at named
  · -- the names agree up to the window, so the windows are the same
    rw [record, ← String.toList_inj, String.toList_append, String.toList_append,
      List.append_cancel_left_eq, String.toList_inj] at named
    exact ⟨⟨template, named⟩, labels⟩
  · rw [record, ← String.toList_inj] at named
    simp [String.toList_append] at named
  · rw [record, ← String.toList_inj] at named
    simp [String.toList_append] at named

/-- Only the rules for boundaries have the name of a ratio of fast requests. -/
theorem of_record_latency {slo : Slo} {les : List String} {b w : String} {r : RecordingRule}
    (h : r ∈ bucketRules slo les b)
    (named : r.record = "slo:service_latency:ratio_rate_" ++ w) :
    (slo.latency.hasExpr = true ∧ b = w) ∧
      ∃ le ∈ les, r.labels = (baseLabels slo).insert "le" le := by
  rcases cases_of_mem_bucketRules h with record | ⟨record, -⟩ | ⟨q, hq, record⟩ |
    ⟨record, template, labels⟩
  · rw [record, ← String.toList_inj] at named
    simp [String.toList_append] at named
  · rw [record, ← String.toList_inj] at named
    simp [String.toList_append] at named
  · -- the parts for quantiles start with another letter than the one for ratios
    rw [record, ← String.toList_inj] at named
    simp only [quantiles, List.mem_cons, List.not_mem_nil, or_false] at hq
    rcases hq with rfl | rfl | rfl
    · simp [String.toList_append] at named
    · simp [String.toList_append] at named
    · simp [String.toList_append] at named
  · rw [record, ← String.toList_inj, String.toList_append, String.toList_append,
      List.append_cancel_left_eq, String.toList_inj] at named
    exact ⟨⟨template, named⟩, labels⟩

/-- With a template there is a rule for errors over every window. -/
theorem exists_record_errors {slo : Slo} (template : slo.errors.hasExpr = true)
    (les : List String) (w : String) :
    ∃ r ∈ bucketRules slo les w, r.record = "slo:service_errors_total:ratio_rate_" ++ w ∧
      r.labels = baseLabels slo := by
  refine ⟨⟨"slo:service_errors_total:ratio_rate_" ++ w,
    Template.render slo.errors.expr { window := some w }, baseLabels slo⟩, ?_, rfl, rfl⟩
  have made := List.mem_singleton_self (RecordingRule.mk
    ("slo:service_errors_total:ratio_rate_" ++ w)
    (Template.render slo.errors.expr { window := some w }) (baseLabels slo))
  rw [bucketRules, errorRules, if_pos template]
  exact List.mem_append_left _ (List.mem_append_left _ (List.mem_append_right _ made))

/-- With a template there is a rule for every boundary over every window. -/
theorem exists_record_latency {slo : Slo} (template : slo.latency.hasExpr = true)
    {les : List String} {le : String} (hle : le ∈ les) (w : String) :
    ∃ r ∈ bucketRules slo les w, r.record = "slo:service_latency:ratio_rate_" ++ w ∧
      r.labels = (baseLabels slo).insert "le" le := by
  refine ⟨⟨"slo:service_latency:ratio_rate_" ++ w,
    Template.render slo.latency.expr { window := some w, le := some le },
    (baseLabels slo).insert "le" le⟩, ?_, rfl, rfl⟩
  rw [bucketRules, latencyRules, if_pos template]
  exact List.mem_append_right _ (List.mem_map.2 ⟨le, hle, rfl⟩)

/-! ## Plain rules and rules of boundaries -/

/-- What the names of plain rules, those that are not about boundaries, start with. -/
def plainStems : List String :=
  ["slo:service_traffic:ratio_rate_", "slo:service_errors_total:ratio_rate_",
    "slo:service_latency:p50_", "slo:service_latency:p95_", "slo:service_latency:p99_"]

/-- The rules of a window that are not about boundaries. -/
def plainRules (slo : Slo) (bucket : String) : List RecordingRule :=
  trafficRules slo bucket ++ errorRules slo bucket ++ quantileRules slo bucket

/-- The rule that records the ratio of requests within one boundary over a window. -/
def boundaryRule (slo : Slo) (bucket le : String) : RecordingRule :=
  ⟨"slo:service_latency:ratio_rate_" ++ bucket,
    Template.render slo.latency.expr { window := some bucket, le := some le },
    (baseLabels slo).insert "le" le⟩

theorem bucketRules_eq (slo : Slo) (les : List String) (bucket : String) :
    bucketRules slo les bucket = plainRules slo bucket ++
      if slo.latency.hasExpr then les.map (boundaryRule slo bucket) else [] :=
  rfl

/-- The plain rules of a window are named by the stems, each by another one. -/
theorem plainRules_records (slo : Slo) (bucket : String) :
    ((plainRules slo bucket).map RecordingRule.record).Sublist
      (plainStems.map fun stem => stem ++ bucket) := by
  have traffic : ((trafficRules slo bucket).map RecordingRule.record).Sublist
      ["slo:service_traffic:ratio_rate_" ++ bucket] := by
    rw [trafficRules]
    split
    · exact List.Sublist.refl _
    · exact List.nil_sublist _
  have errors : ((errorRules slo bucket).map RecordingRule.record).Sublist
      ["slo:service_errors_total:ratio_rate_" ++ bucket] := by
    rw [errorRules]
    split
    · exact List.Sublist.refl _
    · exact List.nil_sublist _
  have quantile : ((quantileRules slo bucket).map RecordingRule.record).Sublist
      ["slo:service_latency:p50_" ++ bucket, "slo:service_latency:p95_" ++ bucket,
        "slo:service_latency:p99_" ++ bucket] := by
    rw [quantileRules]
    split
    · exact List.Sublist.refl _
    · exact List.nil_sublist _
  rw [plainRules, List.map_append, List.map_append]
  exact (traffic.append errors).append quantile

theorem labels_of_mem_plainRules {slo : Slo} {bucket : String} {r : RecordingRule}
    (h : r ∈ plainRules slo bucket) : r.labels = baseLabels slo := by
  simp only [plainRules, trafficRules, errorRules, quantileRules, List.mem_append] at h
  rcases h with (h | h) | h
  · split at h
    · exact congrArg RecordingRule.labels (List.mem_singleton.1 h)
    · cases h
  · split at h
    · exact congrArg RecordingRule.labels (List.mem_singleton.1 h)
    · cases h
  · split at h
    · obtain ⟨q, -, rfl⟩ := List.mem_map.1 h
      rfl
    · cases h

/-- The name of a plain rule is made of one of the stems and the window. -/
theorem record_of_mem_plainRules {slo : Slo} {bucket : String} {r : RecordingRule}
    (h : r ∈ plainRules slo bucket) :
    ∃ stem ∈ plainStems, r.record = stem ++ bucket := by
  obtain ⟨stem, listed, named⟩ :=
    List.mem_map.1 ((plainRules_records slo bucket).subset (List.mem_map_of_mem h))
  exact ⟨stem, listed, named.symm⟩

end ErrorBudget.Recording
