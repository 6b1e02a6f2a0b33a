/-
  ErrorBudget.Proofs.Recording

  Which series the rules of a service record. The ratio of failed requests and the
  ratios of fast ones are recorded for all windows of the schedule if there are
  templates for them; turning tickets off drops the long windows.
-/
import ErrorBudget.Proofs.Alerting
import ErrorBudget.Proofs.Recording.Rules

namespace ErrorBudget

open Query (Series)

/-- A series is recorded under its name, and with its boundary if it has one. -/
def Recorded (groups : List RecordingGroup) (s : Series) : Prop :=
  ∃ g ∈ groups, ∃ r ∈ g.rules, r.record = s.name ∧
    ∀ le, ("le", le) ∈ s.matchers → r.labels.get? "le" = some le

namespace Recording

/-- The rules of all groups are the rules of the windows that are kept. -/
theorem exists_mem_groups_iff (slo : Slo) (o : Objectives) (disableTicket : Bool)
    (p : RecordingRule → Prop) :
    (∃ g ∈ groups slo o disableTicket, ∃ r ∈ g.rules, p r) ↔
      ∃ b ∈ Schedule.buckets, (disableTicket && Schedule.isTicketOnly b) = false ∧
        ∃ r ∈ bucketRules slo (boundaries slo o) b, p r := by
  constructor
  · rintro ⟨g, hg, r, hr, holds⟩
    obtain ⟨sample, listed, made⟩ := List.mem_filterMap.1 hg
    rw [group?] at made
    split at made
    · cases made
    · obtain rfl := Option.some.inj made
      obtain ⟨b, kept, hr⟩ := List.mem_flatMap.1 hr
      obtain ⟨hb, stays⟩ := List.mem_filter.1 kept
      rw [Bool.not_eq_true'] at stays
      exact ⟨b, List.mem_flatMap.2 ⟨sample, listed, hb⟩, stays, r, hr, holds⟩
  · rintro ⟨b, hb, stays, r, hr, holds⟩
    obtain ⟨sample, listed, hb⟩ := List.mem_flatMap.1 hb
    -- with this rule in it, the group of its sample is not empty and not dropped
    have kept : b ∈ keptBuckets sample disableTicket :=
      List.mem_filter.2 ⟨hb, by rw [stays]; rfl⟩
    have recorded : r ∈ (keptBuckets sample disableTicket).flatMap
        (bucketRules slo (boundaries slo o)) := List.mem_flatMap.2 ⟨b, kept, hr⟩
    have some_rule : ((keptBuckets sample disableTicket).flatMap
        (bucketRules slo (boundaries slo o))).isEmpty ≠ true :=
      fun none_left => List.ne_nil_of_mem recorded (List.isEmpty_iff.1 none_left)
    have made : group? slo o disableTicket sample = some _ := if_neg some_rule
    exact ⟨_, List.mem_filterMap.2 ⟨sample, listed, made⟩, r, recorded, holds⟩

/-- Ratios of errors are recorded if there is a template, for all windows that are kept,
    with the labels that every rule has. -/
theorem exists_errorRule_iff (slo : Slo) (o : Objectives) (disableTicket : Bool) (w : String)
    (p : Labels → Prop) :
    (∃ g ∈ groups slo o disableTicket, ∃ r ∈ g.rules,
      r.record = "slo:service_errors_total:ratio_rate_" ++ w ∧ p r.labels) ↔
      (slo.errors.hasExpr = true ∧ p (baseLabels slo)) ∧ w ∈ Schedule.buckets ∧
        (disableTicket && Schedule.isTicketOnly w) = false := by
  rw [exists_mem_groups_iff slo o disableTicket fun r => r.record = _ ∧ p r.labels]
  constructor
  · rintro ⟨b, hb, stays, r, hr, named, holds⟩
    obtain ⟨⟨template, rfl⟩, labels⟩ := of_record_errors hr named
    exact ⟨⟨template, labels ▸ holds⟩, hb, stays⟩
  · rintro ⟨⟨template, holds⟩, hw, stays⟩
    obtain ⟨r, hr, named, labels⟩ := exists_record_errors template (boundaries slo o) w
    exact ⟨w, hw, stays, r, hr, named, labels ▸ holds⟩

/-- Ratios of fast requests are recorded if there is a template, for all windows that are
    kept and all boundaries, with the boundary as a label. -/
theorem exists_latencyRule_iff (slo : Slo) (o : Objectives) (disableTicket : Bool) (w : String)
    (p : Labels → Prop) :
    (∃ g ∈ groups slo o disableTicket, ∃ r ∈ g.rules,
      r.record = "slo:service_latency:ratio_rate_" ++ w ∧ p r.labels) ↔
      (slo.latency.hasExpr = true ∧ ∃ le ∈ boundaries slo o, p ((baseLabels slo).insert "le" le)) ∧
        w ∈ Schedule.buckets ∧ (disableTicket && Schedule.isTicketOnly w) = false := by
  rw [exists_mem_groups_iff slo o disableTicket fun r => r.record = _ ∧ p r.labels]
  constructor
  · rintro ⟨b, hb, stays, r, hr, named, holds⟩
    obtain ⟨⟨template, rfl⟩, le, hle, labels⟩ := of_record_latency hr named
    exact ⟨⟨template, le, hle, labels ▸ holds⟩, hb, stays⟩
  · rintro ⟨⟨template, le, hle, holds⟩, hw, stays⟩
    obtain ⟨r, hr, named, labels⟩ := exists_record_latency template hle w
    exact ⟨w, hw, stays, r, hr, named, labels ▸ holds⟩

/-! ## Recorded series -/

/-- Ratios of errors are recorded if there is a template, for all windows that are kept. -/
theorem recorded_errorSeries (slo : Slo) (o : Objectives) (disableTicket : Bool)
    (service w : String) :
    Recorded (groups slo o disableTicket) (errorSeries service w) ↔
      slo.errors.hasExpr = true ∧ w ∈ Schedule.buckets ∧
        (disableTicket && Schedule.isTicketOnly w) = false := by
  -- a ratio of errors has no boundary to agree on
  have no_boundary (le : String) : ("le", le) ∉ [("service", service)] := by simp
  refine (exists_errorRule_iff slo o disableTicket w fun labels =>
    ∀ le, ("le", le) ∈ [("service", service)] → labels.get? "le" = some le).trans ?_
  rw [and_iff_left fun le listed => absurd listed (no_boundary le)]

/-- Ratios of fast requests are recorded if there is a template, for all boundaries and
    all windows that are kept. -/
theorem recorded_latencySeries (slo : Slo) (o : Objectives) (disableTicket : Bool)
    (service le w : String) :
    Recorded (groups slo o disableTicket) (latencySeries service le w) ↔
      (slo.latency.hasExpr = true ∧ le ∈ boundaries slo o) ∧ w ∈ Schedule.buckets ∧
        (disableTicket && Schedule.isTicketOnly w) = false := by
  have boundary (le' : String) : ((baseLabels slo).insert "le" le').get? "le" = some le' := by
    rw [KeyMap.get?_insert, if_pos rfl]
  have listed (le' : String) :
      ("le", le') ∈ [("le", le), ("service", service)] ↔ le' = le := by simp
  refine (exists_latencyRule_iff slo o disableTicket w fun labels =>
    ∀ le', ("le", le') ∈ [("le", le), ("service", service)] →
      labels.get? "le" = some le').trans ?_
  simp only [listed, forall_eq, boundary, Option.some_inj, exists_eq_right]

end Recording

end ErrorBudget
