/-
  ErrorBudget.Proofs.Recording.Distinct

  No two recording rules of a service write the same series, unless the boundaries at
  which latency is recorded repeat one. Rules over different windows differ in what
  stands after the last underscore of their names, plain rules of one window in what
  stands before, and the rules of boundaries in the label that is set last.
-/
import Mathlib.Data.List.Duplicate
import ErrorBudget.Proofs.Generation.Parts
import ErrorBudget.Proofs.Tickets.Projection

namespace ErrorBudget

/-- Two rules write the same series if they have the same name and the same labels. -/
def RecordingRule.SameSeries (r s : RecordingRule) : Prop :=
  r.record = s.record ∧ r.labels = s.labels

namespace SloRules

/-- All recording rules of a service, in the order in which they stand in its groups. -/
def recordingRules (rules : SloRules) : List RecordingRule :=
  rules.groups.flatMap RecordingGroup.rules

/-- No two recording rules write the same series. -/
def Distinct (rules : SloRules) : Prop :=
  rules.recordingRules.Pairwise fun r s => ¬ r.SameSeries s

end SloRules

namespace Recording

/-! ## Rules of all groups -/

/-- The windows over which the ratios of a service are recorded. -/
def keptWindows (disableTicket : Bool) : List String :=
  Schedule.buckets.filter fun b => !(disableTicket && Schedule.isTicketOnly b)

theorem mem_keptWindows_five_minutes (disableTicket : Bool) :
    "5m" ∈ keptWindows disableTicket := by
  cases disableTicket <;> decide

/-- The rules of all groups are the rules of all windows that are kept; a group that is
    dropped has none. -/
theorem flatMap_groups (slo : Slo) (o : Objectives) (disableTicket : Bool) :
    (groups slo o disableTicket).flatMap RecordingGroup.rules =
      (keptWindows disableTicket).flatMap (bucketRules slo (boundaries slo o)) := by
  have each (sample : Sample) :
      (group? slo o disableTicket sample).toList.flatMap RecordingGroup.rules =
        (keptBuckets sample disableTicket).flatMap (bucketRules slo (boundaries slo o)) := by
    rw [group?]
    split
    · rename_i no_rules
      exact (List.isEmpty_iff.1 no_rules).symm
    · exact List.flatMap_singleton _ _
  rw [groups, List.filterMap_eq_flatMap_toList, List.flatMap_assoc,
    List.flatMap_congr fun sample _ => each sample, keptWindows, Schedule.buckets,
    List.filter_flatMap, List.flatMap_assoc]
  rfl

/-! ## Rules over different windows -/

/-- The name of a rule tells its window. -/
theorem bucket_eq_of_record_eq {slo : Slo} {les : List String} {b c : String}
    (hb : b ∈ Schedule.buckets) (hc : c ∈ Schedule.buckets) {r s : RecordingRule}
    (hr : r ∈ bucketRules slo les b) (hs : s ∈ bucketRules slo les c)
    (same : r.record = s.record) : b = c := by
  obtain ⟨before, hr⟩ := record_of_mem_bucketRules hr
  obtain ⟨before', hs⟩ := record_of_mem_bucketRules hs
  rw [hr, hs, ← String.toList_inj, String.append_assoc, String.append_assoc,
    String.toList_append, String.toList_append, String.toList_append, String.toList_append]
    at same
  have ends : '_' :: b.toList <:+ before'.toList ++ '_' :: c.toList :=
    ⟨before.toList, same⟩
  exact String.toList_inj.1 ((suffix_underscore_iff (underscore_notMem_bucket b hb)
    (underscore_notMem_bucket c hc)).1 ends)

/-! ## Rules over one window -/

theorem sameSeries_boundaryRule_iff (slo : Slo) (b le le' : String) :
    (boundaryRule slo b le).SameSeries (boundaryRule slo b le') ↔ le = le' := by
  refine ⟨fun same => ?_, fun same => same ▸ ⟨rfl, rfl⟩⟩
  have label : ((baseLabels slo).insert "le" le).get? "le" =
      ((baseLabels slo).insert "le" le').get? "le" := congrArg (KeyMap.get? · "le") same.2
  rw [KeyMap.get?_insert, KeyMap.get?_insert, if_pos rfl, if_pos rfl] at label
  exact Option.some.inj label

theorem pairwise_plainRules (slo : Slo) (b : String) :
    (plainRules slo b).Pairwise fun r s => ¬ r.SameSeries s := by
  have stems : plainStems.Nodup := by decide
  have names : (plainStems.map fun stem => stem ++ b).Nodup :=
    stems.map fun _ _ same => (String.append_left_inj b).1 same
  have each := List.pairwise_map.1 ((plainRules_records slo b).nodup names)
  exact each.imp fun differ same => differ same.1

/-- A plain rule and the rule of a boundary have different names. -/
theorem not_sameSeries_boundaryRule {slo : Slo} {b le : String} {r : RecordingRule}
    (h : r ∈ plainRules slo b) : ¬ r.SameSeries (boundaryRule slo b le) := by
  rintro ⟨same, -⟩
  obtain ⟨stem, listed, named⟩ := record_of_mem_plainRules h
  have no_plain_stem : "slo:service_latency:ratio_rate_" ∉ plainStems := by decide
  have stem_eq : stem = "slo:service_latency:ratio_rate_" :=
    (String.append_left_inj b).1 (named.symm.trans same)
  exact no_plain_stem (stem_eq ▸ listed)

/-- Two rules that a window has twice because its boundaries repeat one. -/
def Repeated (slo : Slo) (les : List String) (b : String) (r s : RecordingRule) : Prop :=
  slo.latency.hasExpr = true ∧
    ∃ le, List.Duplicate le les ∧ r = boundaryRule slo b le ∧ s = boundaryRule slo b le

theorem pairwise_bucketRules (slo : Slo) (les : List String) (b : String) :
    (bucketRules slo les b).Pairwise fun r s => r.SameSeries s → Repeated slo les b r s := by
  rw [bucketRules_eq, List.pairwise_append]
  refine ⟨(pairwise_plainRules slo b).imp fun differ same => absurd same differ, ?_, ?_⟩
  · split
    · rename_i template
      -- equal boundaries at two places of the list are a repeated one
      rw [List.pairwise_map, List.pairwise_iff_forall_sublist]
      intro le le' listed same
      obtain rfl := (sameSeries_boundaryRule_iff slo b le le').1 same
      exact ⟨template, le, List.duplicate_iff_sublist.2 listed, rfl, rfl⟩
    · exact .nil
  · intro r hr s hs same
    split at hs
    · obtain ⟨le, -, rfl⟩ := List.mem_map.1 hs
      exact absurd same (not_sameSeries_boundaryRule hr)
    · cases hs

/-! ## All rules -/

/-- Two rules of a service write the same series only if both are the rule of a boundary
    that is repeated. -/
theorem pairwise_groups (slo : Slo) (o : Objectives) (disableTicket : Bool) :
    ((groups slo o disableTicket).flatMap RecordingGroup.rules).Pairwise fun r s =>
      r.SameSeries s → ∃ b ∈ keptWindows disableTicket,
        Repeated slo (boundaries slo o) b r s := by
  rw [flatMap_groups, List.pairwise_flatMap]
  refine ⟨fun b hb => (pairwise_bucketRules slo _ b).imp fun repeats same =>
    ⟨b, hb, repeats same⟩, ?_⟩
  have windows : (keptWindows disableTicket).Nodup :=
    List.Nodup.filter _ (by decide : Schedule.buckets.Nodup)
  refine windows.pairwise_of_forall_ne fun b hb c hc differ r hr s hs same => ?_
  exact absurd (bucket_eq_of_record_eq (List.mem_filter.1 hb).1 (List.mem_filter.1 hc).1 hr hs
    same.1) differ

/-- The rules of a service write different series exactly if no boundary is repeated or
    latency is not recorded. -/
theorem pairwise_groups_iff (slo : Slo) (o : Objectives) (disableTicket : Bool) :
    ((groups slo o disableTicket).flatMap RecordingGroup.rules).Pairwise
        (fun r s => ¬ r.SameSeries s) ↔
      (slo.latency.hasExpr = true → (boundaries slo o).Nodup) := by
  constructor
  · intro differ template
    rw [flatMap_groups] at differ
    -- the rules of boundaries over one window are enough to tell
    have window := (List.pairwise_flatMap.1 differ).1 "5m"
      (mem_keptWindows_five_minutes disableTicket)
    rw [bucketRules_eq, if_pos template] at window
    have each := List.pairwise_map.1 (List.pairwise_append.1 window).2.1
    exact each.imp fun other same => other ((sameSeries_boundaryRule_iff slo "5m" _ _).2 same)
  · intro nodup
    refine (pairwise_groups slo o disableTicket).imp fun repeats same => ?_
    obtain ⟨-, -, template, le, twice, -⟩ := repeats same
    exact List.nodup_iff_forall_not_duplicate.1 (nodup template) le twice

end Recording

namespace Generator

/-- Whatever methods there are, with tickets or without: no two recording rules of a
    service write the same series, but for the rules of a boundary that is repeated; so all
    are distinct exactly if no boundary is repeated or latency is not recorded. -/
theorem recording_rules_distinct {g : Generator} {slo : Slo} {classes : ClassTable}
    {rules : SloRules} (h : g.generate slo classes = .ok rules) :
    ∃ o, slo.applicable? classes = some o ∧
      (rules.recordingRules.Pairwise fun r s => r.SameSeries s →
        ∃ b ∈ Recording.keptWindows g.disableTicket,
          Recording.Repeated slo (Recording.boundaries slo o) b r s) ∧
      (rules.Distinct ↔
        (slo.latency.hasExpr = true → (Recording.boundaries slo o).Nodup)) := by
  obtain ⟨o, methods, errors, latency, built⟩ := exists_builds h
  refine ⟨o, built.applies, ?_, ?_⟩
  · rw [SloRules.recordingRules, built.groups]
    exact Recording.pairwise_groups slo o g.disableTicket
  · rw [SloRules.Distinct, SloRules.recordingRules, built.groups]
    exact Recording.pairwise_groups_iff slo o g.disableTicket

/-- A service without alerts whose latency is recorded for its targets. -/
def recordedTargets (targets : List LatencyTarget) : Slo :=
  { name := "checkout"
    objectives := { availability := 99.9, latency := targets }
    latency := { expr := "job:latency:ratio" } }

theorem acceptable_recordedTargets {targets : List LatencyTarget}
    (h : ∀ t ∈ targets, IsVisible t.le ∧ IsShare t.target) :
    (recordedTargets targets).Acceptable (recordedTargets targets).objectives where
  availability := (by decide : IsShare 99.9)
  targets := h
  windows := by simp [recordedTargets]
  methods := by simp [recordedTargets]
  errors := ⟨fun simple => by simp [recordedTargets] at simple,
    fun multi => by simp [recordedTargets] at multi⟩
  latency := fun _ => ⟨fun simple => by simp [recordedTargets] at simple,
    fun multi => by simp [recordedTargets] at multi⟩

/-- Two targets with boundaries of their own. -/
theorem recording_rules_distinct_targets :
    let slo := recordedTargets [⟨"0.1", 95.0⟩, ⟨"0.5", 99.0⟩]
    ∃ rules, generate ⟨.builtin, true⟩ slo KeyMap.empty = .ok rules ∧ rules.Distinct := by
  intro slo
  have applies : slo.applicable? KeyMap.empty = some slo.objectives := rfl
  have targets : ∀ t ∈ slo.objectives.latency, IsVisible t.le ∧ IsShare t.target :=
    List.forall_mem_cons.2 ⟨⟨⟨'0', by simp, rfl⟩, by decide⟩,
      List.forall_mem_singleton.2 ⟨⟨'0', by simp, rfl⟩, by decide⟩⟩
  obtain ⟨rules, made⟩ := exists_rules applies (acceptable_recordedTargets targets) true
  obtain ⟨o, found, -, distinct⟩ := recording_rules_distinct made
  obtain rfl : slo.objectives = o := Option.some.inj (applies.symm.trans found)
  exact ⟨rules, made, distinct.2 fun _ => (by decide : ["0.1", "0.5"].Nodup)⟩

/-- Two targets for one boundary are accepted, and their rules write the same series. -/
theorem repeated_target_not_distinct :
    let slo := recordedTargets [⟨"0.1", 95.0⟩, ⟨"0.1", 99.0⟩]
    ∀ disableTicket, ∃ rules,
      generate ⟨.builtin, disableTicket⟩ slo KeyMap.empty = .ok rules ∧ ¬ rules.Distinct := by
  intro slo disableTicket
  have applies : slo.applicable? KeyMap.empty = some slo.objectives := rfl
  have targets : ∀ t ∈ slo.objectives.latency, IsVisible t.le ∧ IsShare t.target :=
    List.forall_mem_cons.2 ⟨⟨⟨'0', by simp, rfl⟩, by decide⟩,
      List.forall_mem_singleton.2 ⟨⟨'0', by simp, rfl⟩, by decide⟩⟩
  obtain ⟨rules, made⟩ := exists_rules applies (acceptable_recordedTargets targets) disableTicket
  refine ⟨rules, made, fun distinct => ?_⟩
  rw [SloRules.Distinct, SloRules.recordingRules, groups_eq applies made] at distinct
  have nodup := (Recording.pairwise_groups_iff slo slo.objectives disableTicket).1 distinct rfl
  exact absurd nodup (by decide : ¬ ["0.1", "0.1"].Nodup)

end Generator

end ErrorBudget
