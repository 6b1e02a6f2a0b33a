/-
  ErrorBudget.Proofs.RuleFile

  One file and manifests carry the same rules. Both have the parts of every service in the
  same order, its recording groups and then its alerts; the file has a group of alerts also
  for a service without any, and the manifests leave it out. So no rule is lost, listed
  twice, changed or moved in either form.
-/
import Mathlib.Data.List.Forall2
import ErrorBudget.RuleFile

namespace ErrorBudget

/-! ## Parts of services -/

/-- What a group is made of: rules that record, or the alerts of a service. -/
inductive GroupPart where
  | recording (g : RecordingGroup)
  | alerts (r : SloRules)

namespace GroupPart

/-- The group that is made of a part. -/
def group : GroupPart → RuleGroup
  | recording g => .ofRecording g
  | alerts r => .ofAlerts r

/-- Whether a part is for alerts, and there are none. -/
def isVacant : GroupPart → Bool
  | recording _ => false
  | alerts r => r.alerts.isEmpty

/-- A group of alerts that is left out holds no rules. -/
theorem rules_group_of_isVacant {p : GroupPart} (h : p.isVacant = true) : p.group.rules = [] := by
  cases p with
  | recording g => cases h
  | alerts r =>
    have no_alerts : r.alerts = [] := List.isEmpty_iff.1 h
    rw [group, RuleGroup.ofAlerts, no_alerts, List.map_nil]

end GroupPart

namespace SloRules

/-- The parts that the rules of a service come in, the alerts last. -/
def parts (r : SloRules) : List GroupPart :=
  r.groups.map .recording ++ [.alerts r]

/-- All rules of a service: those that record, group by group, and then those that alert. -/
def grouped (r : SloRules) : List GroupedRule :=
  (r.groups.flatMap RecordingGroup.rules).map .recording ++ r.alerts.map .alert

/-- The manifests of a service: one for its recording groups, if it has any, and after that
    one for its alerts, if it has any, each with the given labels. -/
structure InManifests (labels : Labels) (r : SloRules) (ms : List Manifest) : Prop where
  names : (ms.map Manifest.name).Sublist ["slis-" ++ r.slo, "slos-alerts-" ++ r.slo]
  recording_iff : "slis-" ++ r.slo ∈ ms.map Manifest.name ↔ r.groups ≠ []
  alerts_iff : "slos-alerts-" ++ r.slo ∈ ms.map Manifest.name ↔ r.alerts ≠ []
  labelled : ∀ m ∈ ms, m.labels = labels
  recording : ∀ m ∈ ms, m.name = "slis-" ++ r.slo → m.groups = r.groups.map .ofRecording
  alerts : ∀ m ∈ ms, m.name = "slos-alerts-" ++ r.slo → m.groups = [.ofAlerts r]

theorem map_group_parts (r : SloRules) : r.parts.map GroupPart.group = RuleFile.groupsOf r := by
  rw [parts, List.map_append, List.map_map]
  rfl

theorem rules_groupsOf (r : SloRules) :
    (RuleFile.groupsOf r).flatMap RuleGroup.rules = r.grouped := by
  have recording : (r.groups.map RuleGroup.ofRecording).flatMap RuleGroup.rules =
      (r.groups.flatMap RecordingGroup.rules).map GroupedRule.recording := by
    rw [List.flatMap_map, List.map_flatMap]
    rfl
  rw [RuleFile.groupsOf, List.flatMap_append, recording, List.flatMap_singleton]
  rfl

end SloRules

/-! ## Manifests of one service -/

namespace Manifest

/-- The two manifests of services have different names, whatever the services are called. -/
theorem recording_name_ne (service other : String) :
    "slis-" ++ service ≠ "slos-alerts-" ++ other := by
  intro same
  rw [← String.toList_inj, String.toList_append, String.toList_append] at same
  -- the third letters part
  have letter := congrArg (fun cs => cs[2]?) same
  simp at letter

/-- The groups of a service's manifests are its parts, but for alerts that there are none of. -/
theorem groups_ofSlo (labels : Labels) (r : SloRules) :
    (ofSlo labels r).flatMap groups =
      (r.parts.filter fun p => !p.isVacant).map GroupPart.group := by
  have recording : (if r.groups.isEmpty then []
      else [⟨"slis-" ++ r.slo, labels, r.groups.map .ofRecording⟩]).flatMap groups =
      ((r.groups.map GroupPart.recording).filter fun p => !p.isVacant).map GroupPart.group := by
    have all_stay : (r.groups.map GroupPart.recording).filter (fun p => !p.isVacant) =
        r.groups.map .recording :=
      List.filter_eq_self.2 (List.forall_mem_map.2 fun _ _ => rfl)
    rw [all_stay, List.map_map]
    cases r.groups with
    | nil => rfl
    | cons g gs => exact List.flatMap_singleton _ _
  have alerts : (if r.alerts.isEmpty then []
      else [⟨"slos-alerts-" ++ r.slo, labels, [.ofAlerts r]⟩]).flatMap groups =
      ([GroupPart.alerts r].filter fun p => !p.isVacant).map GroupPart.group := by
    rw [List.filter_singleton, GroupPart.isVacant]
    cases r.alerts.isEmpty with
    | true => rfl
    | false => rfl
  rw [ofSlo, List.flatMap_append, recording, alerts, SloRules.parts, List.filter_append,
    List.map_append]

theorem mem_ofSlo_iff {labels : Labels} {r : SloRules} {m : Manifest} :
    m ∈ ofSlo labels r ↔
      (r.groups ≠ [] ∧ m = ⟨"slis-" ++ r.slo, labels, r.groups.map .ofRecording⟩) ∨
      (r.alerts ≠ [] ∧ m = ⟨"slos-alerts-" ++ r.slo, labels, [.ofAlerts r]⟩) := by
  rw [ofSlo, List.mem_append]
  refine or_congr ?_ ?_
  · cases r.groups with
    | nil => simp
    | cons g gs => simp
  · cases r.alerts with
    | nil => simp
    | cons a as => simp

theorem names_ofSlo_sublist (labels : Labels) (r : SloRules) :
    ((ofSlo labels r).map name).Sublist ["slis-" ++ r.slo, "slos-alerts-" ++ r.slo] := by
  have at_most (none : Bool) (m : Manifest) :
      ((if none then [] else [m]).map name).Sublist [m.name] := by
    cases none with
    | true => exact List.nil_sublist _
    | false => exact List.Sublist.refl _
  rw [ofSlo, List.map_append]
  exact (at_most _ _).append (at_most _ _)

theorem inManifests_ofSlo (labels : Labels) (r : SloRules) :
    r.InManifests labels (ofSlo labels r) where
  names := names_ofSlo_sublist labels r
  recording_iff := by
    simp only [List.mem_map, mem_ofSlo_iff]
    constructor
    · rintro ⟨m, ⟨some_group, -⟩ | ⟨-, rfl⟩, named⟩
      · exact some_group
      · exact absurd named.symm (recording_name_ne r.slo r.slo)
    · exact fun some_group => ⟨_, .inl ⟨some_group, rfl⟩, rfl⟩
  alerts_iff := by
    simp only [List.mem_map, mem_ofSlo_iff]
    constructor
    · rintro ⟨m, ⟨-, rfl⟩ | ⟨some_alert, -⟩, named⟩
      · exact absurd named (recording_name_ne r.slo r.slo)
      · exact some_alert
    · exact fun some_alert => ⟨_, .inr ⟨some_alert, rfl⟩, rfl⟩
  labelled := by
    intro m hm
    rcases mem_ofSlo_iff.1 hm with ⟨-, rfl⟩ | ⟨-, rfl⟩
    · rfl
    · rfl
  recording := by
    intro m hm named
    rcases mem_ofSlo_iff.1 hm with ⟨-, rfl⟩ | ⟨-, rfl⟩
    · rfl
    · exact absurd named.symm (recording_name_ne r.slo r.slo)
  alerts := by
    intro m hm named
    rcases mem_ofSlo_iff.1 hm with ⟨-, rfl⟩ | ⟨-, rfl⟩
    · exact absurd named (recording_name_ne r.slo r.slo)
    · rfl

theorem groups_ne_nil_of_mem_ofSlo {labels : Labels} {r : SloRules} {m : Manifest}
    (h : m ∈ ofSlo labels r) : m.groups ≠ [] := by
  rcases mem_ofSlo_iff.1 h with ⟨some_group, rfl⟩ | ⟨-, rfl⟩
  · exact fun none => some_group (List.map_eq_nil_iff.1 none)
  · exact List.cons_ne_nil _ _

end Manifest

/-! ## Several services -/

namespace RuleFile

theorem groups_ofRules (rules : List SloRules) :
    (ofRules rules).groups = (rules.flatMap SloRules.parts).map GroupPart.group := by
  rw [List.map_flatMap]
  exact List.flatMap_congr fun r _ => r.map_group_parts.symm

theorem rules_ofRules (rules : List SloRules) :
    (ofRules rules).groups.flatMap RuleGroup.rules = rules.flatMap SloRules.grouped := by
  change (rules.flatMap groupsOf).flatMap RuleGroup.rules = _
  rw [List.flatMap_assoc]
  exact List.flatMap_congr fun r _ => r.rules_groupsOf

end RuleFile

namespace Manifest

theorem groups_ofRules (labels : Labels) (rules : List SloRules) :
    (ofRules labels rules).flatMap groups =
      ((rules.flatMap SloRules.parts).filter fun p => !p.isVacant).map GroupPart.group := by
  rw [ofRules, List.flatMap_assoc, List.filter_flatMap, List.map_flatMap]
  exact List.flatMap_congr fun r _ => groups_ofSlo labels r

/-- Parts that are left out hold nothing. -/
theorem rules_filter_isVacant (ps : List GroupPart) :
    ((ps.filter fun p => !p.isVacant).map GroupPart.group).flatMap RuleGroup.rules =
      (ps.map GroupPart.group).flatMap RuleGroup.rules := by
  induction ps with
  | nil => rfl
  | cons p ps ih =>
    rw [List.filter_cons, List.map_cons, List.flatMap_cons]
    cases vacant : p.isVacant with
    | true =>
      rw [GroupPart.rules_group_of_isVacant vacant, List.nil_append]
      exact ih
    | false => exact congrArg (p.group.rules ++ ·) ih

/-- Whatever the services and the labels are: the groups of all manifests, one after the
    other, are those of the file without the groups of alerts that are empty. Every
    manifest has a group and exactly the labels; a service's recording groups come before
    its alerts, each if there are any. The rules in either form are the rules of the
    services, in their order; and what is made of two lists of services is what is made of
    the first and then what is made of the second. -/
theorem formats_agree (labels : Labels) (rules : List SloRules) :
    (RuleFile.ofRules rules).groups = (rules.flatMap SloRules.parts).map GroupPart.group ∧
    (ofRules labels rules).flatMap groups =
      ((rules.flatMap SloRules.parts).filter fun p => !p.isVacant).map GroupPart.group ∧
    (∀ m ∈ ofRules labels rules, m.groups ≠ [] ∧ m.labels = labels) ∧
    (∃ mss, List.Forall₂ (SloRules.InManifests labels) rules mss ∧
      ofRules labels rules = mss.flatten) ∧
    (RuleFile.ofRules rules).groups.flatMap RuleGroup.rules = rules.flatMap SloRules.grouped ∧
    ((ofRules labels rules).flatMap groups).flatMap RuleGroup.rules =
      rules.flatMap SloRules.grouped ∧
    ∀ others : List SloRules,
      (RuleFile.ofRules (rules ++ others)).groups =
        (RuleFile.ofRules rules).groups ++ (RuleFile.ofRules others).groups ∧
      ofRules labels (rules ++ others) = ofRules labels rules ++ ofRules labels others := by
  refine ⟨RuleFile.groups_ofRules rules, groups_ofRules labels rules, fun m hm => ?_,
    ⟨rules.map (ofSlo labels), ?_, rfl⟩, RuleFile.rules_ofRules rules, ?_,
    fun others => ⟨List.flatMap_append, List.flatMap_append⟩⟩
  · obtain ⟨r, -, hm⟩ := List.mem_flatMap.1 hm
    exact ⟨groups_ne_nil_of_mem_ofSlo hm, (inManifests_ofSlo labels r).labelled m hm⟩
  · rw [List.forall₂_map_right_iff]
    exact List.forall₂_same.2 fun r _ => inManifests_ofSlo labels r
  · -- the two forms differ in groups that hold nothing
    rw [groups_ofRules, rules_filter_isVacant, ← RuleFile.groups_ofRules, RuleFile.rules_ofRules]

/-- A group without rules goes into the manifests if it is for recording, and does not if
    it is for alerts; the file has both. -/
theorem formats_agree_quiet :
    let noRules : RecordingGroup := ⟨"slo:search:short", .of 30 .second, []⟩
    let page : AlertRule :=
      ⟨"slo:checkout.errors.page", "up == 0", Duration.zero, KeyMap.empty, KeyMap.empty⟩
    let search : SloRules := ⟨"search", [noRules], []⟩
    let checkout : SloRules := ⟨"checkout", [], [page]⟩
    let labels : Labels := KeyMap.ofList [("team", "sre")]
    (RuleFile.ofRules [search, checkout]).groups =
      [.ofRecording noRules, ⟨"slo:search:alert", Duration.zero, []⟩, .ofAlerts checkout] ∧
    (ofRules labels [search, checkout]).flatMap groups =
      [.ofRecording noRules, .ofAlerts checkout] ∧
    ∀ m ∈ ofRules labels [search, checkout], m.groups ≠ [] ∧ m.labels = labels := by
  intro noRules page search checkout labels
  obtain ⟨file, manifests, each, -⟩ := formats_agree labels [search, checkout]
  exact ⟨file, manifests, each⟩

end Manifest

end ErrorBudget
