/-
  ErrorBudget.Proofs.RuleFile.Names

  Names of groups, manifests and alerts. Each is made of the name of its service by putting
  something before and after it, and what stands there parts names of different services,
  whatever the services are called. So in the output of an accepted document no name comes
  twice.
-/
import ErrorBudget.Proofs.Alerting.Shape
import ErrorBudget.Proofs.Document
import ErrorBudget.Proofs.RuleFile

namespace ErrorBudget

/-! ## Names that tell their service -/

/-- If none of some endings ends in another, an ending can be told from what stands before it. -/
theorem append_inj_of_apart {endings : List String}
    (apart : ∀ e ∈ endings, ∀ f ∈ endings, e.toList <:+ f.toList → e = f) {s t e f : String}
    (he : e ∈ endings) (hf : f ∈ endings) (h : s ++ e = t ++ f) : s = t ∧ e = f := by
  have letters : s.toList ++ e.toList = t.toList ++ f.toList := by
    rw [← String.toList_append, ← String.toList_append, h]
  have same : e = f := by
    rcases List.suffix_or_suffix_of_suffix (List.suffix_append s.toList e.toList)
      (letters ▸ List.suffix_append t.toList f.toList) with ends | ends
    · exact apart e he f hf ends
    · exact (apart f hf e he ends).symm
  rw [same, List.append_left_inj, String.toList_inj] at letters
  exact ⟨letters, same⟩

/-- The names of several services are distinct if those of each are and every name tells
    its service. -/
theorem nodup_flatMap_names {names : String → List String} {services : List String}
    (h : services.Nodup) (each : ∀ s, (names s).Nodup)
    (told : ∀ s t n, n ∈ names s → n ∈ names t → s = t) : (services.flatMap names).Nodup := by
  rw [List.nodup_flatMap]
  refine ⟨fun s _ => each s, List.Pairwise.imp ?_ h⟩
  intro s t different n hs ht
  exact different (told s t n hs ht)

/-- Names with one beginning and several endings, none of which ends in another. -/
theorem nodup_flatMap_endings (beginning : String) {endings services : List String}
    (apart : ∀ e ∈ endings, ∀ f ∈ endings, e.toList <:+ f.toList → e = f)
    (distinct : endings.Nodup) (h : services.Nodup) :
    (services.flatMap fun s => endings.map fun e => beginning ++ s ++ e).Nodup := by
  refine nodup_flatMap_names h (fun s => ?_) fun s t n hs ht => ?_
  · exact distinct.map fun _ _ same => (String.append_right_inj _).1 same
  · obtain ⟨e, he, rfl⟩ := List.mem_map.1 hs
    obtain ⟨f, hf, same⟩ := List.mem_map.1 ht
    exact ((String.append_right_inj _).1 (append_inj_of_apart apart hf he same).1).symm

/-- What is picked from a list has some of the names of the list, in their order. -/
theorem map_filterMap_sublist {α β : Type} {pick : α → Option β} {name : β → String}
    {listed : α → String} {l : List α}
    (h : ∀ a ∈ l, ∀ b, pick a = some b → name b = listed a) :
    ((l.filterMap pick).map name).Sublist (l.map listed) := by
  induction l with
  | nil => exact List.Sublist.slnil
  | cons a l ih =>
    obtain ⟨first, others⟩ := List.forall_mem_cons.1 h
    cases picked : pick a with
    | none =>
      rw [List.filterMap_cons_none picked]
      exact (ih others).cons _
    | some b =>
      rw [List.filterMap_cons_some picked, List.map_cons, List.map_cons, first b picked]
      exact (ih others).cons_cons _

/-- Parts of lists, put together. -/
theorem flatMap_sublist_flatMap {α β : Type} {f g : α → List β} {l : List α}
    (h : ∀ a ∈ l, (f a).Sublist (g a)) : (l.flatMap f).Sublist (l.flatMap g) := by
  induction l with
  | nil => exact List.Sublist.slnil
  | cons a l ih =>
    obtain ⟨first, others⟩ := List.forall_mem_cons.1 h
    exact first.append (ih others)

/-! ## Names of one service -/

/-- The names that groups of a service can have, in the order of the groups. -/
def RuleFile.groupNames (service : String) : List String :=
  [":short", ":medium", ":daily", ":alert"].map fun ending => "slo:" ++ service ++ ending

/-- The names that manifests of a service can have, in the order of the manifests. -/
def Manifest.manifestNames (service : String) : List String :=
  ["slis-" ++ service, "slos-alerts-" ++ service]

/-- The names of groups tell their services. -/
theorem RuleFile.nodup_groupNames {services : List String} (h : services.Nodup) :
    (services.flatMap groupNames).Nodup :=
  nodup_flatMap_endings "slo:" (by decide) (by decide) h

/-- The names of alerts tell their services. -/
theorem Burn.nodup_flatMap_alertNames {services : List String} (h : services.Nodup) :
    (services.flatMap alertNames).Nodup :=
  nodup_flatMap_endings "slo:" (by decide) (by decide) h

/-- The names of manifests tell their services, and those of one kind are none of the other. -/
theorem Manifest.nodup_manifestNames {services : List String} (h : services.Nodup) :
    (services.flatMap manifestNames).Nodup := by
  refine nodup_flatMap_names h (fun s => ?_) fun s t n hs ht => ?_
  · simp [manifestNames, recording_name_ne s s]
  · simp only [manifestNames, List.mem_cons, List.not_mem_nil, or_false] at hs ht
    rcases hs with rfl | rfl
    · rcases ht with same | same
      · exact (String.append_right_inj _).1 same
      · exact absurd same (recording_name_ne s t)
    · rcases ht with same | same
      · exact absurd same.symm (recording_name_ne t s)
      · exact (String.append_right_inj _).1 same

theorem Recording.names_groups_sublist (slo : Slo) (o : Objectives) (disableTicket : Bool) :
    ((groups slo o disableTicket).map RecordingGroup.name).Sublist
      (Schedule.samples.map fun sample => "slo:" ++ slo.name ++ ":" ++ sample.name) := by
  refine map_filterMap_sublist fun sample _ g made => ?_
  rw [group?] at made
  split at made
  · cases made
  · rw [← Option.some.inj made]

namespace Generator

variable {g : Generator} {slo : Slo} {classes : ClassTable} {rules : SloRules}

theorem group_names_sublist (h : g.generate slo classes = .ok rules) :
    ((RuleFile.groupsOf rules).map RuleGroup.name).Sublist (RuleFile.groupNames rules.slo) := by
  obtain ⟨o, methods, errors, latency, built⟩ := exists_builds h
  have recording := Recording.names_groups_sublist slo o g.disableTicket
  rw [← built.groups, ← slo_eq_of_generate h] at recording
  have samples : (Schedule.samples.map fun sample => "slo:" ++ rules.slo ++ ":" ++ sample.name) =
      [":short", ":medium", ":daily"].map fun ending => "slo:" ++ rules.slo ++ ending := by
    simp only [Schedule.samples, List.map_cons, List.map_nil, String.append_assoc]
    rfl
  rw [samples] at recording
  rw [RuleFile.groupsOf, List.map_append, List.map_map]
  exact recording.append (List.Sublist.refl [rules.alertGroupName])

end Generator

/-! ## Names of a document -/

namespace Generator

theorem exists_of_mem_succeeded {g : Generator} {d : Document} {rules : SloRules}
    (h : rules ∈ (g.generateAll d).succeeded) :
    ∃ slo ∈ d.slos, g.generate slo (.ofClasses d.classes) = .ok rules := by
  obtain ⟨⟨slo, result⟩, listed, made⟩ := List.mem_filterMap.1 h
  obtain ⟨slo, mem, same⟩ := List.mem_map.1 listed
  obtain ⟨rfl, rfl⟩ := Prod.mk.inj same
  exact ⟨slo, mem, eq_ok_of_toOption made⟩

theorem services_succeeded_sublist (g : Generator) (d : Document) :
    ((g.generateAll d).succeeded.map SloRules.slo).Sublist (d.slos.map Slo.name) := by
  have listed : d.slos.map Slo.name = (g.results d).map fun e => e.1.name := by
    rw [results, List.map_map]
    rfl
  rw [listed]
  refine map_filterMap_sublist fun e he rules made => ?_
  obtain ⟨slo, -, rfl⟩ := List.mem_map.1 he
  have generated : g.generate slo (.ofClasses d.classes) = .ok rules := eq_ok_of_toOption made
  exact slo_eq_of_generate generated

/-- What has some of the names of its service, each of which tells it, has distinct names. -/
theorem nodup_names_of_told (g : Generator) {d : Document} (made : SloRules → List String)
    {names : String → List String} (distinct : (d.slos.map Slo.name).Nodup)
    (told : ∀ {services : List String}, services.Nodup → (services.flatMap names).Nodup)
    (some_of : ∀ slo rules, g.generate slo (.ofClasses d.classes) = .ok rules →
      (made rules).Sublist (names rules.slo)) :
    ((g.generateAll d).succeeded.flatMap made).Nodup := by
  have nodup := told ((services_succeeded_sublist g d).nodup distinct)
  rw [List.flatMap_map] at nodup
  refine (flatMap_sublist_flatMap fun rules mem => ?_).nodup nodup
  obtain ⟨slo, -, generated⟩ := exists_of_mem_succeeded mem
  exact some_of slo rules generated

/-- In what is made of an accepted document, no two groups of the file, no two manifests and
    no two alerts have the same name, whatever its services are called. -/
theorem output_names_distinct {d : Document} (h : d.check = .ok ()) (disableTicket : Bool)
    (labels : Labels) :
    let rules := (generateAll ⟨.builtin, disableTicket⟩ d).succeeded
    ((RuleFile.ofRules rules).groups.map RuleGroup.name).Nodup ∧
    ((Manifest.ofRules labels rules).map Manifest.name).Nodup ∧
    ((rules.flatMap SloRules.alerts).map AlertRule.alert).Nodup := by
  intro rules
  have distinct := (d.check_eq_ok_iff.1 h).1.2
  have groups := nodup_names_of_told ⟨.builtin, disableTicket⟩
    (fun rules => (RuleFile.groupsOf rules).map RuleGroup.name) distinct
    RuleFile.nodup_groupNames fun slo rules generated => group_names_sublist generated
  have manifests := nodup_names_of_told ⟨.builtin, disableTicket⟩
    (fun rules => (Manifest.ofSlo labels rules).map Manifest.name) distinct
    Manifest.nodup_manifestNames fun slo rules _ => Manifest.names_ofSlo_sublist labels rules
  have alerts := nodup_names_of_told ⟨.builtin, disableTicket⟩
    (fun rules => rules.alerts.map AlertRule.alert) distinct
    Burn.nodup_flatMap_alertNames fun slo rules generated => by
      rw [slo_eq_of_generate generated]
      exact alert_names_sublist generated
  rw [← List.map_flatMap] at groups manifests alerts
  exact ⟨groups, manifests, alerts⟩

/-- Services that are called like the groups, the manifests and the alerts of another. -/
theorem output_names_distinct_lookalikes :
    let named (name : String) : Slo :=
      { name := name
        objectives := { availability := 99.9 }
        errors := { expr := "job:errors:ratio", alertMethod := "multi-window" } }
    let d : Document :=
      { slos := ["a", "a:short", "a:alert", "slo:a:alert", "a.errors", "a.errors.page", "alerts-a",
          "slis-a"].map named }
    d.check = .ok () ∧
    let rules := (generateAll ⟨.builtin, false⟩ d).succeeded
    ((RuleFile.ofRules rules).groups.map RuleGroup.name).Nodup ∧
    ((Manifest.ofRules KeyMap.empty rules).map Manifest.name).Nodup ∧
    ((rules.flatMap SloRules.alerts).map AlertRule.alert).Nodup := by
  intro named d
  have visible : ∀ slo ∈ d.slos, IsVisible slo.name :=
    List.forall_mem_map.2 (by simp [named, IsVisible, Text.isSpace])
  have distinct : (d.slos.map Slo.name).Nodup := by decide
  have accepted : d.check = .ok () :=
    d.check_eq_ok_iff.2 ⟨⟨visible, distinct⟩, by decide, by decide⟩
  exact ⟨accepted, output_names_distinct accepted false KeyMap.empty⟩

end Generator

end ErrorBudget
