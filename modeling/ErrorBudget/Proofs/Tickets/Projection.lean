/-
  ErrorBudget.Proofs.Tickets.Projection

  What turning tickets off does to the rules of a service: nothing but leaving
  out the alerts whose labels name a ticket and the records of the long windows,
  for any methods, and with the same faults.
-/
import Mathlib.Data.List.Infix
import ErrorBudget.Generate
import ErrorBudget.Proofs.Recording.Rules

namespace ErrorBudget

/-! ## What is left out -/

/-- Whether a record's name ends in a window that is recorded for tickets alone. -/
def RecordingRule.isTicketOnly (r : RecordingRule) : Bool :=
  ["_1d", "_2h", "_3d"].any fun ending => decide (ending.toList <:+ r.record.toList)

/-- A group with its name and interval but without the records kept for tickets alone;
    none if there are no others. -/
def RecordingGroup.withoutTickets? (g : RecordingGroup) : Option RecordingGroup :=
  let rules := g.rules.filter fun r => !r.isTicketOnly
  if rules.isEmpty then none else some ⟨g.name, g.interval, rules⟩

/-- Rules without the alerts whose labels name a ticket, and without the records that
    are kept for them alone. -/
def SloRules.withoutTickets (r : SloRules) : SloRules :=
  { slo := r.slo
    groups := r.groups.filterMap RecordingGroup.withoutTickets?
    alerts := r.alerts.filter fun a => a.labels.get? "severity" ≠ some "ticket" }

/-! ## Records -/

/-- What follows the last underscore is told by the end of a text. -/
theorem suffix_underscore_iff {p e w : List Char} (he : '_' ∉ e) (hw : '_' ∉ w) :
    ('_' :: e) <:+ (p ++ '_' :: w) ↔ e = w := by
  refine ⟨fun h => ?_, fun h => h ▸ List.suffix_append p _⟩
  have alone : ∀ {a b : List Char}, '_' ∉ b → ('_' :: a) <:+ ('_' :: b) → a = b := by
    intro a b hb suffix
    rcases List.suffix_cons_iff.1 suffix with same | inside
    · exact List.tail_eq_of_cons_eq same
    · exact absurd (inside.subset List.mem_cons_self) hb
  -- two ends of one text: the shorter one ends the longer one
  rcases List.suffix_or_suffix_of_suffix h (List.suffix_append p ('_' :: w)) with h | h
  · exact alone hw h
  · exact (alone he h).symm

namespace Recording

/-- Windows have no underscore of their own, so the last one stands before the window. -/
theorem underscore_notMem_bucket : ∀ b ∈ Schedule.buckets, '_' ∉ b.toList := by
  decide

/-- A record is kept for tickets alone exactly if its window is. -/
theorem isTicketOnly_of_mem_bucketRules {slo : Slo} {les : List String} {bucket : String}
    (hb : bucket ∈ Schedule.buckets) {r : RecordingRule} (h : r ∈ bucketRules slo les bucket) :
    r.isTicketOnly = Schedule.isTicketOnly bucket := by
  obtain ⟨stem, hr⟩ := record_of_mem_bucketRules h
  have ends : ∀ w ∈ Schedule.buckets,
      ("_" ++ w).toList <:+ r.record.toList ↔ w = bucket := by
    intro w hw
    rw [hr, String.toList_append, String.toList_append, String.toList_append, List.append_assoc,
      ← String.toList_inj]
    exact suffix_underscore_iff (underscore_notMem_bucket w hw) (underscore_notMem_bucket bucket hb)
  have day : "_1d".toList <:+ r.record.toList ↔ "1d" = bucket := ends "1d" (by decide)
  have hours : "_2h".toList <:+ r.record.toList ↔ "2h" = bucket := ends "2h" (by decide)
  have days : "_3d".toList <:+ r.record.toList ↔ "3d" = bucket := ends "3d" (by decide)
  have each : ∀ b ∈ Schedule.buckets,
      (decide ("1d" = b) || (decide ("2h" = b) || (decide ("3d" = b) || false))) =
        Schedule.isTicketOnly b := by decide
  simp only [RecordingRule.isTicketOnly, List.any_cons, List.any_nil, day, hours, days]
  exact each bucket hb

/-- Leaving out the records that are kept for tickets alone leaves out the windows
    that are. -/
theorem filter_flatMap_bucketRules (slo : Slo) (les : List String) {buckets : List String}
    (h : ∀ b ∈ buckets, b ∈ Schedule.buckets) :
    (buckets.flatMap (bucketRules slo les)).filter (fun r => !r.isTicketOnly) =
      (buckets.filter fun b => !Schedule.isTicketOnly b).flatMap (bucketRules slo les) := by
  induction buckets with
  | nil => rfl
  | cons b bs ih =>
    have scheduled := h b List.mem_cons_self
    have others := ih fun c hc => h c (List.mem_cons_of_mem b hc)
    rw [List.flatMap_cons, List.filter_append, others]
    -- the rules of one window stay or go together
    cases ticket : Schedule.isTicketOnly b with
    | true =>
      have none_left : (bucketRules slo les b).filter (fun r => !r.isTicketOnly) = [] := by
        refine List.filter_eq_nil_iff.2 fun r hr => ?_
        rw [isTicketOnly_of_mem_bucketRules scheduled hr, ticket]
        decide
      rw [none_left, List.nil_append, List.filter_cons_of_neg (by simp [ticket])]
    | false =>
      have all_left : (bucketRules slo les b).filter (fun r => !r.isTicketOnly) =
          bucketRules slo les b := by
        refine List.filter_eq_self.2 fun r hr => ?_
        rw [isTicketOnly_of_mem_bucketRules scheduled hr, ticket]
        rfl
      rw [all_left, List.filter_cons_of_pos (by simp [ticket]), List.flatMap_cons]

theorem keptBuckets_false (sample : Sample) : keptBuckets sample false = sample.buckets := by
  simp [keptBuckets]

theorem group?_true (slo : Slo) (objectives : Objectives) {sample : Sample}
    (h : sample ∈ Schedule.samples) :
    group? slo objectives true sample =
      (group? slo objectives false sample).bind RecordingGroup.withoutTickets? := by
  have scheduled : ∀ b ∈ sample.buckets, b ∈ Schedule.buckets :=
    fun b hb => List.mem_flatMap.2 ⟨sample, h, hb⟩
  have kept := filter_flatMap_bucketRules slo (boundaries slo objectives) scheduled
  have long : keptBuckets sample true =
      sample.buckets.filter fun b => !Schedule.isTicketOnly b := by
    simp [keptBuckets]
  rw [group?, group?, long, keptBuckets_false, ← kept]
  -- a group that was empty before has no rules to filter
  cases all : sample.buckets.flatMap (bucketRules slo (boundaries slo objectives)) with
  | nil => rfl
  | cons r rs => rfl

/-- The groups without tickets are all groups without what is kept for tickets alone. -/
theorem groups_true (slo : Slo) (objectives : Objectives) :
    groups slo objectives true =
      (groups slo objectives false).filterMap RecordingGroup.withoutTickets? := by
  rw [groups, groups, List.filterMap_filterMap]
  exact List.filterMap_congr fun sample h => group?_true slo objectives h

end Recording

/-! ## Alerts -/

theorem Severity.ofTag?_eq_some_iff {tag : String} {severity : Severity} :
    ofTag? tag = some severity ↔ tag = severity.text := by
  constructor
  · intro named
    rw [ofTag?] at named
    split at named
    · rename_i is_page
      obtain rfl := Option.some.inj named
      exact is_page
    · split at named
      · rename_i is_ticket
        obtain rfl := Option.some.inj named
        exact is_ticket
      · cases named
  · rintro rfl
    cases severity <;> rfl

namespace Alerting

/-- Without tickets, an alert stays if its final label names none. -/
theorem isKept_true (a : AlertRule) :
    isKept true a = decide (a.labels.get? "severity" ≠ some "ticket") := by
  have named : a.severity? = some .ticket ↔ a.labels.get? "severity" = some "ticket" := by
    rw [AlertRule.severity?, Option.bind_eq_some_iff]
    simp [Severity.ofTag?_eq_some_iff, Severity.text]
  rw [isKept, Bool.true_and, beq_eq_decide]
  simp only [named, ne_eq, decide_not]

theorem isKept_false (a : AlertRule) : isKept false a = true := rfl

/-- Turning tickets off leaves out alerts, and no fault comes or goes by it. -/
theorem alerts_true (slo : Slo) (objectives : Objectives) (methods : AlertMethods) :
    alerts slo objectives methods true =
      (alerts slo objectives methods false).map fun as =>
        as.filter fun a => a.labels.get? "severity" ≠ some "ticket" := by
  rw [alerts, alerts]
  -- both batches are made before the switch is looked at, so their faults are the same
  cases errorBatch slo objectives methods with
  | error fault => rfl
  | ok errors =>
    cases latencyBatch slo objectives methods with
    | error fault => rfl
    | ok latency =>
      have keeps_all (as : List AlertRule) : as.filter (isKept false) = as :=
        List.filter_eq_self.2 fun a _ => isKept_false a
      have leaves_out (as : List AlertRule) : as.filter (isKept true) =
          as.filter fun a => a.labels.get? "severity" ≠ some "ticket" :=
        List.filter_congr fun a _ => isKept_true a
      change Except.ok _ = Except.ok _
      rw [keeps_all, leaves_out]

end Alerting

/-! ## Whole services -/

/-- Turning tickets off is a projection of the full result: the same fault, or the
    same rules without tickets and without what is kept for them alone. -/
theorem Generator.generate_withoutTickets (registry : Burn.Registry) (slo : Slo)
    (classes : ClassTable) :
    generate ⟨registry, true⟩ slo classes =
      (generate ⟨registry, false⟩ slo classes).map SloRules.withoutTickets := by
  -- preparing a service asks for the registry only
  have same : prepare ⟨registry, true⟩ slo classes = prepare ⟨registry, false⟩ slo classes := rfl
  rw [generate, generate, same]
  cases prepare ⟨registry, false⟩ slo classes with
  | error fault => rfl
  | ok p =>
    change build _ p = (build _ p).map _
    rw [build, build, Alerting.alerts_true, Recording.groups_true]
    cases Alerting.alerts p.slo p.objectives p.methods false with
    | error fault => rfl
    | ok alerts => rfl

end ErrorBudget
