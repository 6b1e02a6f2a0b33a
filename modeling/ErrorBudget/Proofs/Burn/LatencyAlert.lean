/-
  ErrorBudget.Proofs.Burn.LatencyAlert

  When latency alerts stay silent. An alert says that the recorded ratio of fast requests
  falls short of a threshold for some target; a threshold is not above the limits of its
  target, so no condition holds once the ratios reach such limits.
-/
import ErrorBudget.Proofs.Alerting
import ErrorBudget.Proofs.Burn.LatencyThreshold

namespace ErrorBudget.Burn

open Decimal (number? denoted?)
open Query (Meaning Amount Series)

/-! ## Alerts that fire -/

/-- The alert's expression is read as a condition that holds. -/
def Fires (observed : Series → Option ℚ) (a : AlertRule) : Prop :=
  ∃ m, Query.read? a.expr = some m ∧ m.Holds observed

/-- The recorded ratio over a window reaches a limit of a target, unless there is none. -/
def Reaches (observed : Series → Option ℚ) (service window : String) (rate : Float)
    (t : LatencyTarget) : Prop :=
  ∃ τ q, number? t.target = some τ ∧ Limit τ rate q ∧
    ∀ x ∈ observed (latencySeries service t.le window), q ≤ x

/-- An alert that means conditions fires if one of them holds. -/
theorem fires_iff {a : AlertRule} {conditions : List Meaning} (means : Means a conditions)
    (observed : Series → Option ℚ) :
    Fires observed a ↔ ∃ c ∈ conditions, c.Holds observed := by
  obtain ⟨m, read, any⟩ := means
  rw [← Meaning.holds_anyOf? observed any]
  constructor
  · rintro ⟨n, read', holds⟩
    obtain rfl := Option.some.inj (read.symm.trans read')
    exact holds
  · intro holds
    exact ⟨m, read, holds⟩

/-- What is below an amount is below it together with all that is less. -/
theorem below_of_le {p q : ℚ} {a : Amount} (le : p ≤ q) (h : (Amount.finite q).Below a) :
    (Amount.finite p).Below a := by
  cases a with
  | finite r => exact lt_of_le_of_lt le h
  | infinite negative => exact h

/-- No condition holds on a ratio that is not below its threshold over the long window. -/
theorem not_holds_latencyBelow {observed : Series → Option ℚ} {service le long : String}
    {threshold : Meaning} {a : Amount} {q : ℚ} (amount : threshold.amount? observed = some a)
    (not_below : ¬ (Amount.finite q).Below a)
    (reached : ∀ x ∈ observed (latencySeries service le long), q ≤ x) (short : Option String) :
    ¬ (latencyBelow service le threshold long short).Holds observed := by
  have no_crossing : ¬ (Meaning.compare .below (.series (latencySeries service le long))
      threshold).Holds observed := by
    rintro ⟨x, hx, y, hy, below⟩
    obtain ⟨v, hv, rfl⟩ := Option.map_eq_some_iff.1 hx
    obtain rfl := Option.some.inj (amount.symm.trans hy)
    exact not_below (below_of_le (reached v hv) below)
  cases short with
  | none => exact no_crossing
  | some window => exact fun both => no_crossing both.1

/-- A condition holds on a ratio that is below its threshold over all windows. -/
theorem holds_latencyBelow {observed : Series → Option ℚ} {service le : String}
    {threshold : Meaning} {a : Amount} {q : ℚ} (amount : threshold.amount? observed = some a)
    (below : (Amount.finite q).Below a)
    (seen : ∀ window, observed (latencySeries service le window) = some q) (long : String)
    (short : Option String) : (latencyBelow service le threshold long short).Holds observed := by
  have crossing (window : String) : (Meaning.compare .below
      (.series (latencySeries service le window)) threshold).Holds observed :=
    ⟨.finite q, Option.map_eq_some_iff.2 ⟨q, seen window, rfl⟩, a, amount, below⟩
  cases short with
  | none => exact crossing long
  | some window => exact ⟨crossing long, crossing window⟩

/-! ## Literals that are limited -/

/-- A limited literal stands for an amount that no limit is below. -/
theorem Limited.exists_amount {τ : ℚ} {rate : Float} {cs : List Char} (h : Limited τ rate cs) :
    ∃ a, Amount.ofLiteral? cs = some a ∧ ∀ q, Limit τ rate q → ¬ (Amount.finite q).Below a := by
  cases h with
  | finite read le =>
    exact ⟨_, Amount.ofLiteral?_of_denoted read, fun q limit => not_lt.2 (le q limit)⟩
  | infinite => exact ⟨.infinite true, rfl, fun _ _ => Bool.noConfusion⟩

theorem denoted?_one : denoted? ['1'] = some 1 := by
  have parts : denoted? ['1'] = some (((1 : Nat) : ℚ) * 10 ^ (0 : Int)) := rfl
  rw [parts, Nat.cast_one, zpow_zero, one_mul]

theorem exists_number_of_check {t : LatencyTarget} (h : t.check = .ok ())
    (below : t.target < 100.0) : ∃ τ, number? t.target = some τ ∧ 0 ≤ τ ∧ τ < 100 := by
  have percentage : isPercentage t.target = true := by
    rw [LatencyTarget.check] at h
    split at h
    · cases h
    · split at h
      · cases h
      · rename_i not_outside
        simpa using not_outside
  obtain ⟨τ, number, nonneg, -⟩ := isPercentage_iff.1 percentage
  exact ⟨τ, number, nonneg, (Decimal.lt_iff number Decimal.number?_hundred).1 below⟩

/-! ## Conditions -/

section

variable {t : LatencyTarget} (sound : t.check = .ok ()) (below : t.target < 100.0)

include sound below

/-- The threshold of a burn window is a literal that is limited. -/
theorem windowLatency_limited (r : Request) {w : BurnWindow} (one_le : 1.0 ≤ w.multiplier) :
    ∃ τ cs, number? t.target = some τ ∧ Limited τ w.multiplier cs ∧
      windowLatency r t w = latencyBelow r.service t.le (.number cs) w.long w.short := by
  obtain ⟨τ, number, nonneg, lt⟩ := exists_number_of_check sound below
  exact ⟨τ, _, number, limited_window number lt nonneg one_le, rfl⟩

/-- The threshold of the one window is a product of the burn rate and a limited number. -/
theorem fixedLatency_limited (r : Request) :
    ∃ τ cs p, number? t.target = some τ ∧ denoted? cs = some p ∧ (∀ q, Limit τ 1.0 q → p ≤ q) ∧
      fixedLatency r t = latencyBelow r.service t.le
        (.product (numeral (r.burnRate.getD 1.0) (some 3)) (.number cs)) r.alertWindow none := by
  obtain ⟨τ, number, nonneg, lt⟩ := exists_number_of_check sound below
  obtain ⟨p, read, le⟩ := limited_fixed number lt nonneg
  exact ⟨τ, _, p, number, read, le, rfl⟩

theorem not_holds_windowLatency {r : Request} {w : BurnWindow} {observed : Series → Option ℚ}
    (one_le : 1.0 ≤ w.multiplier) (reaches : Reaches observed r.service w.long w.multiplier t) :
    ¬ (windowLatency r t w).Holds observed := by
  obtain ⟨τ, cs, number, limited, shape⟩ := windowLatency_limited sound below r one_le
  obtain ⟨τ', q, number', limit, reached⟩ := reaches
  obtain rfl := Option.some.inj (number.symm.trans number')
  obtain ⟨a, literal, not_below⟩ := limited.exists_amount
  have amount : (Meaning.number cs).amount? observed = some a := literal
  rw [shape]
  exact not_holds_latencyBelow amount (not_below q limit) reached w.short

theorem not_holds_fixedLatency {r : Request} {observed : Series → Option ℚ}
    (one : numeral (r.burnRate.getD 1.0) (some 3) = .number ['1'])
    (reaches : Reaches observed r.service r.alertWindow 1.0 t) :
    ¬ (fixedLatency r t).Holds observed := by
  obtain ⟨τ, cs, p, number, read, le, shape⟩ := fixedLatency_limited sound below r
  obtain ⟨τ', q, number', limit, reached⟩ := reaches
  obtain rfl := Option.some.inj (number.symm.trans number')
  have amount : (Meaning.product (.number ['1']) (.number cs)).amount? observed =
      some (.finite p) := by
    rw [Meaning.amount?, Meaning.amount?, Meaning.amount?,
      Amount.ofLiteral?_of_denoted denoted?_one, Amount.ofLiteral?_of_denoted read,
      Option.bind_some, Option.bind_some, Amount.mul?, one_mul]
  rw [shape, one]
  exact not_holds_latencyBelow amount (not_lt.2 (le q limit)) reached none

end

/-! ## Alerts -/

theorem number?_ninetyFive : number? 95.0 = some 95 := by
  have read : Decimal.Reading.ofFloat 95.0 = .finite ⟨false, 6685030696878080, -46⟩ := by decide
  rw [number?, read]
  norm_num [Decimal.Binary.value]

theorem number?_three_nines : number? 99.9 = some (7029837543348634 / 2 ^ 46) := by
  have read : Decimal.Reading.ofFloat 99.9 = .finite ⟨false, 7029837543348634, -46⟩ := by decide
  rw [number?, read]
  norm_num [Decimal.Binary.value]

theorem number?_four_nines : number? 99.99 = some (7036170730324623 / 2 ^ 46) := by
  have read : Decimal.Reading.ofFloat 99.99 = .finite ⟨false, 7036170730324623, -46⟩ := by decide
  rw [number?, read]
  norm_num [Decimal.Binary.value]

/-- Thresholds are not above the limits of their targets, and alerts do not fire on ratios
    that reach these. With several windows this holds for every burn rate of at least one; with
    one window the burn rate is a factor of its own, and has to be written as one. -/
theorem latency_alerts_limited (r : Request) {targets : List LatencyTarget} (ne_nil : targets ≠ [])
    (sound : ∀ t ∈ targets, t.check = .ok () ∧ t.target < 100.0) :
    (∀ table, burnWindows r.objectiveWindow r.windows r.shortWindow = .ok table →
      ∃ alerts, Method.multiWindow.latencyAlerts r targets = .ok alerts ∧
        List.Forall₂ (fun a e =>
          Means a (targets.flatMap fun t => e.2.map (windowLatency r t)) ∧
          (∀ t ∈ targets, ∀ w ∈ e.2, 1.0 ≤ w.multiplier →
            ∃ τ cs, number? t.target = some τ ∧ Limited τ w.multiplier cs ∧
              windowLatency r t w = latencyBelow r.service t.le (.number cs) w.long w.short) ∧
          ((∀ w ∈ e.2, 1.0 ≤ w.multiplier) → ∀ observed,
            (∀ t ∈ targets, ∀ w ∈ e.2, Reaches observed r.service w.long w.multiplier t) →
            ¬ Fires observed a)) alerts table) ∧
    (∀ alerts, Method.simple.latencyAlerts r targets = .ok alerts →
      ∃ a, alerts = [a] ∧ Means a (targets.map (fixedLatency r)) ∧
        (∀ t ∈ targets, ∃ τ cs p, number? t.target = some τ ∧ denoted? cs = some p ∧
          (∀ q, Limit τ 1.0 q → p ≤ q) ∧
          fixedLatency r t = latencyBelow r.service t.le
            (.product (numeral (r.burnRate.getD 1.0) (some 3)) (.number cs))
            r.alertWindow none) ∧
        (numeral (r.burnRate.getD 1.0) (some 3) = .number ['1'] → ∀ observed,
          (∀ t ∈ targets, Reaches observed r.service r.alertWindow 1.0 t) →
          ¬ Fires observed a)) := by
  constructor
  · intro table rows
    obtain ⟨alerts, made, means⟩ := MultiWindow.means_latencyAlerts rows ne_nil
    refine ⟨alerts, made, means.imp fun a e h => ⟨h.2, ?_, ?_⟩⟩
    · intro t ht w _ one_le
      exact windowLatency_limited (sound t ht).1 (sound t ht).2 r one_le
    · intro one_le observed reaches fires
      obtain ⟨c, hc, holds⟩ := (fires_iff h.2 observed).1 fires
      obtain ⟨t, ht, hc⟩ := List.mem_flatMap.1 hc
      obtain ⟨w, hw, rfl⟩ := List.mem_map.1 hc
      exact not_holds_windowLatency (sound t ht).1 (sound t ht).2 (one_le w hw)
        (reaches t ht w hw) holds
  · intro alerts made
    obtain ⟨a, single, -, means⟩ := FixedWindow.means_latencyAlerts ne_nil made
    refine ⟨a, single, means, ?_, ?_⟩
    · intro t ht
      exact fixedLatency_limited (sound t ht).1 (sound t ht).2 r
    · intro one observed reaches fires
      obtain ⟨c, hc, holds⟩ := (fires_iff means observed).1 fires
      obtain ⟨t, ht, rfl⟩ := List.mem_map.1 hc
      exact not_holds_fixedLatency (sound t ht).1 (sound t ht).2 one (reaches t ht) holds

/-- With the usual windows, targets of whole tenths of a percent can be met without alerts. -/
theorem latency_alerts_limited_tenths :
    let r : Request := { service := "checkout", alertWindow := "1h" }
    let targets : List LatencyTarget := [⟨"0.1", 95.0⟩, ⟨"+Inf", 99.9⟩]
    let observed : Series → Option ℚ := fun _ => some (999 / 1000)
    (∃ page ticket, Method.multiWindow.latencyAlerts r targets = .ok [page, ticket] ∧
      ¬ Fires observed page ∧ ¬ Fires observed ticket) ∧
    (∃ a, Method.simple.latencyAlerts r targets = .ok [a] ∧ ¬ Fires observed a) := by
  intro r targets observed
  have sound : ∀ t ∈ targets, t.check = .ok () ∧ t.target < 100.0 := by
    simp only [targets, List.forall_mem_cons]
    exact ⟨⟨rfl, by decide⟩, ⟨rfl, by decide⟩, List.forall_mem_nil _⟩
  have reaches (window : String) (rate : Float) :
      ∀ t ∈ targets, Reaches observed r.service window rate t := by
    have above {q : ℚ} (le : q ≤ 999 / 1000) : ∀ x ∈ some (999 / 1000 : ℚ), q ≤ x := by
      intro x hx
      obtain rfl := Option.some.inj hx
      exact le
    simp only [targets, List.forall_mem_cons]
    exact ⟨⟨_, _, number?_ninetyFive, .thousandths 950 (by decide) (by norm_num),
        above (by norm_num)⟩,
      ⟨_, _, number?_three_nines, .thousandths 999 (by decide) (by norm_num), above le_rfl⟩,
      List.forall_mem_nil _⟩
  have no_rate : numeral (r.burnRate.getD 1.0) (some 3) = .number ['1'] :=
    congrArg Meaning.number (by decide)
  obtain ⟨windows, fixed⟩ := latency_alerts_limited r (List.cons_ne_nil _ _) sound
  obtain ⟨alerts, made, limited⟩ := windows defaultWindows rfl
  obtain ⟨a, single, -, -, silent⟩ := fixed _ rfl
  -- the default table has a row for pages and one for tickets
  rcases limited with _ | ⟨⟨-, -, silent_page⟩, _ | ⟨⟨-, -, silent_ticket⟩, _ | _⟩⟩
  refine ⟨⟨_, _, made, silent_page ?_ observed fun t ht w _ => reaches _ _ t ht,
    silent_ticket ?_ observed fun t ht w _ => reaches _ _ t ht⟩,
    ⟨a, single ▸ rfl, silent no_rate observed (reaches _ _)⟩⟩
  · simp only [List.forall_mem_cons]
    exact ⟨by decide, by decide, List.forall_mem_nil _⟩
  · simp only [List.forall_mem_cons]
    exact ⟨by decide, by decide, List.forall_mem_nil _⟩

/-- The shares themselves are no limits. A threshold of more digits is rounded up to one, so
    a ticket is raised at the share that the target asks for; and a burn rate of two doubles the
    threshold of the method with one window, so a page is sent even if all requests are fast. -/
theorem latency_alerts_fire_at_share :
    let r : Request := { service := "checkout", alertWindow := "1h", burnRate := some 2.0 }
    let finer : LatencyTarget := ⟨"0.1", 99.99⟩
    let whole : LatencyTarget := ⟨"0.1", 95.0⟩
    (finer.check = .ok () ∧ finer.target < 100.0 ∧ (1.0 : Float) ≤ 3.0 ∧
      ∃ τ page ticket, number? finer.target = some τ ∧ τ / 100 < 1 ∧ denoted? ['1'] = some 1 ∧
        windowLatency r finer ⟨3.0, "1d", some "2h"⟩ =
          latencyBelow "checkout" "0.1" (.number ['1']) "1d" (some "2h") ∧
        Method.multiWindow.latencyAlerts r [finer] = .ok [page, ticket] ∧
        Fires (fun _ => some (τ / 100)) ticket) ∧
    (whole.check = .ok () ∧ whole.target < 100.0 ∧ (1.0 : Float) ≤ 2.0 ∧
      ∃ a, number? whole.target = some 95 ∧
        fixedLatency r whole = latencyBelow "checkout" "0.1"
          (.product (.number ['2']) (.number ['0', '.', '9', '5'])) "1h" none ∧
        denoted? ['2'] = some 2 ∧ denoted? ['0', '.', '9', '5'] = some (95 / 100) ∧
        Method.simple.latencyAlerts r [whole] = .ok [a] ∧ Fires (fun _ => some 1) a) := by
  intro r finer whole
  have read_two : denoted? ['2'] = some 2 := by
    have parts : denoted? ['2'] = some (((2 : Nat) : ℚ) * 10 ^ (0 : Int)) := rfl
    rw [parts]
    norm_num
  have read_share : denoted? ['0', '.', '9', '5'] = some (95 / 100) := by
    have parts : denoted? ['0', '.', '9', '5'] = some (((95 : Nat) : ℚ) * 10 ^ (-2 : Int)) := rfl
    rw [parts]
    norm_num
  have one : (Decimal.general (1.0 - (100.0 - 99.99) * 3.0 * 0.01) (some 3)).toList = ['1'] := by
    decide
  have two : (Decimal.general 2.0 (some 3)).toList = ['2'] := by decide
  have share : (Decimal.general (1.0 - (100.0 - 95.0) * 0.01) (some 3)).toList =
      ['0', '.', '9', '5'] := by decide
  constructor
  · have shape : windowLatency r finer ⟨3.0, "1d", some "2h"⟩ =
        latencyBelow "checkout" "0.1" (.number ['1']) "1d" (some "2h") := by
      rw [windowLatency, numeral, one]
    have rows : burnWindows r.objectiveWindow r.windows r.shortWindow = .ok defaultWindows := rfl
    obtain ⟨alerts, made, means⟩ :=
      MultiWindow.means_latencyAlerts rows (List.cons_ne_nil finer [])
    rcases means with _ | ⟨-, _ | ⟨⟨-, means_ticket⟩, _ | _⟩⟩
    have sound : LatencyTarget.check ⟨"0.1", 99.99⟩ = .ok () := rfl
    have below_one : (7036170730324623 / 2 ^ 46 / 100 : ℚ) < 1 := by norm_num
    have amount : (Meaning.number ['1']).amount?
        (fun _ => some (7036170730324623 / 2 ^ 46 / 100)) = some (.finite 1) :=
      Amount.ofLiteral?_of_denoted denoted?_one
    refine ⟨sound, by decide, by decide, _, _, _, number?_four_nines, below_one, denoted?_one,
      shape, made, ?_⟩
    refine (fires_iff means_ticket _).2 ⟨_, List.mem_cons_self, ?_⟩
    rw [shape]
    exact holds_latencyBelow amount below_one (fun _ => rfl) _ _
  · have shape : fixedLatency r whole = latencyBelow "checkout" "0.1"
        (.product (.number ['2']) (.number ['0', '.', '9', '5'])) "1h" none := by
      show latencyBelow "checkout" "0.1"
        (.product (.number (Decimal.general 2.0 (some 3)).toList)
          (.number (Decimal.general (1.0 - (100.0 - 95.0) * 0.01) (some 3)).toList)) "1h" none = _
      rw [two, share]
    obtain ⟨a, single, -, means⟩ := FixedWindow.means_latencyAlerts (r := r)
      (List.cons_ne_nil whole []) rfl
    have sound : LatencyTarget.check ⟨"0.1", 95.0⟩ = .ok () := rfl
    have amount : (Meaning.product (.number ['2']) (.number ['0', '.', '9', '5'])).amount?
        (fun _ => some 1) = some (.finite (2 * (95 / 100))) := by
      rw [Meaning.amount?, Meaning.amount?, Meaning.amount?, Amount.ofLiteral?_of_denoted read_two,
        Amount.ofLiteral?_of_denoted read_share]
      rfl
    have below_product : (1 : ℚ) < 2 * (95 / 100) := by norm_num
    refine ⟨sound, by decide, by decide, a, number?_ninetyFive, shape, read_two, read_share,
      single ▸ rfl, ?_⟩
    refine (fires_iff means _).2 ⟨_, List.mem_cons_self, ?_⟩
    rw [shape]
    exact holds_latencyBelow amount below_product (fun _ => rfl) _ _

end ErrorBudget.Burn
