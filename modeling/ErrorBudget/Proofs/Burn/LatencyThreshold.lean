/-
  ErrorBudget.Proofs.Burn.LatencyThreshold

  How far the thresholds of latency alerts lie above the share of fast requests that a
  target asks for. A burn rate of at least one can only lower a threshold, but thresholds are
  worked out in doubles and written with three significant digits. So one can lie above the
  share by half a thousandth and what doubles are off; it does not if the share is a whole
  number of thousandths, or if the burn rate leaves room for rounding.
-/
import ErrorBudget.Proofs.Burn.Expression
import ErrorBudget.Proofs.Decimal.Arithmetic
import ErrorBudget.Proofs.Query.Evaluation

namespace ErrorBudget.Burn

open Decimal (number? denoted? Reading AtLeast AtMost)
open Query (Meaning Amount Series)

/-! ## Limits -/

/-- What a threshold does not lie above, given a target of `τ` percent and a burn rate. -/
inductive Limit (τ : ℚ) (rate : Float) : ℚ → Prop where
  /-- The share that the target asks for, and what rounding adds to it. -/
  | near : Limit τ rate (τ / 100 + 1 / 2000 + 1 / 2 ^ 51)
  /-- Thousandths that are not below the share, or hardly: a target of whole tenths of a
      percent is a double next to these. -/
  | thousandths (n : Nat) (pos : 0 < n) (le : τ ≤ n / 10 + 1 / 2500) : Limit τ rate (n / 1000)
  /-- The share itself, if the burn rate leaves room. -/
  | room {μ : ℚ} (is : number? rate = some μ) (enough : 51 / 1000 ≤ (100 - τ) * (μ - 1)) :
    Limit τ rate (τ / 100)

/-- A literal that is not above any limit. -/
inductive Limited (τ : ℚ) (rate : Float) : List Char → Prop where
  | finite {cs : List Char} {p : ℚ} (read : denoted? cs = some p)
      (le : ∀ q, Limit τ rate q → p ≤ q) : Limited τ rate cs
  | infinite : Limited τ rate ['-', 'I', 'n', 'f']

/-! ## Rounding -/

section

variable {d ε : ℚ} (ε_pos : 0 < ε) (ε_le : ε ≤ 1 / 100)

include ε_pos ε_le

theorem one_sub_cube_ge : 1 - 3 * ε ≤ (1 - ε) ^ 3 := by
  have square : 0 ≤ ε ^ 2 * (3 - ε) := by
    have factor : 0 ≤ 3 - ε := by linarith
    positivity
  linarith

/-- What is taken from one is large enough not to be lost. -/
theorem one_sub_rounded_lt (large : 6 / 5 * ε ≤ d) : (1 - d * (1 - ε) ^ 3) * (1 + ε) < 1 := by
  have cube := one_sub_cube_ge ε_pos ε_le
  have d_pos : 0 < d := by linarith
  have taken : 6 / 5 * ε * (1 - 3 * ε) ≤ d * (1 - ε) ^ 3 :=
    mul_le_mul large cube (by linarith) d_pos.le
  have square : ε * ε ≤ ε * (1 / 100) := mul_le_mul_of_nonneg_left ε_le ε_pos.le
  have more : ε < d * (1 - ε) ^ 3 := by linarith
  have scaled : 0 < d * (1 - ε) ^ 3 * ε := mul_pos (ε_pos.trans more) ε_pos
  linarith

/-- After three roundings down and one up, a difference from one is hardly larger. -/
theorem one_sub_rounded_le (pos : 0 < d) :
    max 0 ((1 - d * (1 - ε) ^ 3) * (1 + ε)) ≤ max 0 (1 - d + 4 * ε) := by
  have cube := one_sub_cube_ge ε_pos ε_le
  have taken : d * (1 - 3 * ε) ≤ d * (1 - ε) ^ 3 := mul_le_mul_of_nonneg_left cube pos.le
  refine max_le (le_max_left _ _) ?_
  rcases le_total 1 (d * (1 - ε) ^ 3) with all | rest
  · have negative : (1 - d * (1 - ε) ^ 3) * (1 + ε) ≤ 0 :=
      mul_nonpos_of_nonpos_of_nonneg (by linarith) (by linarith)
    exact negative.trans (le_max_left _ _)
  · have small : d * ε ≤ d * (1 / 100) := mul_le_mul_of_nonneg_left ε_le pos.le
    have moderate : d ≤ 11 / 10 := by linarith
    have scaled : d * ε ≤ 11 / 10 * ε := mul_le_mul_of_nonneg_right moderate ε_pos.le
    have square : d * ε * ε ≤ 11 / 10 * ε * (1 / 100) :=
      mul_le_mul scaled ε_le ε_pos.le (by positivity)
    have bound : (1 - d * (1 - ε) ^ 3) * (1 + ε) ≤ (1 - d * (1 - 3 * ε)) * (1 + ε) :=
      mul_le_mul_of_nonneg_right (by linarith) (by linarith)
    refine le_trans ?_ (le_max_right _ _)
    linarith

end

/-! ## Thresholds -/

theorem number?_hundredth : number? 0.01 = some (5764607523034235 * 2 ^ (-59 : Int)) := by
  have read : Reading.ofFloat 0.01 = .finite ⟨false, 5764607523034235, -59⟩ := by decide
  rw [number?, read]
  norm_num [Decimal.Binary.value]

theorem number?_one : number? 1.0 = some 1 := by
  have read : Reading.ofFloat 1.0 = .finite ⟨false, 4503599627370496, -52⟩ := by decide
  rw [number?, read]
  norm_num [Decimal.Binary.value]

theorem atLeast_hundredth : AtLeast (1 / 100) (Reading.ofFloat 0.01) :=
  Decimal.atLeast_of_number number?_hundredth (by norm_num)

/-- A double below a hundred leaves at least the distance of doubles of that size. -/
theorem distance_to_hundred {t : Float} {τ : ℚ} (target : number? t = some τ) (below : τ < 100) :
    1 / 2 ^ 46 ≤ 100 - τ := by
  rcases le_or_gt τ 64 with small | large
  · have far : (1 : ℚ) / 2 ^ 46 ≤ 36 := by norm_num
    linarith
  · obtain ⟨s, m, e, -, normal, rfl⟩ := Decimal.exists_signed target
    rw [Decimal.signedValue_eq] at below large ⊢
    cases s with
    | negative =>
      rw [Decimal.isNegative, if_pos rfl, neg_one_mul] at large
      have nonneg : (0 : ℚ) ≤ m * 2 ^ e := by positivity
      linarith
    | positive =>
      rw [Decimal.isNegative, if_neg Bool.false_ne_true, one_mul] at below large ⊢
      have few : (m : ℚ) ≤ 2 ^ 53 := by exact_mod_cast normal.lt.le
      have step : (2 : ℚ) ^ (-47 : Int) < 2 ^ e := by
        have size : (64 : ℚ) < 2 ^ 53 * 2 ^ e :=
          large.trans_le (mul_le_mul_of_nonneg_right few (by positivity))
        have power : (2 : ℚ) ^ (-47 : Int) = 64 / 2 ^ 53 := by norm_num
        rw [power, div_lt_iff₀ (by positivity), mul_comm]
        exact size
      have exponent : -47 < e := (zpow_lt_zpow_iff_right₀ one_lt_two).1 step
      -- both are whole numbers of steps
      have steps : (m : ℚ) * 2 ^ e = (m * 2 ^ (e + 46).toNat : Nat) / 2 ^ 46 := by
        have split : (2 : ℚ) ^ e = 2 ^ (e + 46).toNat / 2 ^ 46 := by
          rw [← zpow_natCast, ← zpow_natCast, ← zpow_sub₀ two_ne_zero]
          congr 1
          omega
        rw [split]
        push_cast
        ring
      rw [steps] at below ⊢
      generalize m * 2 ^ (e + 46).toNat = whole at below ⊢
      rw [div_lt_iff₀ (by positivity)] at below
      have next : whole + 1 ≤ 100 * 2 ^ 46 := by exact_mod_cast below
      have next' : (whole : ℚ) + 1 ≤ 100 * 2 ^ 46 := by exact_mod_cast next
      rw [le_sub_iff_add_le, ← add_div, div_le_iff₀ (by positivity), add_comm]
      exact next'

section

variable {τ μ : ℚ} {rate : Float} (nonneg : 0 ≤ τ) (below : τ ≤ 100) (one_le : 1 ≤ μ)
  (limits : ∀ m, number? rate = some m → m ≤ μ)

include nonneg below one_le limits

/-- A number that is hardly above what the burn rate leaves is rounded to one that is not
    above any limit. -/
theorem limited_of_roundsTo {v p : ℚ} (v_lt : v < 1)
    (v_le : v ≤ max 0 (1 - (100 - τ) * μ / 100 + 4 * (1 / 2 ^ 53)))
    (rounds : Decimal.RoundsTo 3 v p) {q : ℚ} (limit : Limit τ rate q) : p ≤ q := by
  have tiny : 4 * (1 / 2 ^ 53 : ℚ) = 1 / 2 ^ 51 := by norm_num
  have hardly : (1 / 2 ^ 51 : ℚ) ≤ 1 / 10000000 := by norm_num
  have some_error : (0 : ℚ) < 1 / 2 ^ 51 := by positivity
  rw [tiny] at v_le
  rcases le_or_gt v 0 with nothing | something
  · refine (rounds.nonpos nothing).trans ?_
    cases limit with
    | near => positivity
    | thousandths n => positivity
    | room => positivity
  · -- a burn rate above one takes away more
    have more : (100 - τ) * 1 ≤ (100 - τ) * μ :=
      mul_le_mul_of_nonneg_left one_le (sub_nonneg.2 below)
    have size : |v| < 10 ^ (0 : Int) := by rwa [abs_of_pos something, zpow_zero]
    have close := (abs_le.1 (rounds.close 0 size)).2
    have half_step : (10 : ℚ) ^ ((0 : Int) - (3 : Nat)) / 2 = 1 / 2000 := by norm_num
    rw [half_step] at close
    cases limit with
    | near =>
      have share : v ≤ τ / 100 + 1 / 2 ^ 51 :=
        v_le.trans (max_le (by positivity) (by linarith))
      linarith
    | thousandths n pos le =>
      have share : v ≤ τ / 100 + 1 / 2 ^ 51 :=
        v_le.trans (max_le (by positivity) (by linarith))
      have thousandth : (10 : ℚ) ^ ((0 : Int) - (3 : Nat)) = 1 / 1000 := by norm_num
      have finest : (10 : ℚ) ^ ((0 : Int) - 2 * (3 : Nat) + 1) / 2 = 1 / 200000 := by norm_num
      have rounded := rounds.le_multiple 0 n pos size
      rw [thousandth, finest] at rounded
      have within := rounded (by linarith)
      linarith
    | @room m is enough =>
      have larger : (100 - τ) * (m - 1) ≤ (100 - τ) * (μ - 1) :=
        mul_le_mul_of_nonneg_left (by linarith [limits m is]) (sub_nonneg.2 below)
      have left : v ≤ 1 - (100 - τ) * μ / 100 + 1 / 2 ^ 51 :=
        (le_max_iff.1 v_le).resolve_left (not_le.2 something)
      linarith

/-- One less what the burn rate takes away is written as a limited literal. -/
theorem limited_general {x : Float} (large : 6 / 5 * (1 / 2 ^ 53) ≤ (100 - τ) * μ / 100)
    (hx : AtLeast ((100 - τ) * μ / 100 * (1 - 1 / 2 ^ 53) ^ 3) (Reading.ofFloat x)) :
    Limited τ rate (Decimal.general (1.0 - x) precision).toList := by
  have ε_pos : (0 : ℚ) < 1 / 2 ^ 53 := by positivity
  have ε_le : (1 / 2 ^ 53 : ℚ) ≤ 1 / 100 := by norm_num
  have d_pos : 0 < (100 - τ) * μ / 100 := lt_of_lt_of_le (by positivity) large
  have taken_pos : 0 < (100 - τ) * μ / 100 * (1 - 1 / 2 ^ 53 : ℚ) ^ 3 :=
    mul_pos d_pos (by norm_num)
  have moderate : (1 : ℚ) < 2 ^ 1023 := one_lt_pow₀ one_lt_two (by decide)
  have at_most := Decimal.atMost_sub number?_one hx taken_pos moderate
  generalize read : Reading.ofFloat (1.0 - x) = r at at_most
  cases at_most with
  | @finite b le =>
    have v_lt : b.value < 1 :=
      le.trans_lt (max_lt one_pos (one_sub_rounded_lt ε_pos ε_le large))
    have v_le := le.trans (one_sub_rounded_le ε_pos ε_le d_pos)
    obtain ⟨p, read_p, rounds⟩ :=
      Decimal.exists_denoted?_general (Decimal.number?_of_finite read) 3
    exact .finite read_p fun q limit =>
      limited_of_roundsTo nonneg below one_le limits v_lt v_le rounds limit
  | infinite =>
    rw [Decimal.general, read]
    exact .infinite

end

/-- Numbers of ordinary size are not too small for a product. -/
theorem least_normal_le {q : ℚ} (h : 1 / 2 ^ 60 ≤ q) : (2 : ℚ) ^ (-1022 : Int) ≤ q :=
  calc (2 : ℚ) ^ (-1022 : Int) ≤ 2 ^ (-60 : Int) :=
        zpow_le_zpow_right₀ one_le_two (by decide)
    _ = 1 / 2 ^ 60 := by norm_num
    _ ≤ q := h

section

variable {t : Float} {τ : ℚ} (target : number? t = some τ) (below : τ < 100)

include target below

theorem atLeast_left :
    AtLeast ((100 - τ) * (1 - 1 / 2 ^ 53)) (Reading.ofFloat (100.0 - t)) :=
  (Decimal.near_sub Decimal.number?_hundred target).atLeast (sub_nonneg.2 below.le) le_rfl

theorem left_ge : 1 / 2 ^ 47 ≤ (100 - τ) * (1 - 1 / 2 ^ 53) :=
  calc (1 : ℚ) / 2 ^ 47 ≤ 1 / 2 ^ 46 * (1 - 1 / 2 ^ 53) := by norm_num
    _ ≤ (100 - τ) * (1 - 1 / 2 ^ 53) :=
      mul_le_mul_of_nonneg_right (distance_to_hundred target below) (by norm_num)

/-- What a burn rate takes away, in three steps that are each rounded. -/
theorem atLeast_taken {rate : Float} {μ : ℚ} (one_le : 1 ≤ μ)
    (hr : AtLeast μ (Reading.ofFloat rate)) :
    AtLeast ((100 - τ) * μ / 100 * (1 - 1 / 2 ^ 53) ^ 3)
      (Reading.ofFloat ((100.0 - t) * rate * 0.01)) := by
  have some_left := left_ge target below
  have left_pos : 0 < (100 - τ) * (1 - 1 / 2 ^ 53 : ℚ) := lt_of_lt_of_le (by positivity) some_left
  have more : (100 - τ) * (1 - 1 / 2 ^ 53) ≤ (100 - τ) * (1 - 1 / 2 ^ 53) * μ :=
    le_mul_of_one_le_right left_pos.le one_le
  have scaled := Decimal.atLeast_mul (atLeast_left target below) hr left_pos (by linarith)
    (least_normal_le (le_trans (by norm_num) (some_left.trans more)))
  have some_scaled : (1 : ℚ) / 2 ^ 48 ≤ (100 - τ) * (1 - 1 / 2 ^ 53) * μ * (1 - 1 / 2 ^ 53) :=
    calc (1 : ℚ) / 2 ^ 48 ≤ 1 / 2 ^ 47 * (1 - 1 / 2 ^ 53) := by norm_num
      _ ≤ (100 - τ) * (1 - 1 / 2 ^ 53) * μ * (1 - 1 / 2 ^ 53) :=
        mul_le_mul_of_nonneg_right (some_left.trans more) (by norm_num)
  have scaled_pos : 0 < (100 - τ) * (1 - 1 / 2 ^ 53 : ℚ) * μ * (1 - 1 / 2 ^ 53) :=
    lt_of_lt_of_le (by positivity) some_scaled
  have large : (1 : ℚ) / 2 ^ 60 ≤
      (100 - τ) * (1 - 1 / 2 ^ 53) * μ * (1 - 1 / 2 ^ 53) * (1 / 100) :=
    calc (1 : ℚ) / 2 ^ 60 ≤ 1 / 2 ^ 48 * (1 / 100) := by norm_num
      _ ≤ (100 - τ) * (1 - 1 / 2 ^ 53) * μ * (1 - 1 / 2 ^ 53) * (1 / 100) :=
        mul_le_mul_of_nonneg_right some_scaled (by norm_num)
  have taken := Decimal.atLeast_mul scaled atLeast_hundredth scaled_pos (by norm_num)
    (least_normal_le large)
  refine taken.mono (le_of_eq ?_)
  ring

/-- Without a burn rate there is one step less. -/
theorem atLeast_taken_once :
    AtLeast ((100 - τ) * 1 / 100 * (1 - 1 / 2 ^ 53) ^ 3)
      (Reading.ofFloat ((100.0 - t) * 0.01)) := by
  have some_left := left_ge target below
  have left_pos : 0 < (100 - τ) * (1 - 1 / 2 ^ 53 : ℚ) := lt_of_lt_of_le (by positivity) some_left
  have large : (1 : ℚ) / 2 ^ 60 ≤ (100 - τ) * (1 - 1 / 2 ^ 53) * (1 / 100) :=
    calc (1 : ℚ) / 2 ^ 60 ≤ 1 / 2 ^ 47 * (1 / 100) := by norm_num
      _ ≤ (100 - τ) * (1 - 1 / 2 ^ 53) * (1 / 100) :=
        mul_le_mul_of_nonneg_right some_left (by norm_num)
  have taken := Decimal.atLeast_mul (atLeast_left target below) atLeast_hundredth left_pos
    (by norm_num) (least_normal_le large)
  refine taken.mono ?_
  have factor : (1 - 1 / 2 ^ 53 : ℚ) ^ 3 ≤ (1 - 1 / 2 ^ 53) ^ 2 := by norm_num
  calc (100 - τ) * 1 / 100 * (1 - 1 / 2 ^ 53) ^ 3
      ≤ (100 - τ) * 1 / 100 * (1 - 1 / 2 ^ 53) ^ 2 :=
        mul_le_mul_of_nonneg_left factor (by linarith)
    _ = (100 - τ) * (1 - 1 / 2 ^ 53) * (1 / 100) * (1 - 1 / 2 ^ 53) := by ring

theorem large_taken {μ : ℚ} (one_le : 1 ≤ μ) : 6 / 5 * (1 / 2 ^ 53) ≤ (100 - τ) * μ / 100 := by
  have distance := distance_to_hundred target below
  have more : 1 / 2 ^ 46 * 1 ≤ (100 - τ) * μ :=
    mul_le_mul distance one_le zero_le_one (by linarith)
  rw [le_div_iff₀ (by norm_num)]
  refine le_trans ?_ more
  norm_num

variable (nonneg : 0 ≤ τ)

include nonneg

/-- The threshold for a burn window is limited. -/
theorem limited_window {rate : Float} (one_le : 1.0 ≤ rate) :
    Limited τ rate (Decimal.general (1.0 - (100.0 - t) * rate * 0.01) precision).toList := by
  have at_least := Decimal.atLeast_of_le number?_one one_le
  cases number : number? rate with
  | some μ =>
    have one_le' : 1 ≤ μ := (Decimal.le_iff number?_one number).1 one_le
    refine limited_general nonneg below.le one_le' (fun m is => ?_)
      (large_taken target below one_le')
      (atLeast_taken target below one_le' (Decimal.atLeast_of_number number le_rfl))
    exact (Option.some.inj (is.symm.trans number)).le
  | none =>
    -- an infinite rate takes away more than any
    refine limited_general nonneg below.le le_rfl (fun m is => ?_)
      (large_taken target below le_rfl) (atLeast_taken target below le_rfl at_least)
    rw [number] at is
    cases is

/-- The threshold for a window without a burn rate of its own is a number. -/
theorem exists_fixed : ∃ v, number? (1.0 - (100.0 - t) * 0.01) = some v := by
  have size : |100 - τ| ≤ 100 := by
    rw [abs_of_pos (sub_pos.2 below)]
    linarith
  obtain ⟨left, number, left_le⟩ :=
    (Decimal.near_sub Decimal.number?_hundred target).exists_number (by linarith)
  have some_left : 1 / 2 ^ 47 ≤ left :=
    (left_ge target below).trans ((atLeast_left target below).le_of_number number)
  have left_pos : 0 < left := lt_of_lt_of_le (by positivity) some_left
  rw [abs_of_pos left_pos] at left_le
  -- a hundredth of what is left is neither too small nor too large
  have part : |left * (5764607523034235 * 2 ^ (-59 : Int))| =
      left * (5764607523034235 * 2 ^ (-59 : Int)) := abs_of_pos (by positivity)
  have large : (1 : ℚ) / 2 ^ 60 ≤ left * (5764607523034235 * 2 ^ (-59 : Int)) :=
    calc (1 : ℚ) / 2 ^ 60 ≤ 1 / 2 ^ 47 * (5764607523034235 * 2 ^ (-59 : Int)) := by norm_num
      _ ≤ left * (5764607523034235 * 2 ^ (-59 : Int)) :=
        mul_le_mul_of_nonneg_right some_left (by positivity)
  have small : left * (5764607523034235 * 2 ^ (-59 : Int)) ≤ left :=
    mul_le_of_le_one_right left_pos.le (by norm_num)
  have enough : (2 : ℚ) ^ (-1022 : Int) ≤ |left * (5764607523034235 * 2 ^ (-59 : Int))| := by
    rw [part]
    exact least_normal_le large
  obtain ⟨taken, number', taken_le⟩ :=
    (Decimal.near_mul number number?_hundredth (.inr enough)).exists_number (by linarith)
  have rest : |1 - taken| ≤ 1 + |taken| := by
    have triangle := abs_sub 1 taken
    rwa [abs_one] at triangle
  obtain ⟨v, number'', -⟩ :=
    (Decimal.near_sub number?_one number').exists_number (by linarith)
  exact ⟨v, number''⟩

/-- This number is limited as it is written. -/
theorem limited_fixed :
    ∃ p, denoted? (Decimal.general (1.0 - (100.0 - t) * 0.01) precision).toList = some p ∧
      ∀ q, Limit τ 1.0 q → p ≤ q := by
  have limited := limited_general nonneg below.le le_rfl
    (fun m is => (Option.some.inj (is.symm.trans number?_one)).le)
    (large_taken target below le_rfl) (atLeast_taken_once target below)
  obtain ⟨v, number⟩ := exists_fixed target below nonneg
  obtain ⟨p, read, -⟩ := Decimal.exists_denoted?_general number 3
  generalize shown : (Decimal.general (1.0 - (100.0 - t) * 0.01) precision).toList = cs at limited
  rw [precision] at shown
  rw [shown] at read
  cases limited with
  | finite read' le => exact ⟨_, read', le⟩
  | infinite => cases read

end

end ErrorBudget.Burn
