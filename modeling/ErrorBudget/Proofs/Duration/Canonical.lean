/-
  ErrorBudget.Proofs.Duration.Canonical

  The written form of a span is its canonical one: some of each unit that is written, the
  units in descending order, and below each unit less than one of it. Only one list of
  components is like that. Reading it back adds up the components in words of 64 bits, of
  which none overflows.
-/
import ErrorBudget.Proofs.Duration.RoundTrip
import ErrorBudget.Slo.Layout

namespace ErrorBudget.Duration

/-! ## Sums in words of 64 bits -/

/-- A number as a word of 64 bits, if it fits into one. -/
def word? (n : Nat) : Option UInt64 :=
  if n < Nat.pow 2 64 then some (UInt64.ofNat n) else none

/-- Adds a component to a sum. The amount, its length in milliseconds and the new sum all
    have to fit. -/
def addWord? (sum : UInt64) (c : Component) : Option UInt64 := do
  let amount ← word? c.amount
  let length ← word? (amount.toNat * c.unit.millis)
  word? (sum.toNat + length.toNat)

/-- The length of all components together, added up from the first to the last. -/
def wordTotal? (cs : List Component) : Option UInt64 :=
  cs.foldlM addWord? 0

theorem word?_of_lt {n : Nat} (h : n < Nat.pow 2 64) : word? n = some (UInt64.ofNat n) :=
  if_pos h

theorem word?_of_not_lt {n : Nat} (h : ¬ n < Nat.pow 2 64) : word? n = none :=
  if_neg h

theorem toNat_ofNat_of_lt {n : Nat} (h : n < Nat.pow 2 64) : (UInt64.ofNat n).toNat = n := by
  rw [UInt64.toNat_ofNat']
  exact Nat.mod_eq_of_lt h

theorem Scale.millis_pos (unit : Scale) : 0 < unit.millis := by
  cases unit <;> decide

/-- A component can be added exactly if the new sum fits: the amount and its length are no
    greater. -/
theorem addWord?_eq (sum : UInt64) (c : Component) :
    addWord? sum c = word? (sum.toNat + c.millis) := by
  have amount_le : c.amount ≤ c.millis := Nat.le_mul_of_pos_right _ c.unit.millis_pos
  have length_le : c.millis ≤ sum.toNat + c.millis := Nat.le_add_left _ _
  rw [addWord?, Option.bind_eq_bind]
  by_cases amount : c.amount < Nat.pow 2 64
  · have length_eq : (UInt64.ofNat c.amount).toNat * c.unit.millis = c.millis := by
      rw [toNat_ofNat_of_lt amount, Component.millis]
    rw [word?_of_lt amount, Option.bind_some, length_eq]
    by_cases length : c.millis < Nat.pow 2 64
    · rw [word?_of_lt length, Option.bind_some, toNat_ofNat_of_lt length]
    · -- without a length there is no sum, and the sum would be greater
      rw [word?_of_not_lt length, word?_of_not_lt fun fits => length (length_le.trans_lt fits)]
      rfl
  · rw [word?_of_not_lt amount,
      word?_of_not_lt fun fits => amount ((amount_le.trans length_le).trans_lt fits)]
    rfl

/-- Adding up word by word fails only if the exact sum is too large. -/
theorem foldlM_addWord? (cs : List Component) (sum : UInt64) :
    cs.foldlM addWord? sum = word? (sum.toNat + total cs) := by
  induction cs generalizing sum with
  | nil =>
    have fits : sum.toNat < Nat.pow 2 64 := sum.toNat_lt
    rw [show total [] = 0 from rfl, Nat.add_zero, word?_of_lt fits, UInt64.ofNat_toNat]
    rfl
  | cons c cs ih =>
    have split : total (c :: cs) = c.millis + total cs := rfl
    rw [List.foldlM_cons, addWord?_eq, split, ← Nat.add_assoc]
    by_cases fits : sum.toNat + c.millis < Nat.pow 2 64
    · rw [word?_of_lt fits, Option.bind_eq_bind, Option.bind_some, ih, toNat_ofNat_of_lt fits]
    · have too_large : ¬ sum.toNat + c.millis + total cs < Nat.pow 2 64 := fun small =>
        fits (Nat.lt_of_le_of_lt (Nat.le_add_right _ _) small)
      rw [word?_of_not_lt fits, word?_of_not_lt too_large]
      rfl

theorem wordTotal?_eq (cs : List Component) : wordTotal? cs = word? (total cs) := by
  rw [wordTotal?, foldlM_addWord?]
  exact congrArg word? (Nat.zero_add _)

/-! ## Canonical components -/

/-- Components in some units that are the canonical form of a length: none of them is of no
    amount, their units descend, and what they have below a unit is less than one of it. -/
structure IsCanonical (units : List Scale) (n : Nat) (cs : List Component) : Prop where
  listed : ∀ c ∈ cs, c.unit ∈ units
  amount_pos : ∀ c ∈ cs, 0 < c.amount
  descending : cs.Pairwise fun c d => d.unit.millis < c.unit.millis
  below : ∀ u ∈ units, total (cs.filter fun c => c.unit.millis < u.millis) < u.millis
  total_eq : total cs = n

/-- Each unit is longer than those after it. -/
def Descending (units : List Scale) : Prop :=
  units.Pairwise fun u v => v.millis < u.millis

theorem descending_all : Descending Scale.all := by
  rw [Descending]
  decide

theorem total_le_of_sublist {cs ds : List Component} (h : cs.Sublist ds) :
    total cs ≤ total ds := by
  induction h with
  | slnil => exact Nat.le_refl _
  | cons d _ ih => exact Nat.le_add_left_of_le ih
  | cons_cons d _ ih => exact Nat.add_le_add_left ih _

/-- A length that is less than a unit has nothing of it. -/
theorem decompose_cons_of_lt {u : Scale} {n : Nat} (h : n < u.millis) (units : List Scale) :
    decompose (u :: units) n = decompose units n := by
  rw [decompose, Nat.div_eq_of_lt h, Nat.mod_eq_of_lt h, if_pos rfl]

/-- Some of a unit and less than one more is just that much of it. -/
theorem decompose_cons_add {u : Scale} {amount n : Nat} (some_written : amount ≠ 0)
    (h : n < u.millis) (units : List Scale) :
    decompose (u :: units) (amount * u.millis + n) = ⟨amount, u⟩ :: decompose units n := by
  have quotient : (amount * u.millis + n) / u.millis = amount := by
    rw [Nat.mul_comm, Nat.mul_add_div u.millis_pos, Nat.div_eq_of_lt h, Nat.add_zero]
  have remainder : (amount * u.millis + n) % u.millis = n := by
    rw [Nat.mul_comm, Nat.mul_add_mod, Nat.mod_eq_of_lt h]
  rw [decompose, quotient, remainder, if_neg some_written]

/-! ### What is written is canonical -/

theorem total_decompose_le (units : List Scale) (n : Nat) : total (decompose units n) ≤ n := by
  induction units generalizing n with
  | nil => exact Nat.zero_le n
  | cons unit units ih =>
    have rest := ih (n % unit.millis)
    have whole := Nat.div_add_mod' n unit.millis
    rw [decompose]
    split
    · exact rest.trans (Nat.mod_le _ _)
    · change n / unit.millis * unit.millis + total (decompose units (n % unit.millis)) ≤ n
      omega

theorem amount_pos_of_mem_decompose {units : List Scale} {n : Nat} {c : Component}
    (h : c ∈ decompose units n) : 0 < c.amount := by
  induction units generalizing n with
  | nil => cases h
  | cons unit units ih =>
    rw [decompose] at h
    split at h
    · exact ih h
    · rename_i some_left
      rcases List.mem_cons.1 h with rfl | h
      · exact Nat.pos_of_ne_zero some_left
      · exact ih h

/-- Below a unit, less than one of it is written. -/
theorem total_below_decompose {units : List Scale} (ordered : Descending units) {u : Scale}
    (hu : u ∈ units) (n : Nat) :
    total ((decompose units n).filter fun c => c.unit.millis < u.millis) < u.millis := by
  induction units generalizing n with
  | nil => cases hu
  | cons v units ih =>
    obtain ⟨longest, ordered⟩ := List.pairwise_cons.1 ordered
    -- the first unit is not below any of the units
    have not_below : ¬ v.millis < u.millis := by
      rcases List.mem_cons.1 hu with rfl | hu
      · exact Nat.lt_irrefl _
      · exact Nat.lt_asymm (longest u hu)
    have without_first : (decompose (v :: units) n).filter (fun c => c.unit.millis < u.millis) =
        (decompose units (n % v.millis)).filter fun c => c.unit.millis < u.millis := by
      rw [decompose]
      split
      · rfl
      · exact List.filter_cons_of_neg (by simpa using not_below)
    rw [without_first]
    rcases List.mem_cons.1 hu with rfl | hu
    · calc total ((decompose units (n % u.millis)).filter fun c => c.unit.millis < u.millis)
          ≤ total (decompose units (n % u.millis)) := total_le_of_sublist List.filter_sublist
        _ ≤ n % u.millis := total_decompose_le units _
        _ < u.millis := Nat.mod_lt _ u.millis_pos
    · exact ih ordered hu _

theorem isCanonical_decompose (n : Nat) : IsCanonical Scale.all n (decompose Scale.all n) where
  listed _ h := (decompose_sublist Scale.all n).subset (List.mem_map_of_mem h)
  amount_pos _ h := amount_pos_of_mem_decompose h
  descending := List.pairwise_map.1 (descending_all.sublist (decompose_sublist Scale.all n))
  below _ hu := total_below_decompose descending_all hu n
  total_eq := total_decompose_all n

/-! ### Nothing else is canonical -/

namespace IsCanonical

variable {u : Scale} {units : List Scale} {n : Nat} {c : Component} {cs : List Component}

/-- Without the first unit, components in the others are left, of less than one of it. -/
theorem of_unwritten (h : IsCanonical (u :: units) n cs) (ordered : Descending (u :: units))
    (unwritten : ∀ c ∈ cs, c.unit ≠ u) : IsCanonical units n cs ∧ n < u.millis := by
  obtain ⟨longest, -⟩ := List.pairwise_cons.1 ordered
  have listed : ∀ c ∈ cs, c.unit ∈ units := fun c hc =>
    (List.mem_cons.1 (h.listed c hc)).resolve_left (unwritten c hc)
  have all_below : (cs.filter fun c => c.unit.millis < u.millis) = cs :=
    List.filter_eq_self.2 fun c hc => decide_eq_true (longest _ (listed c hc))
  have short := h.below u List.mem_cons_self
  rw [all_below, h.total_eq] at short
  exact ⟨⟨listed, h.amount_pos, h.descending,
    fun v hv => h.below v (List.mem_cons_of_mem _ hv), h.total_eq⟩, short⟩

/-- After a component of the first unit come components in the others, of less than one
    of it. -/
theorem tail (h : IsCanonical (c.unit :: units) n (c :: cs))
    (ordered : Descending (c.unit :: units)) :
    IsCanonical units (total cs) cs ∧ total cs < c.unit.millis := by
  obtain ⟨longest, -⟩ := List.pairwise_cons.1 ordered
  obtain ⟨shorter, descending⟩ := List.pairwise_cons.1 h.descending
  have listed : ∀ d ∈ cs, d.unit ∈ units := fun d hd =>
    (List.mem_cons.1 (h.listed d (List.mem_cons_of_mem _ hd))).resolve_left fun same =>
      Nat.lt_irrefl _ (same ▸ shorter d hd)
  have below (v : Scale) (hv : v ∈ c.unit :: units) (not_longer : v.millis ≤ c.unit.millis) :
      total (cs.filter fun d => d.unit.millis < v.millis) < v.millis := by
    have bound := h.below v hv
    rwa [List.filter_cons_of_neg (by simpa using not_longer)] at bound
  have all_below : (cs.filter fun d => d.unit.millis < c.unit.millis) = cs :=
    List.filter_eq_self.2 fun d hd => decide_eq_true (shorter d hd)
  have short := below c.unit List.mem_cons_self (Nat.le_refl _)
  rw [all_below] at short
  exact ⟨⟨listed, fun d hd => h.amount_pos d (List.mem_cons_of_mem _ hd), descending,
    fun v hv => below v (List.mem_cons_of_mem _ hv) (longest v hv).le, rfl⟩, short⟩

/-- If the first component is not of the first unit, none is. -/
theorem unwritten_of_first (h : IsCanonical (u :: units) n (c :: cs))
    (ordered : Descending (u :: units)) (first : c.unit ≠ u) : ∀ d ∈ c :: cs, d.unit ≠ u := by
  have shorter := (List.pairwise_cons.1 h.descending).1
  have listed := (List.mem_cons.1 (h.listed c List.mem_cons_self)).resolve_left first
  have longest := (List.pairwise_cons.1 ordered).1 c.unit listed
  exact List.forall_mem_cons.2 ⟨first, fun d hd same =>
    Nat.lt_asymm longest (same ▸ shorter d hd)⟩

/-- Canonical components are the ones that are written for their length. -/
theorem eq_decompose (h : IsCanonical units n cs) (ordered : Descending units) :
    cs = decompose units n := by
  induction units generalizing n cs with
  | nil => exact List.eq_nil_iff_forall_not_mem.2 fun c hc => List.not_mem_nil (h.listed c hc)
  | cons u units ih =>
    have others : Descending units := (List.pairwise_cons.1 ordered).2
    by_cases unwritten : ∀ c ∈ cs, c.unit ≠ u
    · obtain ⟨rest, short⟩ := h.of_unwritten ordered unwritten
      rw [decompose_cons_of_lt short]
      exact ih rest others
    · -- the component of this unit is the first, and the others are less than one of it
      cases cs with
      | nil => exact absurd (List.forall_mem_nil _) unwritten
      | cons c cs =>
        obtain rfl : c.unit = u := not_not.1 fun first =>
          unwritten (h.unwritten_of_first ordered first)
        obtain ⟨rest, short⟩ := h.tail ordered
        have some_written : c.amount ≠ 0 := (h.amount_pos c List.mem_cons_self).ne'
        rw [← h.total_eq]
        change c :: cs = decompose (c.unit :: units) (c.amount * c.unit.millis + total cs)
        rw [decompose_cons_add some_written short, ← ih rest others]

end IsCanonical

/-- There is one canonical form of a length, the one that is written. -/
theorem isCanonical_iff (n : Nat) (cs : List Component) :
    IsCanonical Scale.all n cs ↔ cs = decompose Scale.all n := by
  constructor
  · exact fun h => h.eq_decompose descending_all
  · rintro rfl
    exact isCanonical_decompose n

/-! ## Spans -/

theorem text_zero : text zero = "0s" := by
  decide

/-- A value that holds the written form of a span is read as the span, in any format. -/
theorem duration_of_atom {σ : Type} [Source σ] {v : σ} {d : Duration}
    (h : Source.atom v = pure (.text d.text)) : Source.duration v = pure d := by
  rw [Source.duration, h, pure_bind]
  simp only [pure_bind, read_text]

/-- Every span is read back from its written form, and no sum on the way is too large for 64
    bits. The written form is `0s` for the empty span and else the one canonical form. So
    different spans are written differently, and a span that is laid out as a value is read
    from it. -/
theorem canonical_round_trip :
    (∀ d : Duration,
      read d.text = .ok d ∧
      (readComponents? Scale.all d.text.toList).bind wordTotal? = some d.millis ∧
      ∃ cs, (∀ ds, IsCanonical Scale.all d.millis.toNat ds ↔ ds = cs) ∧
        d.text = if d = zero then "0s" else String.ofList (cs.flatMap Component.text)) ∧
    Function.Injective text ∧
    ∀ d : Duration, Tree.read Source.duration d.toTree = .ok d := by
  refine ⟨fun d => ⟨read_text d, ?_, decompose Scale.all d.millis.toNat, isCanonical_iff _, ?_⟩,
    text_injective, fun d => ?_⟩
  · obtain ⟨cs, -, ordered, written, length⟩ := exists_components d
    have fits : d.millis.toNat < Nat.pow 2 64 := d.millis.toNat_lt
    rw [text, String.toList_ofList, written, readComponents?_flatMap_text ordered,
      Option.bind_some, wordTotal?_eq, length, word?_of_lt fits, UInt64.ofNat_toNat]
  · by_cases none_left : d = zero
    · rw [if_pos none_left, none_left, text_zero]
    · have some_left : ¬ d.isZero = true := fun empty => none_left (congrArg mk (eq_of_beq empty))
      rw [if_neg none_left, text, chars, if_neg some_left]
  · rw [Tree.read, duration_of_atom rfl]
    rfl

end ErrorBudget.Duration
