/-
  ErrorBudget.Proofs.KeyMap

  Looking up keys of finite maps: an entry that is set is found and hides the one
  before it, in a union the upper map is asked first, and of entries with different
  keys the order does not matter.
-/
import Mathlib.Algebra.Ring.Nat
import Mathlib.Data.List.Perm.Basic
import ErrorBudget.KeyMap

namespace ErrorBudget.KeyMap

variable {β : Type}

theorem lookup_cons (e : String × β) (es : List (String × β)) (k : String) :
    (e :: es).lookup k = if k = e.1 then some e.2 else es.lookup k := by
  rw [List.lookup_cons]
  by_cases same : k = e.1
  · simp [same]
  · simp [same, beq_false_of_ne same]

theorem lookup_insertEntry (key : String) (value : β) (es : List (String × β)) (k : String) :
    (insertEntry key value es).lookup k = if k = key then some value else es.lookup k := by
  induction es with
  | nil => rw [insertEntry, lookup_cons]
  | cons e es ih =>
    rw [insertEntry]
    by_cases below : key < e.1
    · rw [if_pos below, lookup_cons]
    · rw [if_neg below]
      by_cases taken : key = e.1
      · rw [if_pos taken, lookup_cons, lookup_cons, ← taken]
        by_cases same : k = key
        · rw [if_pos same, if_pos same]
        · rw [if_neg same, if_neg same, if_neg same]
      · rw [if_neg taken, lookup_cons, ih, lookup_cons]
        by_cases found : k = e.1
        · have other : k ≠ key := fun same => taken (same ▸ found)
          rw [if_pos found, if_neg other, if_pos found]
        · rw [if_neg found, if_neg found]

theorem get?_insert (m : KeyMap β) (key : String) (value : β) (k : String) :
    (m.insert key value).get? k = if k = key then some value else m.get? k :=
  lookup_insertEntry key value m.entries k

theorem contains_empty (k : String) : (empty : KeyMap β).contains k = false :=
  rfl

/-- A key is new to a map with one more entry if it is neither that of the entry nor old. -/
theorem contains_insert_eq_false_iff (m : KeyMap β) (key : String) (value : β) (k : String) :
    (m.insert key value).contains k = false ↔ k ≠ key ∧ m.contains k = false := by
  rw [contains, get?_insert]
  by_cases same : k = key
  · simp [same]
  · rw [if_neg same, contains]
    exact (and_iff_right same).symm

/-- A value that is only set if there is none hides nothing. -/
theorem get?_insertNew (m : KeyMap β) (key : String) (value : β) (k : String) :
    (m.insertNew key value).get? k = (m.get? k).or (if k = key then some value else none) := by
  rw [insertNew, contains]
  cases found : m.get? key with
  | some old =>
    rw [Option.isSome_some, if_pos rfl]
    by_cases same : k = key
    · rw [same, found, Option.some_or]
    · rw [if_neg same, Option.or_none]
  | none =>
    rw [Option.isSome_none, if_neg Bool.false_ne_true, get?_insert]
    by_cases same : k = key
    · rw [if_pos same, if_pos same, same, found, Option.none_or]
    · rw [if_neg same, if_neg same, Option.or_none]

theorem isSome_lookup_iff (es : List (String × β)) (k : String) :
    (es.lookup k).isSome = true ↔ k ∈ es.map Prod.fst := by
  rw [List.lookup_isSome_iff, List.mem_map]
  simp only [beq_iff_eq, eq_comm (b := k)]

theorem lookup_eq_none_of_not_mem {es : List (String × β)} {key : String}
    (new : key ∉ es.map Prod.fst) : es.lookup key = none := by
  rwa [← isSome_lookup_iff, Option.not_isSome_iff_eq_none] at new

theorem lookup_eq_none_of_lt {es : List (String × β)} {key : String}
    (below : ∀ e ∈ es, key < e.1) : es.lookup key = none := by
  refine lookup_eq_none_of_not_mem fun listed => ?_
  obtain ⟨e, he, same⟩ := List.mem_map.1 listed
  exact String.lt_irrefl key (same ▸ below e he)

/-- Entries with different keys hide what the map has for their keys. -/
theorem get?_insertMany {es : List (String × β)} (distinct : (es.map Prod.fst).Nodup)
    (m : KeyMap β) (k : String) : (m.insertMany es).get? k = (es.lookup k).or (m.get? k) := by
  induction es generalizing m with
  | nil => rfl
  | cons e es ih =>
    obtain ⟨new, others⟩ := List.nodup_cons.1 distinct
    change ((m.insert e.1 e.2).insertMany es).get? k = _
    rw [ih others, get?_insert, lookup_cons]
    by_cases same : k = e.1
    · -- no later entry has the same key
      have no_other : es.lookup k = none := same ▸ lookup_eq_none_of_not_mem new
      rw [if_pos same, if_pos same, no_other, Option.none_or, Option.some_or]
    · rw [if_neg same, if_neg same]

theorem keys_ascending (m : KeyMap β) : m.keys.Pairwise (· < ·) :=
  List.pairwise_map.2 m.ascending

theorem keys_nodup (m : KeyMap β) : m.keys.Nodup :=
  m.keys_ascending.imp String.ne_of_lt

theorem mem_keys_iff (m : KeyMap β) (k : String) : k ∈ m.keys ↔ ∃ v, m.get? k = some v := by
  rw [← Option.isSome_iff_exists]
  exact (isSome_lookup_iff m.entries k).symm

/-- The upper map of a union decides, and the lower one is asked where it has nothing. -/
theorem get?_union (m upper : KeyMap β) (k : String) :
    (m.union upper).get? k = (upper.get? k).or (m.get? k) :=
  get?_insertMany upper.keys_nodup m k

/-! ## Entries in any order -/

/-- Among entries with different keys, a key is looked up to the entry that has it. -/
theorem lookup_eq_some_iff {es : List (String × β)} (distinct : (es.map Prod.fst).Nodup)
    (k : String) (v : β) : es.lookup k = some v ↔ (k, v) ∈ es := by
  induction es with
  | nil => simp
  | cons e es ih =>
    obtain ⟨new, others⟩ := List.nodup_cons.1 distinct
    rw [lookup_cons, List.mem_cons]
    by_cases first : k = e.1
    · -- no later entry has the key of the first
      have absent : (k, v) ∉ es := fun later => new (first ▸ List.mem_map_of_mem later)
      rw [if_pos first, or_iff_left absent, first]
      simp [Prod.ext_iff, eq_comm]
    · rw [if_neg first, ih others]
      simp [Prod.ext_iff, first]

/-- The order of entries with different keys does not matter to a look-up. -/
theorem lookup_perm {es fs : List (String × β)} (distinct : (es.map Prod.fst).Nodup)
    (order : es.Perm fs) (k : String) : fs.lookup k = es.lookup k := by
  have distinct' : (fs.map Prod.fst).Nodup := (order.map Prod.fst).nodup_iff.1 distinct
  refine Option.ext fun v => ?_
  rw [lookup_eq_some_iff distinct', lookup_eq_some_iff distinct, order.mem_iff]

/-! ## Maps by their look-ups -/

theorem lookup_first (e : String × β) (es : List (String × β)) :
    (e :: es).lookup e.1 = some e.2 := by
  rw [lookup_cons, if_pos rfl]

/-- The first keys of two maps with the same look-ups are the same: the smaller one of two
    different keys would be found in one map only. -/
theorem first_key_eq {e f : String × β} {es fs : List (String × β)} (he : Ascending (e :: es))
    (hf : Ascending (f :: fs)) (same : ∀ k, (e :: es).lookup k = (f :: fs).lookup k) :
    e.1 = f.1 := by
  have not_below {a b : String × β} {as bs : List (String × β)} (hb : Ascending (b :: bs))
      (found : (b :: bs).lookup a.1 = (a :: as).lookup a.1) : ¬ a.1 < b.1 := by
    intro below
    have above : ∀ d ∈ b :: bs, a.1 < d.1 := List.forall_mem_cons.2
      ⟨below, fun d hd => String.lt_trans below ((List.pairwise_cons.1 hb).1 d hd)⟩
    rw [lookup_eq_none_of_lt above, lookup_first] at found
    cases found
  exact String.le_antisymm (String.not_lt.1 (not_below he (same f.1)))
    (String.not_lt.1 (not_below hf (same e.1).symm))

theorem entries_eq_of_lookup {es fs : List (String × β)} (he : Ascending es)
    (hf : Ascending fs) (same : ∀ k, es.lookup k = fs.lookup k) : es = fs := by
  induction es generalizing fs with
  | nil =>
    cases fs with
    | nil => rfl
    | cons f fs =>
      have found := same f.1
      rw [lookup_first] at found
      cases found
  | cons e es ih =>
    cases fs with
    | nil =>
      have found := same e.1
      rw [lookup_first] at found
      cases found
    | cons f fs =>
      have key := first_key_eq he hf same
      have value : some e.2 = some f.2 := by
        rw [← lookup_first e es, same, key, lookup_first]
      obtain ⟨above_e, tail_e⟩ := List.pairwise_cons.1 he
      obtain ⟨above_f, tail_f⟩ := List.pairwise_cons.1 hf
      -- the first key is in neither tail, and any other is looked up in the tails
      have tails (k : String) : es.lookup k = fs.lookup k := by
        by_cases first : k = e.1
        · rw [first, lookup_eq_none_of_lt above_e, key, lookup_eq_none_of_lt above_f]
        · have found := same k
          rwa [lookup_cons, if_neg first, lookup_cons, if_neg (key ▸ first)] at found
      rw [ih tail_e tail_f tails, Prod.ext key (Option.some.inj value)]

/-- Maps in which every key has the same value are equal. -/
theorem ext_get? {a b : KeyMap β} (h : ∀ k, a.get? k = b.get? k) : a = b :=
  ext (entries_eq_of_lookup a.ascending b.ascending h)

theorem get?_empty (k : String) : (empty : KeyMap β).get? k = none :=
  rfl

theorem empty_union (m : KeyMap β) : empty.union m = m :=
  ext_get? fun k => by rw [get?_union, get?_empty, Option.or_none]

/-- A key that is set below another map can as well be set in a map between the two. -/
theorem insert_union (m upper : KeyMap β) (key : String) (value : β) :
    (m.insert key value).union upper = m.union ((empty.insert key value).union upper) := by
  refine ext_get? fun k => ?_
  rw [get?_union, get?_union, get?_union, get?_insert, get?_insert, get?_empty, Option.or_assoc]
  split <;> rfl

/-- The entries of a map, put in in any order, make the map. -/
theorem insertMany_perm_entries (m : KeyMap β) {es : List (String × β)}
    (order : m.entries.Perm es) : empty.insertMany es = m := by
  have distinct : (es.map Prod.fst).Nodup := (order.map Prod.fst).nodup_iff.1 m.keys_nodup
  refine ext_get? fun k => ?_
  rw [get?_insertMany distinct, lookup_perm m.keys_nodup order, get?_empty, Option.or_none, get?]

/-! ## Sums over all entries -/

/-- The sum of a weight of the values. -/
def total (weight : β → Nat) (m : KeyMap β) : Nat :=
  (m.entries.map fun e => weight e.2).sum

theorem sum_insertEntry (weight : β → Nat) (key : String) (value : β) {es : List (String × β)}
    (h : Ascending es) :
    ((insertEntry key value es).map fun e => weight e.2).sum
        + ((es.lookup key).map weight).getD 0 =
      (es.map fun e => weight e.2).sum + weight value := by
  induction es with
  | nil => simp [insertEntry]
  | cons e es ih =>
    obtain ⟨above, tail⟩ := List.pairwise_cons.1 h
    rw [insertEntry, lookup_cons]
    split
    · -- the key is new, since all keys that follow are greater
      rename_i below
      have first : key ≠ e.1 := fun same => String.lt_irrefl key (same ▸ below)
      have absent : es.lookup key = none :=
        lookup_eq_none_of_lt fun d hd => String.lt_trans below (above d hd)
      rw [if_neg first, absent]
      simp only [List.map_cons, List.sum_cons, Option.map_none, Option.getD_none]
      omega
    · split
      · simp only [List.map_cons, List.sum_cons, Option.map_some, Option.getD_some]
        omega
      · have others := ih tail
        simp only [List.map_cons, List.sum_cons]
        omega

/-- Setting a key trades the weight of its old value for that of the new one. -/
theorem total_insert (weight : β → Nat) (m : KeyMap β) (key : String) (value : β) :
    (m.insert key value).total weight + ((m.get? key).map weight).getD 0 =
      m.total weight + weight value :=
  sum_insertEntry weight key value m.ascending

end ErrorBudget.KeyMap
