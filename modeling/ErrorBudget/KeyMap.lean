/-
  ErrorBudget.KeyMap

  Finite maps from text to values whose entries stand in strictly ascending
  order of their keys, so that maps with equal entries are equal.
-/

namespace ErrorBudget

/-- Entries in strictly ascending order of their keys. -/
def Ascending {β : Type} (entries : List (String × β)) : Prop :=
  entries.Pairwise fun a b => a.1 < b.1

/-- A finite map with text keys. -/
structure KeyMap (β : Type) where
  entries : List (String × β)
  ascending : Ascending entries

namespace KeyMap

variable {β : Type}

theorem ext {a b : KeyMap β} (h : a.entries = b.entries) : a = b := by
  cases a; cases b; simp_all

instance [DecidableEq β] : DecidableEq (KeyMap β) := fun a b =>
  if h : a.entries = b.entries then .isTrue (ext h)
  else .isFalse fun e => h (congrArg entries e)

/-- The map without entries. -/
def empty : KeyMap β := ⟨[], .nil⟩

instance : Inhabited (KeyMap β) := ⟨empty⟩

/-- Whether there are no entries. -/
def isEmpty (m : KeyMap β) : Bool := m.entries.isEmpty

/-- The number of entries. -/
def size (m : KeyMap β) : Nat := m.entries.length

/-- The keys, in ascending order. -/
def keys (m : KeyMap β) : List String := m.entries.map (·.1)

/-- The value of a key. -/
def get? (m : KeyMap β) (key : String) : Option β := m.entries.lookup key

/-- Whether the key has a value. -/
def contains (m : KeyMap β) (key : String) : Bool := (m.get? key).isSome

/-! ## Insertion -/

/-- The entries with `key` set to `value`, at its place in the order. -/
def insertEntry (key : String) (value : β) : List (String × β) → List (String × β)
  | [] => [(key, value)]
  | e :: es =>
    if key < e.1 then (key, value) :: e :: es
    else if key = e.1 then (key, value) :: es
    else e :: insertEntry key value es

theorem mem_insertEntry {key : String} {value : β} {e : String × β}
    {es : List (String × β)} (h : e ∈ insertEntry key value es) :
    e = (key, value) ∨ e ∈ es := by
  induction es with
  | nil => simpa [insertEntry] using h
  | cons d ds ih =>
    rw [insertEntry] at h
    split at h
    · simpa using h
    · split at h
      · rcases List.mem_cons.1 h with h | h
        · exact .inl h
        · exact .inr (List.mem_cons_of_mem _ h)
      · rcases List.mem_cons.1 h with h | h
        · exact .inr (h ▸ List.mem_cons_self)
        · exact (ih h).imp_right (List.mem_cons_of_mem _)

theorem lt_of_not_lt_of_ne {a b : String} (h : ¬ a < b) (ne : a ≠ b) : b < a := by
  refine Classical.byContradiction fun h' => ne ?_
  exact String.le_antisymm (String.not_lt.1 h') (String.not_lt.1 h)

theorem ascending_insertEntry (key : String) (value : β) {es : List (String × β)}
    (h : Ascending es) : Ascending (insertEntry key value es) := by
  induction es with
  | nil => simp [insertEntry, Ascending]
  | cons d ds ih =>
    obtain ⟨hd, ht⟩ := List.pairwise_cons.1 h
    rw [insertEntry]
    split
    · rename_i lt
      refine List.pairwise_cons.2 ⟨fun e he => ?_, h⟩
      rcases List.mem_cons.1 he with rfl | he
      · exact lt
      · exact String.lt_trans lt (hd e he)
    · split
      · rename_i eq
        exact List.pairwise_cons.2 ⟨fun e he => by simpa [eq] using hd e he, ht⟩
      · rename_i nlt ne
        refine List.pairwise_cons.2 ⟨fun e he => ?_, ih ht⟩
        rcases mem_insertEntry he with rfl | he
        · exact lt_of_not_lt_of_ne nlt ne
        · exact hd e he

/-- The map with `key` set to `value`. -/
def insert (m : KeyMap β) (key : String) (value : β) : KeyMap β :=
  ⟨insertEntry key value m.entries, ascending_insertEntry key value m.ascending⟩

/-- The map with `key` set to `value` unless it has a value already. -/
def insertNew (m : KeyMap β) (key : String) (value : β) : KeyMap β :=
  if m.contains key then m else m.insert key value

/-- The map with all given entries set, a later one over an earlier one. -/
def insertMany (m : KeyMap β) (entries : List (String × β)) : KeyMap β :=
  entries.foldl (fun m e => m.insert e.1 e.2) m

/-- All entries of both maps; `upper` decides where both have a key. -/
def union (m upper : KeyMap β) : KeyMap β :=
  m.insertMany upper.entries

/-- The map of the given entries, a later one over an earlier one. -/
def ofList (entries : List (String × β)) : KeyMap β :=
  empty.insertMany entries

end KeyMap

end ErrorBudget
