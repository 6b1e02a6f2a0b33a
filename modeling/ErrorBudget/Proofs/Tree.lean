/-
  ErrorBudget.Proofs.Tree

  Reading values out of trees in which the entries of maps may stand in any order. A reader
  that finds a text, a number or a truth value finds it, a list is read item by item, and a
  record is read from entries that hold its fields, whichever comes first.
-/
import Mathlib.Data.List.Forall2
import ErrorBudget.Proofs.Duration.Canonical
import ErrorBudget.Proofs.KeyMap
import ErrorBudget.Slo.Layout
import ErrorBudget.Tree

namespace ErrorBudget.Tree

/-! ## Order of entries -/

mutual

/-- Trees that differ at most in the order in which maps, at any depth, have their entries. -/
inductive Reordered : Tree → Tree → Prop where
  | refl (t : Tree) : Reordered t t
  | list {ts us : List Tree} (items : List.Forall₂ Reordered ts us) :
      Reordered (.list ts) (.list us)
  | map {es fs gs : List (String × Tree)} (entries : List.Forall₂ SameEntry es fs)
      (order : fs.Perm gs) : Reordered (.map es) (.map gs)

/-- Entries with one key, whose values differ at most in the order of entries. -/
inductive SameEntry : String × Tree → String × Tree → Prop where
  | mk (key : String) {t u : Tree} (value : Reordered t u) : SameEntry (key, t) (key, u)

end

theorem SameEntry.refl (e : String × Tree) : SameEntry e e :=
  .mk e.1 (.refl e.2)

theorem SameEntry.key_eq {e f : String × Tree} (h : SameEntry e f) : f.1 = e.1 := by
  cases h
  rfl

theorem SameEntry.value {e f : String × Tree} (h : SameEntry e f) : Reordered e.2 f.2 := by
  cases h with
  | mk _ value => exact value

theorem keys_eq {es fs : List (String × Tree)} (h : List.Forall₂ SameEntry es fs) :
    fs.map Prod.fst = es.map Prod.fst := by
  induction h with
  | nil => rfl
  | cons same _ ih => rw [List.map_cons, List.map_cons, same.key_eq, ih]

theorem exists_sameEntry {es fs : List (String × Tree)} (h : List.Forall₂ SameEntry es fs)
    {f : String × Tree} (listed : f ∈ fs) : ∃ e ∈ es, SameEntry e f := by
  induction h with
  | nil => cases listed
  | cons same _ ih =>
    rcases List.mem_cons.1 listed with rfl | listed
    · exact ⟨_, List.mem_cons_self, same⟩
    · obtain ⟨e, he, found⟩ := ih listed
      exact ⟨e, List.mem_cons_of_mem _ he, found⟩

namespace Reordered

theorem text_eq {s : String} {u : Tree} (h : Reordered (.text s) u) : u = .text s := by
  cases h
  rfl

theorem exists_items {ts : List Tree} {u : Tree} (h : Reordered (.list ts) u) :
    ∃ us, u = .list us ∧ List.Forall₂ Reordered ts us := by
  cases h with
  | refl => exact ⟨ts, rfl, List.forall₂_same.2 fun t _ => .refl t⟩
  | list items => exact ⟨_, rfl, items⟩

theorem exists_entries {es : List (String × Tree)} {u : Tree} (h : Reordered (.map es) u) :
    ∃ fs gs, u = .map gs ∧ List.Forall₂ SameEntry es fs ∧ fs.Perm gs := by
  cases h with
  | refl => exact ⟨es, es, rfl, List.forall₂_same.2 fun e _ => .refl e, List.Perm.refl es⟩
  | map entries order => exact ⟨_, _, rfl, entries, order⟩

/-- Another order of entries adds and removes no key. -/
theorem isSome_get? {t u : Tree} (h : Reordered t u) (k : String) :
    (u.get? k).isSome = (t.get? k).isSome := by
  cases h with
  | refl => rfl
  | list => rfl
  | @map es fs gs entries order =>
    have keys : (gs.map Prod.fst).Perm (es.map Prod.fst) :=
      keys_eq entries ▸ (order.map Prod.fst).symm
    have found := KeyMap.isSome_lookup_iff gs k
    rw [keys.mem_iff, ← KeyMap.isSome_lookup_iff] at found
    exact Bool.eq_iff_iff.2 found

/-- A label set whose entries were put in another order still has the same entries. -/
theorem exists_labels {l : Labels} {u : Tree} (h : Reordered l.toTree u) :
    ∃ pairs : List (String × String),
      u = .map (pairs.map fun p => (p.1, .text p.2)) ∧ l.entries.Perm pairs := by
  obtain ⟨fs, gs, rfl, entries, order⟩ := h.exists_entries
  -- texts have nothing inside to reorder, so all that can differ is the order of the labels
  have texts : fs = l.entries.map fun p => (p.1, .text p.2) := by
    rw [← List.forall₂_eq_eq_eq, List.forall₂_map_right_iff]
    refine (List.forall₂_map_left_iff.1 entries).flip.imp fun f p same => ?_
    cases same with
    | mk key value => rw [value.text_eq]
  subst texts
  obtain ⟨pairs, rfl, same_pairs⟩ :
      Relation.Comp (fun gs ps => gs = ps.map fun p => (p.1, Tree.text p.2)) List.Perm gs
        l.entries := by
    rw [List.eq_map_comp_perm]
    exact order.symm
  exact ⟨pairs, rfl, same_pairs.symm⟩

end Reordered

/-! ## Readers -/

section Readers

variable {α β : Type}

/-- A reading that has a result goes on with it. -/
theorem bind_of_ok {r : Reader α} {f : α → Reader β} {n m : Nat} {x : α} (h : r n = .ok (x, m)) :
    (r >>= f) n = f x m := by
  change (r n >>= fun y => f y.1 y.2) = _
  rw [h]
  rfl

theorem under_of_ok {r : Reader α} {step : Step} {n m : Nat} {x : α} (h : r n = .ok (x, m)) :
    Reader.under step r n = .ok (x, m) := by
  rw [Reader.under, h]

/-- A reader takes a value out of a tree, in whatever order maps have their entries. -/
def Reads (read : Tree → Reader α) (t : Tree) (x : α) : Prop :=
  ∀ u, t.Reordered u → ∀ n, read u n = .ok (x, n)

theorem read_of_reads {reader : Tree → Reader α} {t u : Tree} {x : α} (reads : Reads reader t x)
    (h : t.Reordered u) : Tree.read reader u = .ok x := by
  have result : (reader u).run 0 = .ok (x, 0) := reads u h 0
  rw [Tree.read, result]
  rfl

/-- Values that a reader takes back out of their trees have different trees. -/
theorem injective_of_reads {read : Tree → Reader α} {toTree : α → Tree}
    (reads : ∀ x, Reads read (toTree x) x) : Function.Injective toTree := by
  intro x y same
  have first := read_of_reads (reads x) (.refl _)
  have second := read_of_reads (reads y) (.refl _)
  rw [same, second] at first
  exact (Except.ok.inj first).symm

theorem reads_text (s : String) : Reads Source.text (.text s) s := by
  intro u h n
  rw [h.text_eq]
  rfl

theorem reads_bool (b : Bool) : Reads Source.bool (.bool b) b := by
  intro u h n
  cases h
  rfl

theorem reads_float (x : Float) : Reads Source.float (.float x) x := by
  intro u h n
  cases h
  rfl

/-- A span is read from its written form. -/
theorem reads_duration (d : Duration) : Reads Source.duration d.toTree d := by
  intro u h n
  rw [h.text_eq, Duration.duration_of_atom rfl]
  rfl

/-- A value that is there is not an absent one. -/
theorem reads_optional_bool (b : Bool) :
    Reads (Source.optional Source.bool) (.bool b) (some b) := by
  intro u h n
  cases h
  rfl

/-! ## Lists -/

/-- Items are read one after the other and go behind those in `done`. -/
theorem readItems_of_reordered {read : Tree → Reader α} {toTree : α → Tree} {xs : List α}
    {us : List Tree} (items : List.Forall₂ (fun x u => (toTree x).Reordered u) xs us)
    (each : ∀ x ∈ xs, Reads read (toTree x) x) (i : Nat) (done : List α) (n : Nat) :
    Source.readItems read i done us n = .ok (done.reverse ++ xs, n) := by
  -- the items in `done` stand in reverse order until the last one was read
  induction items generalizing i done with
  | nil =>
    rw [List.append_nil]
    rfl
  | @cons x u xs us first _ ih =>
    obtain ⟨reads, others⟩ := List.forall_mem_cons.1 each
    have first_read : Reader.under (.index i) (read u) n = .ok (x, n) :=
      under_of_ok (reads u first n)
    rw [Source.readItems, bind_of_ok first_read, ih others, List.reverse_cons, List.append_assoc]
    rfl

theorem reads_list {read : Tree → Reader α} {toTree : α → Tree} {xs : List α}
    (each : ∀ x ∈ xs, Reads read (toTree x) x) :
    Reads (Source.list read) (.list (xs.map toTree)) xs := by
  intro u h n
  obtain ⟨us, rfl, items⟩ := h.exists_items
  exact readItems_of_reordered (List.forall₂_map_left_iff.1 items) each 0 [] n

/-! ## Labels -/

theorem readLabels_texts (l : Labels) (pairs : List (String × String)) (n : Nat) :
    Source.readLabels l (pairs.map fun p => (Tree.text p.1, Tree.text p.2)) n =
      .ok (l.insertMany pairs, n) := by
  induction pairs generalizing l with
  | nil => rfl
  | cons p ps ih => exact ih (l.insert p.1 p.2)

/-- Labels are put in as they come, and make the same set in any order. -/
theorem reads_labels (l : Labels) : Reads Source.labels l.toTree l := by
  intro u h n
  obtain ⟨pairs, rfl, same_pairs⟩ := h.exists_labels
  change Source.readLabels KeyMap.empty ((pairs.map _).map _) n = _
  rw [List.map_map]
  refine (readLabels_texts KeyMap.empty pairs n).trans ?_
  rw [KeyMap.insertMany_perm_entries l same_pairs]

/-! ## Records -/

open Source (Field field need record readNamed)

/-- Entries hold a record, in the order of its fields and without some that may be absent.
    `upTo` is the record as far as it was read: after the entries with the given keys. A field
    takes its part of the record out of its entry, whatever was read before. -/
inductive Holds (upTo : List String → α) : List (Field Tree α) → List (String × Tree) → Prop where
  | nil : Holds upTo [] []
  | absent {f : Field Tree α} {fs : List (Field Tree α)} {es : List (String × Tree)}
      (optional : f.required = false) (others : Holds upTo fs es) : Holds upTo (f :: fs) es
  | present {f : Field Tree α} {fs : List (Field Tree α)} {es : List (String × Tree)} {t : Tree}
      (reads : ∀ seen, Reads (f.set (upTo seen)) t (upTo (f.name :: seen)))
      (others : Holds upTo fs es) : Holds upTo (f :: fs) ((f.name, t) :: es)

/-- What was read is put into the record. -/
theorem reads_put {read : Tree → Reader β} {put : α → β → α} {t : Tree} {y : β} {r r' : α}
    (reads : Reads read t y) (put_eq : put r y = r') :
    Reads (fun v => do return put r (← read v)) t r' := by
  intro u h n
  rw [← put_eq]
  exact bind_of_ok (reads u h n)

namespace Holds

variable {upTo : List String → α} {fields : List (Field Tree α)} {es : List (String × Tree)}

/-- The entry of a field that may be absent, if what is read is put into the record. -/
theorem given {name : String} {read : Tree → Reader β} {put : α → β → α} {t : Tree} {y : β}
    (reads : Reads read t y) (put_eq : ∀ seen, put (upTo seen) y = upTo (name :: seen))
    (others : Holds upTo fields es) :
    Holds upTo (field name read put :: fields) ((name, t) :: es) :=
  .present (fun seen => reads_put reads (put_eq seen)) others

/-- The entry of a field that is left out on some condition. -/
theorem given_unless {name : String} {read : Tree → Reader β} {put : α → β → α} {t : Tree} {y : β}
    (omitted : Bool) (reads : Reads read t y)
    (put_eq : ∀ seen, put (upTo seen) y = upTo (name :: seen)) (others : Holds upTo fields es) :
    Holds upTo (field name read put :: fields)
      ((if omitted then [] else [(name, t)]) ++ es) := by
  cases omitted with
  | true => exact .absent rfl others
  | false => exact .given reads put_eq others

/-- The last entry, if its field is left out on some condition. -/
theorem last_unless {name : String} {read : Tree → Reader β} {put : α → β → α} {t : Tree} {y : β}
    (omitted : Bool) (reads : Reads read t y)
    (put_eq : ∀ seen, put (upTo seen) y = upTo (name :: seen)) :
    Holds upTo [field name read put] (if omitted then [] else [(name, t)]) := by
  rw [← List.append_nil (if omitted then _ else _)]
  exact given_unless omitted reads put_eq .nil

/-- The entry of a field that has to be there. -/
theorem needed {name : String} {read : Tree → Reader β} {put : α → β → α} {t : Tree} {y : β}
    (reads : Reads read t y) (put_eq : ∀ seen, put (upTo seen) y = upTo (name :: seen))
    (others : Holds upTo fields es) :
    Holds upTo (need name read put :: fields) ((name, t) :: es) :=
  .present (fun seen => reads_put reads (put_eq seen)) others

theorem keys_sublist (h : Holds upTo fields es) :
    (es.map Prod.fst).Sublist (fields.map Field.name) := by
  induction h with
  | nil => exact .slnil
  | absent _ _ ih => exact ih.cons _
  | present _ _ ih => exact ih.cons_cons _

/-- Every entry is that of a field. -/
theorem exists_field (h : Holds upTo fields es) {e : String × Tree} (listed : e ∈ es) :
    ∃ f ∈ fields, f.name = e.1 ∧
      ∀ seen, Reads (f.set (upTo seen)) e.2 (upTo (e.1 :: seen)) := by
  induction h with
  | nil => cases listed
  | absent _ _ ih =>
    obtain ⟨f, mem, found⟩ := ih listed
    exact ⟨f, List.mem_cons_of_mem _ mem, found⟩
  | present reads _ ih =>
    rcases List.mem_cons.1 listed with rfl | listed
    · exact ⟨_, List.mem_cons_self, rfl, reads⟩
    · obtain ⟨f, mem, found⟩ := ih listed
      exact ⟨f, List.mem_cons_of_mem _ mem, found⟩

/-- Every field that has to be there is. -/
theorem name_mem_keys (h : Holds upTo fields es) {f : Field Tree α} (mem : f ∈ fields)
    (required : f.required = true) : f.name ∈ es.map Prod.fst := by
  induction h with
  | nil => cases mem
  | absent optional _ ih =>
    rcases List.mem_cons.1 mem with rfl | mem
    · rw [optional] at required
      cases required
    · exact ih mem
  | present _ _ ih =>
    rcases List.mem_cons.1 mem with rfl | mem
    · exact List.mem_cons_self
    · exact List.mem_cons_of_mem _ (ih mem)

end Holds

/-- A part that is left out where it has its usual value is known once its entries, if it has
    any, were read. -/
theorem part_eq {name : String} {t : Tree} {omitted : Bool} {x usual : β}
    (is_usual : omitted = true → x = usual) {seen : List String}
    (all : ∀ k ∈ (if omitted then [] else [(name, t)]).map Prod.fst, k ∈ seen) :
    (if name ∈ seen then x else usual) = x := by
  cases omitted with
  | true => rw [is_usual rfl, ite_self]
  | false => rw [if_pos (all name List.mem_cons_self)]

/-- A field is found by its name if no other field has it. -/
theorem find?_name {fields : List (Field Tree α)} (distinct : (fields.map Field.name).Nodup)
    {f : Field Tree α} (mem : f ∈ fields) : fields.find? (fun g => g.name == f.name) = some f := by
  induction fields with
  | nil => cases mem
  | cons g gs ih =>
    obtain ⟨new, others⟩ := List.nodup_cons.1 distinct
    rcases List.mem_cons.1 mem with rfl | mem
    · rw [List.find?_cons, beq_self_eq_true]
    · have other : g.name ≠ f.name := fun same => new (same ▸ List.mem_map_of_mem mem)
      rw [List.find?_cons, beq_false_of_ne other]
      exact ih others mem

/-- An entry that was not seen before is read by the field with its key. -/
theorem readNamed_cons {fields : List (Field Tree α)} (named : (fields.map Field.name).Nodup)
    {f : Field Tree α} (mem : f ∈ fields) {seen : List String} (unseen : f.name ∉ seen)
    {r r' : α} {v : Tree} {n : Nat} (set : f.set r v n = .ok (r', n)) (es : List (Tree × Tree)) :
    readNamed fields seen r ((.text f.name, v) :: es) n =
      readNamed fields (f.name :: seen) r' es n := by
  have is_key : (Source.key "field identifier" (Tree.text f.name)) n = .ok (f.name, n) := rfl
  have not_seen : seen.contains f.name = false := by simpa using unseen
  rw [readNamed, bind_of_ok is_key, find?_name named mem]
  dsimp only
  rw [not_seen, if_neg Bool.false_ne_true, bind_of_ok (under_of_ok set)]

/-- Once the entries were all read, no field is missing. -/
theorem readNamed_nil {upTo : List String → α} {fields : List (Field Tree α)}
    {es : List (String × Tree)} (holds : Holds upTo fields es) {seen : List String}
    (all : ∀ k ∈ es.map Prod.fst, k ∈ seen) (r : α) (n : Nat) :
    readNamed fields seen r [] n = .ok (r, n) := by
  have none_missing : fields.find? (fun f => f.required && !seen.contains f.name) = none := by
    refine List.find?_eq_none.2 fun f mem missing => ?_
    obtain ⟨required, unseen⟩ := (Bool.and_eq_true _ _).mp missing
    have was_seen := all _ (holds.name_mem_keys mem required)
    rw [List.contains_iff_mem.2 was_seen] at unseen
    cases unseen
  rw [readNamed, none_missing]
  rfl

/-- Reading the entries that are left, in any order, completes what was read so far. -/
theorem readNamed_of_holds {upTo : List String → α} {fields : List (Field Tree α)}
    {es : List (String × Tree)} (holds : Holds upTo fields es)
    (named : (fields.map Field.name).Nodup) {x : α}
    (whole : ∀ seen, (∀ k ∈ es.map Prod.fst, k ∈ seen) → upTo seen = x)
    {left : List (String × Tree)} (of_es : ∀ g ∈ left, ∃ e ∈ es, SameEntry e g) {seen : List String}
    (once : (left.map Prod.fst).Nodup) (new : ∀ k ∈ left.map Prod.fst, k ∉ seen)
    (all : ∀ k ∈ es.map Prod.fst, k ∈ seen ∨ k ∈ left.map Prod.fst) (n : Nat) :
    readNamed fields seen (upTo seen) (left.map fun g => (.text g.1, g.2)) n = .ok (x, n) := by
  -- the keys that were seen and those that are left are all keys, at every step
  induction left generalizing seen with
  | nil =>
    have all_seen : ∀ k ∈ es.map Prod.fst, k ∈ seen := fun k hk =>
      (all k hk).resolve_right List.not_mem_nil
    rw [List.map_nil, readNamed_nil holds all_seen, whole seen all_seen]
  | cons g gs ih =>
    obtain ⟨e, listed, same⟩ := of_es g List.mem_cons_self
    obtain ⟨f, mem, name, reads⟩ := holds.exists_field listed
    obtain ⟨key, v⟩ := g
    obtain rfl : key = f.name := same.key_eq.trans name.symm
    obtain ⟨only, once⟩ := List.nodup_cons.1 once
    obtain ⟨unseen, new⟩ := List.forall_mem_cons.1 new
    have set : f.set (upTo seen) v n = .ok (upTo (f.name :: seen), n) :=
      name ▸ reads seen v same.value n
    rw [List.map_cons, readNamed_cons named mem unseen set]
    -- no later entry has this key, so none that is left was seen
    refine ih (fun g hg => of_es g (List.mem_cons_of_mem _ hg)) once (fun k hk => ?_)
      fun k hk => ?_
    · have other : k ≠ f.name := fun again => only (again ▸ hk)
      exact List.not_mem_cons_of_ne_of_not_mem other (new k hk)
    · rw [List.mem_cons, or_comm (a := k = f.name), or_assoc, ← List.mem_cons]
      exact all k hk

/-- A record is read from a map of entries that hold it. -/
theorem reads_record {upTo : List String → α} {fields : List (Field Tree α)}
    {es : List (String × Tree)} {initial x : α} {expected : String} (start : upTo [] = initial)
    (named : (fields.map Field.name).Nodup) (holds : Holds upTo fields es)
    (whole : ∀ seen, (∀ k ∈ es.map Prod.fst, k ∈ seen) → upTo seen = x) :
    Reads (record expected fields initial) (.map es) x := by
  intro u h n
  obtain ⟨fs, gs, rfl, entries, order⟩ := h.exists_entries
  have keys : (es.map Prod.fst).Perm (gs.map Prod.fst) := keys_eq entries ▸ order.map Prod.fst
  have once : (gs.map Prod.fst).Nodup :=
    keys.nodup_iff.1 (holds.keys_sublist.nodup named)
  rw [← start]
  exact readNamed_of_holds holds named whole
    (fun g hg => exists_sameEntry entries (order.mem_iff.2 hg)) once (fun _ _ => List.not_mem_nil)
    (fun k hk => .inr (keys.mem_iff.1 hk)) n

end Readers

end ErrorBudget.Tree
