/-
  ErrorBudget.Proofs.Labels.RoundTrip

  Lists of labels that are written and read back. A key or a value without a comma, an
  equals sign and white space at its ends is read as it was written, so a list has the labels
  that it was written for; and of two lists with a comma between them the second is put over
  the first.
-/
import Mathlib.Tactic.MkIffOfInductiveProp
import ErrorBudget.Proofs.Labels.Agreement

namespace ErrorBudget.Labels

open Text (isSpace trimChars)

/-! ## Writing lists -/

/-- An entry of a list: the key, an equals sign and the value. -/
def writeEntry (e : String × String) : List Char :=
  e.1.toList ++ '=' :: e.2.toList

/-- Entries with commas between them. -/
def writeListing (es : List (String × String)) : String :=
  String.ofList (Text.join ',' (es.map writeEntry))

/-- What a list can hold as it is: a text that has no comma, no equals sign, and no white
    space at its ends. -/
@[mk_iff]
structure Listable (s : String) : Prop where
  no_comma : ',' ∉ s.toList
  no_sign : '=' ∉ s.toList
  first : s.toList.head?.any isSpace = false
  last : s.toList.getLast?.any isSpace = false

instance : DecidablePred Listable := fun s => decidable_of_iff' _ (listable_iff s)

/-- A label that a list can hold. Its value may be empty. -/
@[mk_iff]
structure ListableEntry (e : String × String) : Prop where
  key_ne_empty : e.1 ≠ ""
  key : Listable e.1
  value : Listable e.2

instance : DecidablePred ListableEntry := fun e => decidable_of_iff' _ (listableEntry_iff e)

theorem Listable.trimChars_eq {s : String} (h : Listable s) : trimChars s.toList = s.toList :=
  Text.trimChars_eq_self h.first h.last

/-- A key that has white space nowhere at its ends is not blank. -/
theorem ListableEntry.exists_visible {e : String × String} (h : ListableEntry e) :
    ∃ c ∈ e.1.toList, isSpace c = false := by
  obtain ⟨c, cs, text⟩ := List.exists_cons_of_ne_nil (mt String.toList_eq_nil_iff.1 h.key_ne_empty)
  have visible := h.key.first
  rw [text] at visible ⊢
  exact ⟨c, List.mem_cons_self, visible⟩

/-- A written entry denotes the label that it was written for. -/
theorem ListableEntry.denotes {e : String × String} (h : ListableEntry e) :
    Denotes (writeEntry e) e := by
  refine ⟨e.1.toList, e.2.toList, rfl, h.key.no_sign, h.exists_visible, ?_⟩
  rw [trimmedEntry, h.key.trimChars_eq, h.value.trimChars_eq, String.ofList_toList,
    String.ofList_toList]

theorem ListableEntry.strictlyFormed {e : String × String} (h : ListableEntry e) :
    StrictlyFormed (writeEntry e) := by
  refine ⟨⟨e, h.denotes⟩, ?_⟩
  rw [writeEntry, List.count_append, List.count_cons_self, List.count_eq_zero.2 h.key.no_sign,
    List.count_eq_zero.2 h.value.no_sign]

theorem ListableEntry.no_comma {e : String × String} (h : ListableEntry e) :
    ',' ∉ writeEntry e := by
  intro comma
  rcases List.mem_append.1 comma with comma | comma
  · exact h.key.no_comma comma
  · rcases List.mem_cons.1 comma with sign | comma
    · exact absurd sign (by decide)
    · exact h.value.no_comma comma

variable {es : List (String × String)}

/-- The parts of a list are the entries that it was written with. -/
theorem parts_writeListing (ne_nil : es ≠ []) (listable : ∀ e ∈ es, ListableEntry e) :
    parts (writeListing es) = es.map writeEntry := by
  rw [parts, writeListing, String.toList_ofList]
  apply Text.split_join
  · exact mt List.map_eq_nil_iff.1 ne_nil
  · intro part listed
    obtain ⟨e, he, rfl⟩ := List.mem_map.1 listed
    exact (listable e he).no_comma

theorem labelsOf_map_writeEntry (listable : ∀ e ∈ es, ListableEntry e) :
    labelsOf (es.map writeEntry) = es := by
  induction es with
  | nil => rfl
  | cons e es ih =>
    obtain ⟨first, others⟩ := List.forall_mem_cons.1 listable
    have read := lenientPair?_eq_some_iff.2 first.denotes
    rw [List.map_cons, labelsOf, List.filterMap_cons_some read]
    exact congrArg (e :: ·) (ih others)

/-- A list of entries is read as those entries; the last one for a key counts. -/
theorem readListing_writeListing (listable : ∀ e ∈ es, ListableEntry e) :
    readListing (writeListing es) = .ok (KeyMap.ofList es) := by
  cases es with
  | nil => rfl
  | cons e others =>
    have cut := parts_writeListing (List.cons_ne_nil e others) listable
    rcases readListing_eq (writeListing (e :: others)) with
      ⟨-, read⟩ | ⟨-, before, part, after, split, -, wrong, -⟩
    · rw [read, cut, labelsOf_map_writeEntry listable]
    · -- no entry that was written can be the first malformed one
      have listed : part ∈ (e :: others).map writeEntry := by
        rw [← cut, split]
        exact List.mem_append_right _ List.mem_cons_self
      obtain ⟨d, hd, rfl⟩ := List.mem_map.1 listed
      exact absurd (listable d hd).strictlyFormed wrong

/-! ## Lists one after the other -/

theorem readEntries_append (l : Labels) (ps qs : List (List Char)) :
    readEntries l (ps ++ qs) = (readEntries l ps).bind fun m => readEntries m qs := by
  induction ps generalizing l with
  | nil => rfl
  | cons part ps ih =>
    rw [List.cons_append, readEntries, readEntries]
    cases strictPair? part with
    | none => rfl
    | some e => exact ih _

/-- What entries set is the same over all labels. -/
theorem readEntries_eq_union (l : Labels) (ps : List (List Char)) :
    readEntries l ps = (readEntries KeyMap.empty ps).map l.union := by
  induction ps generalizing l with
  | nil => rfl
  | cons part ps ih =>
    rw [readEntries, readEntries]
    cases strictPair? part with
    | none => rfl
    | some e =>
      dsimp only
      rw [ih, ih (KeyMap.empty.insert e.1 e.2)]
      cases readEntries KeyMap.empty ps with
      | error _ => rfl
      | ok m => exact congrArg Except.ok (KeyMap.insert_union l m e.1 e.2)

variable {s t : String}

theorem parts_append (s t : String) : parts (s ++ "," ++ t) = parts s ++ parts t := by
  have text : (s ++ "," ++ t).toList = s.toList ++ ',' :: t.toList := by simp
  rw [parts, text, Text.split_append, parts, parts]

theorem readListing_of_visible (h : ¬ Text.isBlank s = true) :
    readListing s = readEntries KeyMap.empty (parts s) :=
  if_neg h

/-- Two lists that are not blank, with a comma between them, are read one over the other;
    the first malformed entry of the two is the error. -/
theorem readListing_append (hs : ¬ Text.isBlank s = true) (ht : ¬ Text.isBlank t = true) :
    readListing (s ++ "," ++ t) =
      (readListing s).bind fun a => (readListing t).map a.union := by
  have visible : ¬ Text.isBlank (s ++ "," ++ t) = true := by
    intro blank
    have spaces := List.all_eq_true.1 blank
    have comma : ',' ∈ (s ++ "," ++ t).toList := by simp
    exact absurd (spaces ',' comma) (by decide)
  rw [readListing_of_visible visible, readListing_of_visible hs, readListing_of_visible ht,
    parts_append, readEntries_append]
  congr 1
  funext a
  exact readEntries_eq_union a (parts t)

/-! ## The round trip -/

/-- Labels are read back from the list that they are written as, in whatever order, and a
    list after another one is put over it. -/
theorem listings_round_trip :
    writeListing [] = "" ∧ readListing "" = .ok KeyMap.empty ∧
      (∀ (l : Labels) (es : List (String × String)), l.entries.Perm es →
        (∀ e ∈ l.entries, ListableEntry e) → readListing (writeListing es) = .ok l) ∧
      ∀ (s t : String) (a b : Labels), ¬ Text.isBlank s = true → ¬ Text.isBlank t = true →
        readListing s = .ok a → readListing t = .ok b →
        readListing (s ++ "," ++ t) = .ok (a.union b) := by
  refine ⟨rfl, rfl, ?_, ?_⟩
  · intro l es order listable
    have written : ∀ e ∈ es, ListableEntry e := fun e he => listable e (order.mem_iff.2 he)
    rw [readListing_writeListing written, KeyMap.ofList, KeyMap.insertMany_perm_entries l order]
  · intro s t a b hs ht first second
    rw [readListing_append hs ht, first, second]
    rfl

/-- Keys that start alike, an empty value, and a second list that changes a value of the
    first. -/
theorem listings_round_trip_prefixes :
    readListing "ab=,a=x y" = .ok (KeyMap.ofList [("a", "x y"), ("ab", "")]) ∧
      readListing "ab=,a=x y,b = 1, a=2" =
        .ok (KeyMap.ofList [("a", "2"), ("ab", ""), ("b", "1")]) := by
  have listable : ∀ e ∈ (KeyMap.ofList [("a", "x y"), ("ab", "")]).entries, ListableEntry e := by
    decide
  have first : readListing "ab=,a=x y" = .ok (KeyMap.ofList [("a", "x y"), ("ab", "")]) :=
    listings_round_trip.2.2.1 _ [("ab", ""), ("a", "x y")] (by decide) listable
  have second : readListing "b = 1, a=2" = .ok (KeyMap.ofList [("a", "2"), ("b", "1")]) := by
    decide
  exact ⟨first, listings_round_trip.2.2.2 _ _ _ _ (by decide) (by decide) first second⟩

end ErrorBudget.Labels
