/-
  ErrorBudget.Proofs.Labels.Listing

  Which lists of labels the lenient reader takes, and what they denote: every entry between
  two commas is blank, or has a key that is not blank, an equals sign and a value. Of two
  entries for one key the later counts.
-/
import ErrorBudget.Labels.Listing
import ErrorBudget.Proofs.Generation.Report

namespace ErrorBudget.Labels

/-- An entry of a list: a key, the first equals sign, and a value. Both lose the white space
    at their ends. -/
def Denotes (entry : List Char) (label : String × String) : Prop :=
  ∃ key value, entry = key ++ '=' :: value ∧ '=' ∉ key ∧ (∃ c ∈ key, Text.isSpace c = false) ∧
    label = trimmedEntry key value

/-- The entries of a list that are not blank. -/
def entriesOf (listing : String) : List (List Char) :=
  ((Text.split ',' listing.toList).map Text.trimChars).filter fun entry => !entry.isEmpty

/-- A list that is well formed, and its labels in order. -/
def Lists (listing : String) (labels : List (String × String)) : Prop :=
  List.Forall₂ Denotes (entriesOf listing) labels

theorem splitOnce_eq_some_iff {entry key value : List Char} :
    splitOnce entry = some (key, value) ↔ entry = key ++ '=' :: value ∧ '=' ∉ key := by
  induction entry generalizing key with
  | nil => simp [splitOnce]
  | cons c entry ih =>
    by_cases sign : c = '='
    · have first : splitOnce (c :: entry) = some ([], entry) := by simp [splitOnce, sign]
      rw [first, sign, Option.some_inj, Prod.mk.injEq]
      constructor
      · rintro ⟨rfl, rfl⟩
        exact ⟨rfl, List.not_mem_nil⟩
      · rintro ⟨same, none_before⟩
        cases key with
        | nil => exact ⟨rfl, (List.cons.inj same).2⟩
        | cons d key => exact absurd ((List.cons.inj same).1 ▸ List.mem_cons_self) none_before
    · have later : splitOnce (c :: entry) =
          (splitOnce entry).map fun parts => (c :: parts.1, parts.2) := by
        simp only [splitOnce, List.dropWhile_cons, List.takeWhile_cons, bne_iff_ne.2 sign, if_true]
        split <;> rfl
      rw [later, Option.map_eq_some_iff]
      constructor
      · rintro ⟨⟨before, after⟩, found, same⟩
        obtain ⟨rfl, rfl⟩ := Prod.mk.inj same
        obtain ⟨rfl, none_before⟩ := ih.1 found
        exact ⟨rfl, List.not_mem_cons_of_ne_of_not_mem (Ne.symm sign) none_before⟩
      · rintro ⟨same, none_before⟩
        cases key with
        | nil => exact absurd (List.cons.inj same).1 sign
        | cons first key =>
          obtain ⟨rfl, rfl⟩ := List.cons.inj same
          exact ⟨(key, value), ih.2 ⟨rfl, List.not_mem_of_not_mem_cons none_before⟩, rfl⟩

theorem lenientPair?_eq_some_iff {entry : List Char} {label : String × String} :
    lenientPair? entry = some label ↔ Denotes entry label := by
  have blank_iff (key : List Char) :
      key.all Text.isSpace = true ↔ ¬ ∃ c ∈ key, Text.isSpace c = false := by simp
  rw [lenientPair?, Option.bind_eq_some_iff]
  constructor
  · rintro ⟨⟨key, value⟩, found, rest⟩
    obtain ⟨rfl, none_before⟩ := splitOnce_eq_some_iff.1 found
    dsimp only at rest
    by_cases blank : key.all Text.isSpace = true
    · rw [if_pos blank] at rest
      cases rest
    · rw [if_neg blank] at rest
      exact ⟨key, value, rfl, none_before, not_not.1 (mt (blank_iff key).2 blank),
        (Option.some.inj rest).symm⟩
  · rintro ⟨key, value, rfl, none_before, visible, rfl⟩
    refine ⟨(key, value), splitOnce_eq_some_iff.2 ⟨rfl, none_before⟩, ?_⟩
    exact if_neg fun blank => (blank_iff key).1 blank visible

theorem readLenientEntries?_eq_some_iff {l m : Labels} {entries : List (List Char)} :
    readLenientEntries? l entries = some m ↔
      ∃ labels, List.Forall₂ Denotes entries labels ∧ m = l.insertMany labels := by
  -- one entry that cannot be read spoils the list, whatever was read before it
  induction entries generalizing l with
  | nil => simp [readLenientEntries?, KeyMap.insertMany, eq_comm]
  | cons entry entries ih =>
    rw [readLenientEntries?]
    simp only [List.forall₂_cons_left_iff]
    cases read : lenientPair? entry with
    | none =>
      refine ⟨fun h => (nomatch h), ?_⟩
      rintro ⟨_, ⟨label, _, denotes, _, _⟩, _⟩
      rw [lenientPair?_eq_some_iff.2 denotes] at read
      cases read
    | some label =>
      have denotes := lenientPair?_eq_some_iff.1 read
      dsimp only
      rw [ih]
      constructor
      · rintro ⟨labels, all, rfl⟩
        exact ⟨label :: labels, ⟨label, labels, denotes, all, rfl⟩, rfl⟩
      · rintro ⟨_, ⟨other, labels, also, all, rfl⟩, rfl⟩
        have again := lenientPair?_eq_some_iff.2 also
        obtain rfl := Option.some.inj (read.symm.trans again)
        exact ⟨labels, all, rfl⟩

/-- A list is read exactly if it is well formed, and a later label hides an earlier one. -/
theorem readLenientListing?_eq_some_iff {listing : String} {l : Labels} :
    readLenientListing? listing = some l ↔ ∃ labels, Lists listing labels ∧ l = KeyMap.ofList labels :=
  readLenientEntries?_eq_some_iff

end ErrorBudget.Labels
