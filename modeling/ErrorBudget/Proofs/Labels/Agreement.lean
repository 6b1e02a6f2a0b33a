/-
  ErrorBudget.Proofs.Labels.Agreement

  The two readers of label lists side by side. Both take a list apart at its commas and make
  the same labels of an entry that both can read, so whatever the strict reader takes, the
  lenient one takes too, and makes the same labels of it. They differ exactly on lists that
  the lenient reader takes and in which an entry is blank or has a second equals sign.
-/
import ErrorBudget.Proofs.KeyMap
import ErrorBudget.Proofs.Labels.Listing
import ErrorBudget.Proofs.Text
import ErrorBudget.Settings

namespace ErrorBudget.Labels

open Text (Blank split trimChars)

/-! ## Entries -/

/-- The entries of a list: what stands between its commas. -/
def parts (listing : String) : List (List Char) :=
  split ',' listing.toList

/-- An entry with a key that is not blank before its first equals sign. -/
def WellFormed (part : List Char) : Prop :=
  ∃ label, Denotes part label

/-- An entry with exactly one equals sign and a key that is not blank before it. -/
def StrictlyFormed (part : List Char) : Prop :=
  WellFormed part ∧ part.count '=' = 1

/-- The last entry for a key has this value. -/
def LastFor (ps : List (List Char)) (key value : String) : Prop :=
  ∃ before part after, ps = before ++ part :: after ∧ Denotes part (key, value) ∧
    ∀ later ∈ after, ∀ other, ¬ Denotes later (key, other)

/-- The labels of entries, in their order. -/
def labelsOf (ps : List (List Char)) : List (String × String) :=
  ps.filterMap lenientPair?

theorem wellFormed_iff {part : List Char} :
    WellFormed part ↔ (lenientPair? part).isSome = true := by
  simp only [WellFormed, ← lenientPair?_eq_some_iff, Option.isSome_iff_exists]

theorem lenientPair?_eq_none_iff {part : List Char} :
    lenientPair? part = none ↔ ¬ WellFormed part := by
  rw [wellFormed_iff, Option.not_isSome_iff_eq_none]

theorem Denotes.unique {part : List Char} {a b : String × String} (ha : Denotes part a)
    (hb : Denotes part b) : a = b :=
  Option.some.inj ((lenientPair?_eq_some_iff.2 ha).symm.trans (lenientPair?_eq_some_iff.2 hb))

theorem not_wellFormed_of_blank {part : List Char} (h : Blank part) : ¬ WellFormed part := by
  rintro ⟨label, key, value, rfl, -, ⟨c, hc, visible⟩, -⟩
  have space := h c (List.mem_append_left _ hc)
  exact absurd space (Bool.eq_false_iff.1 visible)

theorem not_mem_of_blank {cs : List Char} (h : Blank cs) : '=' ∉ cs := by
  intro sign
  have space := h '=' sign
  revert space
  decide

/-- White space around an entry changes nothing. -/
theorem denotes_trimChars_iff {part : List Char} {label : String × String} :
    Denotes (trimChars part) label ↔ Denotes part label := by
  obtain ⟨before, after, hb, ha, text⟩ := Text.exists_trimChars part
  have visible_iff (key : List Char) :
      (∃ c ∈ before ++ key, Text.isSpace c = false) ↔ ∃ c ∈ key, Text.isSpace c = false := by
    simp only [← Text.not_blank_iff, Text.blank_append_iff, hb, true_and]
  have same (key value : List Char) :
      trimmedEntry (before ++ key) (value ++ after) = trimmedEntry key value := by
    simp only [trimmedEntry, Text.trimChars_append_left hb, Text.trimChars_append_right ha]
  generalize trimChars part = middle at text
  subst text
  constructor
  · rintro ⟨key, value, rfl, none_before, visible, rfl⟩
    refine ⟨before ++ key, value ++ after, by simp, ?_, (visible_iff key).2 visible,
      (same key value).symm⟩
    exact fun sign => (List.mem_append.1 sign).elim (not_mem_of_blank hb) none_before
  · rintro ⟨key, value, spelled, none_before, visible, rfl⟩
    -- the first equals sign stands in the middle, since white space has none
    have sign : '=' ∈ before ++ (middle ++ after) := by
      rw [spelled]
      exact List.mem_append_right _ List.mem_cons_self
    have inside : '=' ∈ middle := by
      rcases List.mem_append.1 sign with sign | sign
      · exact absurd sign (not_mem_of_blank hb)
      · exact (List.mem_append.1 sign).resolve_right (not_mem_of_blank ha)
    obtain ⟨first, rest, rfl, absent⟩ := Text.exists_first inside
    have none_first : '=' ∉ before ++ first :=
      fun sign => (List.mem_append.1 sign).elim (not_mem_of_blank hb) absent
    have found : splitOnce (before ++ (first ++ '=' :: rest ++ after)) =
        some (before ++ first, rest ++ after) :=
      splitOnce_eq_some_iff.2 ⟨by simp, none_first⟩
    have given := splitOnce_eq_some_iff.2 ⟨spelled, none_before⟩
    obtain ⟨rfl, rfl⟩ := Prod.mk.inj (Option.some.inj (found.symm.trans given))
    exact ⟨first, rest, rfl, absent, (visible_iff first).1 visible, same first rest⟩

theorem lenientPair?_trimChars (part : List Char) :
    lenientPair? (trimChars part) = lenientPair? part := by
  ext label
  simp only [lenientPair?_eq_some_iff, denotes_trimChars_iff]

/-! ## The lenient reader -/

/-- Entries that denote labels one by one are well formed, and denote no other labels. -/
theorem forall₂_denotes_iff {ps : List (List Char)} {labels : List (String × String)} :
    List.Forall₂ Denotes ps labels ↔ (∀ part ∈ ps, WellFormed part) ∧ labels = labelsOf ps := by
  induction ps generalizing labels with
  | nil => simp [labelsOf]
  | cons part ps ih =>
    rw [List.forall₂_cons_left_iff, List.forall_mem_cons]
    constructor
    · rintro ⟨label, others, denotes, all, rfl⟩
      obtain ⟨formed, rfl⟩ := ih.1 all
      have read := lenientPair?_eq_some_iff.2 denotes
      exact ⟨⟨⟨label, denotes⟩, formed⟩, (List.filterMap_cons_some read).symm⟩
    · rintro ⟨⟨⟨label, denotes⟩, formed⟩, rfl⟩
      have read := lenientPair?_eq_some_iff.2 denotes
      exact ⟨label, labelsOf ps, denotes, ih.2 ⟨formed, rfl⟩, List.filterMap_cons_some read⟩

theorem trimChars_mem_entriesOf_iff {listing : String} {entry : List Char} :
    entry ∈ entriesOf listing ↔ ∃ part ∈ parts listing, ¬ Blank part ∧ trimChars part = entry := by
  simp only [entriesOf, List.mem_filter, List.mem_map, Bool.not_eq_true', List.isEmpty_eq_false_iff]
  constructor
  · rintro ⟨⟨part, listed, rfl⟩, visible⟩
    exact ⟨part, listed, mt (Text.trimChars_eq_nil_iff part).2 visible, rfl⟩
  · rintro ⟨part, listed, visible, rfl⟩
    exact ⟨⟨part, listed, rfl⟩, mt (Text.trimChars_eq_nil_iff part).1 visible⟩

/-- Blank entries have no labels, and the others those that they have when trimmed. -/
theorem labelsOf_entriesOf (listing : String) :
    labelsOf (entriesOf listing) = labelsOf (parts listing) := by
  rw [labelsOf, labelsOf, entriesOf, parts, List.filterMap_filter, List.filterMap_map]
  refine List.filterMap_congr fun part _ => ?_
  rw [Function.comp_apply, lenientPair?_trimChars]
  split
  · rfl
  · rename_i empty
    have blank : Blank part := (Text.trimChars_eq_nil_iff part).1 (by simpa using empty)
    exact (lenientPair?_eq_none_iff.2 (not_wellFormed_of_blank blank)).symm

/-- A list is taken if its entries are well formed where they are not blank. -/
theorem readLenientListing?_eq_some_iff_parts {listing : String} {l : Labels} :
    readLenientListing? listing = some l ↔
      (∀ part ∈ parts listing, ¬ Blank part → WellFormed part) ∧
        l = KeyMap.ofList (labelsOf (parts listing)) := by
  have formed_iff : (∀ entry ∈ entriesOf listing, WellFormed entry) ↔
      ∀ part ∈ parts listing, ¬ Blank part → WellFormed part := by
    have trimmed (part : List Char) : WellFormed (trimChars part) ↔ WellFormed part := by
      simp only [WellFormed, denotes_trimChars_iff]
    simp only [trimChars_mem_entriesOf_iff]
    constructor
    · intro all part listed visible
      exact (trimmed part).1 (all _ ⟨part, listed, visible, rfl⟩)
    · rintro all _ ⟨part, listed, visible, rfl⟩
      exact (trimmed part).2 (all part listed visible)
  simp only [readLenientListing?_eq_some_iff, Lists, forall₂_denotes_iff, formed_iff]
  constructor
  · rintro ⟨_, ⟨formed, rfl⟩, rfl⟩
    exact ⟨formed, by rw [labelsOf_entriesOf]⟩
  · rintro ⟨formed, rfl⟩
    exact ⟨_, ⟨formed, rfl⟩, by rw [labelsOf_entriesOf]⟩

/-! ## The strict reader -/

theorem strictPair?_eq_some_iff {part : List Char} {label : String × String} :
    strictPair? part = some label ↔ Denotes part label ∧ part.count '=' = 1 := by
  constructor
  · intro read
    rw [strictPair?] at read
    split at read
    · rename_i key value cut
      obtain ⟨rfl, absent, none_left⟩ := Text.split_eq_pair_iff.1 cut
      by_cases blank : key.all Text.isSpace = true
      · rw [if_pos blank] at read
        cases read
      · rw [if_neg blank] at read
        have visible := (Text.not_blank_iff key).1 (mt (Text.all_isSpace_iff key).2 blank)
        refine ⟨⟨key, value, rfl, absent, visible, (Option.some.inj read).symm⟩, ?_⟩
        rw [List.count_append, List.count_cons_self, List.count_eq_zero_of_not_mem absent,
          List.count_eq_zero_of_not_mem none_left]
    · cases read
  · rintro ⟨⟨key, value, rfl, absent, visible, rfl⟩, once⟩
    have none_left : '=' ∉ value := by
      rw [List.count_append, List.count_cons_self] at once
      exact List.count_eq_zero.1 (by omega)
    have cut := Text.split_eq_pair_iff.2 ⟨rfl, absent, none_left⟩
    have not_blank := mt (Text.all_isSpace_iff key).1 ((Text.not_blank_iff key).2 visible)
    rw [strictPair?, cut]
    exact if_neg not_blank

theorem strictPair?_eq_none_iff {part : List Char} :
    strictPair? part = none ↔ ¬ StrictlyFormed part := by
  rw [← Option.not_isSome_iff_eq_none, Option.isSome_iff_exists]
  simp only [strictPair?_eq_some_iff, exists_and_right]
  rfl

theorem StrictlyFormed.exists_strictPair? {part : List Char} (h : StrictlyFormed part) :
    ∃ label, strictPair? part = some label ∧ lenientPair? part = some label := by
  obtain ⟨⟨label, denotes⟩, once⟩ := h
  exact ⟨label, strictPair?_eq_some_iff.2 ⟨denotes, once⟩, lenientPair?_eq_some_iff.2 denotes⟩

/-- Entries are read if each of them is strictly formed, and otherwise the first that is not
    is the error. -/
theorem readEntries_eq (l : Labels) (ps : List (List Char)) :
    ((∀ part ∈ ps, StrictlyFormed part) ∧ readEntries l ps = .ok (l.insertMany (labelsOf ps))) ∨
      ∃ before part after, ps = before ++ part :: after ∧
        (∀ earlier ∈ before, StrictlyFormed earlier) ∧ ¬ StrictlyFormed part ∧
        readEntries l ps = .error (String.ofList part) := by
  induction ps generalizing l with
  | nil => exact .inl ⟨fun _ h => (nomatch h), rfl⟩
  | cons part ps ih =>
    by_cases formed : StrictlyFormed part
    · obtain ⟨label, strict, lenient⟩ := formed.exists_strictPair?
      have step : readEntries l (part :: ps) = readEntries (l.insert label.1 label.2) ps := by
        rw [readEntries, strict]
      rw [step]
      rcases ih (l.insert label.1 label.2) with
        ⟨all, read⟩ | ⟨before, bad, after, rfl, all, wrong, read⟩
      · have labels : labelsOf (part :: ps) = label :: labelsOf ps :=
          List.filterMap_cons_some lenient
        refine .inl ⟨List.forall_mem_cons.2 ⟨formed, all⟩, ?_⟩
        rw [read, labels]
        rfl
      · exact .inr
          ⟨part :: before, bad, after, rfl, List.forall_mem_cons.2 ⟨formed, all⟩, wrong, read⟩
    · refine .inr ⟨[], part, ps, rfl, fun _ h => (nomatch h), formed, ?_⟩
      rw [readEntries, strictPair?_eq_none_iff.2 formed]

/-- A blank text has one entry, which is blank, and so has no labels. -/
theorem parts_of_blank {listing : String} (h : Blank listing.toList) :
    parts listing = [listing.toList] := by
  refine Text.split_of_not_mem fun comma => ?_
  have space := h ',' comma
  revert space
  decide

/-- A list is taken if it is blank or its entries are strictly formed, and otherwise the
    first that is not is the error. -/
theorem readListing_eq (listing : String) :
    ((Blank listing.toList ∨ ∀ part ∈ parts listing, StrictlyFormed part) ∧
        readListing listing = .ok (KeyMap.ofList (labelsOf (parts listing)))) ∨
      ¬ Blank listing.toList ∧ ∃ before part after, parts listing = before ++ part :: after ∧
        (∀ earlier ∈ before, StrictlyFormed earlier) ∧ ¬ StrictlyFormed part ∧
        readListing listing = .error (String.ofList part) := by
  by_cases blank : Blank listing.toList
  · refine .inl ⟨.inl blank, ?_⟩
    have no_labels : labelsOf (parts listing) = [] := by
      have unread := lenientPair?_eq_none_iff.2 (not_wellFormed_of_blank blank)
      rw [parts_of_blank blank, labelsOf, List.filterMap_cons_none unread, List.filterMap_nil]
    rw [readListing, if_pos ((Text.isBlank_iff_blank listing).2 blank), no_labels]
    rfl
  · rw [readListing, if_neg (mt (Text.isBlank_iff_blank listing).1 blank)]
    rcases readEntries_eq KeyMap.empty (parts listing) with ⟨all, read⟩ | refused
    · exact .inl ⟨.inr all, read⟩
    · exact .inr ⟨blank, refused⟩

/-! ## The last entry for a key -/

theorem lastFor_nil (key value : String) : ¬ LastFor [] key value := by
  rintro ⟨before, part, after, none_there, -⟩
  simp at none_there

/-- One more entry is the last for its own key, and for no other. -/
theorem lastFor_concat_iff {ps : List (List Char)} {part : List Char} {key value : String} :
    LastFor (ps ++ [part]) key value ↔
      Denotes part (key, value) ∨
        (∀ other, ¬ Denotes part (key, other)) ∧ LastFor ps key value := by
  constructor
  · rintro ⟨before, chosen, after, split, denotes, last⟩
    rcases List.eq_nil_or_concat after with rfl | ⟨later, final, rfl⟩
    · obtain ⟨-, same⟩ := List.append_inj' split rfl
      obtain rfl := List.singleton_inj.1 same
      exact .inl denotes
    · rw [List.concat_eq_append] at split last
      rw [← List.cons_append, ← List.append_assoc] at split
      obtain ⟨rfl, same⟩ := List.append_inj' split rfl
      obtain rfl := List.singleton_inj.1 same
      refine .inr ⟨last part (List.mem_append_right _ (List.mem_singleton_self part)),
        before, chosen, later, rfl, denotes, ?_⟩
      exact fun entry listed => last entry (List.mem_append_left _ listed)
  · rintro (denotes | ⟨silent, before, chosen, after, rfl, denotes, last⟩)
    · exact ⟨ps, part, [], rfl, denotes, fun _ h => (nomatch h)⟩
    · refine ⟨before, chosen, after ++ [part], by simp, denotes, fun entry listed => ?_⟩
      rcases List.mem_append.1 listed with listed | listed
      · exact last entry listed
      · exact List.mem_singleton.1 listed ▸ silent

/-- In the labels of entries, a key has the value of the last entry for it. -/
theorem get?_ofList_labelsOf (ps : List (List Char)) (key value : String) :
    (KeyMap.ofList (labelsOf ps)).get? key = some value ↔ LastFor ps key value := by
  induction ps using List.reverseRecOn with
  | nil => exact ⟨fun h => (nomatch h), fun h => absurd h (lastFor_nil key value)⟩
  | append_singleton ps part ih =>
    rw [lastFor_concat_iff, ← ih]
    cases read : lenientPair? part with
    | none =>
      have silent (label : String × String) : ¬ Denotes part label :=
        fun denotes => lenientPair?_eq_none_iff.1 read ⟨label, denotes⟩
      have labels : labelsOf (ps ++ [part]) = labelsOf ps := by
        rw [labelsOf, List.filterMap_append, List.filterMap_cons_none read, List.filterMap_nil,
          List.append_nil, labelsOf]
      rw [labels]
      exact ⟨fun found => .inr ⟨fun _ => silent _, found⟩, fun h => (h.resolve_left (silent _)).2⟩
    | some label =>
      have denotes := lenientPair?_eq_some_iff.1 read
      have labels : labelsOf (ps ++ [part]) = labelsOf ps ++ [label] := by
        rw [labelsOf, List.filterMap_append, List.filterMap_cons_some read, List.filterMap_nil,
          labelsOf]
      have inserted : KeyMap.ofList (labelsOf ps ++ [label]) =
          (KeyMap.ofList (labelsOf ps)).insert label.1 label.2 := by
        rw [KeyMap.ofList, KeyMap.insertMany, List.foldl_append]
        rfl
      rw [labels, inserted, KeyMap.get?_insert]
      by_cases same : key = label.1
      · subst same
        rw [if_pos rfl, Option.some_inj]
        constructor
        · rintro rfl
          exact .inl denotes
        · rintro (also | ⟨silent, -⟩)
          · exact congrArg Prod.snd (denotes.unique also)
          · exact absurd denotes (silent label.2)
      · have silent (other : String) : ¬ Denotes part (key, other) :=
          fun also => same (congrArg Prod.fst (also.unique denotes))
        rw [if_neg same]
        exact ⟨fun found => .inr ⟨silent, found⟩, fun h => (h.resolve_left (silent value)).2⟩

/-- A key of an entry is not blank. -/
theorem Denotes.key_not_blank {part : List Char} {label : String × String}
    (h : Denotes part label) : ¬ Blank label.1.toList := by
  obtain ⟨key, value, -, -, visible, rfl⟩ := h
  rw [trimmedEntry, String.toList_ofList]
  intro blank
  -- what is left of a key that is trimmed is blank only if the key was
  obtain ⟨before, after, hb, ha, text⟩ := Text.exists_trimChars key
  refine (Text.not_blank_iff key).2 visible ?_
  rw [text]
  exact Text.blank_append_iff.2 ⟨hb, Text.blank_append_iff.2 ⟨blank, ha⟩⟩

/-! ## Both readers -/

/-- Labels that a list stands for: every key has the value of the last entry for it. -/
structure StandsFor (listing : String) (l : Labels) : Prop where
  last : ∀ key value, l.get? key = some value ↔ LastFor (parts listing) key value
  not_blank : ∀ key ∈ l.keys, ¬ Blank key.toList

theorem standsFor_ofList (listing : String) :
    StandsFor listing (KeyMap.ofList (labelsOf (parts listing))) where
  last := get?_ofList_labelsOf (parts listing)
  not_blank key listed := by
    obtain ⟨value, found⟩ := (KeyMap.mem_keys_iff _ key).1 listed
    obtain ⟨-, part, -, -, denotes, -⟩ := (get?_ofList_labelsOf _ key value).1 found
    exact denotes.key_not_blank

/-- What the two readers make of one list. The lenient one reads it from the environment,
    over labels that it replaces or leaves as they are. -/
structure Readings (listing : String) : Prop where
  strict_takes : (∃ l, readListing listing = .ok l) ↔
    Blank listing.toList ∨ ∀ part ∈ parts listing, StrictlyFormed part
  strict_refuses : ∀ e, readListing listing = .error e →
    ∃ before part after, parts listing = before ++ part :: after ∧
      (∀ earlier ∈ before, StrictlyFormed earlier) ∧ ¬ StrictlyFormed part ∧
      e = String.ofList part
  lenient_takes : (∀ part ∈ parts listing, ¬ Blank part → WellFormed part) →
    ∃ l, readLenientListing? listing = some l ∧
      ∀ env old, env.lookup Settings.Variable.kubernetesLabels.name = some listing →
        Settings.overLabels env .kubernetesLabels old = l
  lenient_refuses : ¬ (∀ part ∈ parts listing, ¬ Blank part → WellFormed part) →
    readLenientListing? listing = none ∧
      ∀ env old, env.lookup Settings.Variable.kubernetesLabels.name = some listing →
        Settings.overLabels env .kubernetesLabels old = old
  same_labels : ∀ l, readListing listing = .ok l → readLenientListing? listing = some l
  stands_for : ∀ l, readLenientListing? listing = some l → StandsFor listing l
  differ_iff : (readListing listing).toOption ≠ readLenientListing? listing ↔
    (∃ l, readLenientListing? listing = some l) ∧ ¬ Blank listing.toList ∧
      ∃ part ∈ parts listing, Blank part ∨ 2 ≤ part.count '='

theorem overLabels_of_given {env : Settings.Environment} {v : Settings.Variable} {listing : String}
    (given : env.lookup v.name = some listing) (old : Labels) :
    Settings.overLabels env v old = (readLenientListing? listing).getD old := by
  rw [Settings.overLabels, given, Option.bind_some]

/-- Entries that the strict reader takes can be read by the lenient one. -/
theorem formed_of_strict {listing : String}
    (h : Blank listing.toList ∨ ∀ part ∈ parts listing, StrictlyFormed part) :
    ∀ part ∈ parts listing, ¬ Blank part → WellFormed part := by
  intro part listed visible
  rcases h with blank | formed
  · rw [parts_of_blank blank] at listed
    exact absurd (List.mem_singleton.1 listed ▸ blank) visible
  · exact (formed part listed).1

theorem same_labels {listing : String} {l : Labels} (h : readListing listing = .ok l) :
    readLenientListing? listing = some l := by
  rcases readListing_eq listing with ⟨formed, read⟩ | ⟨-, before, part, after, -, -, -, refused⟩
  · obtain rfl := Except.ok.inj (read.symm.trans h)
    exact readLenientListing?_eq_some_iff_parts.2 ⟨formed_of_strict formed, rfl⟩
  · cases refused.symm.trans h

/-- The readers differ where the lenient one takes a blank entry or a second equals sign. -/
theorem differ_iff (listing : String) :
    (readListing listing).toOption ≠ readLenientListing? listing ↔
      (∃ l, readLenientListing? listing = some l) ∧ ¬ Blank listing.toList ∧
        ∃ part ∈ parts listing, Blank part ∨ 2 ≤ part.count '=' := by
  rcases readListing_eq listing with
    ⟨formed, read⟩ | ⟨visible, before, part, after, split, -, wrong, read⟩
  · have same := same_labels read
    have no_difference : (readListing listing).toOption = readLenientListing? listing := by
      rw [same, read]
      rfl
    refine ⟨fun differ => absurd no_difference differ, ?_⟩
    rintro ⟨-, visible, part, listed, odd⟩
    obtain ⟨well, once⟩ := formed.resolve_left visible part listed
    rcases odd with blank | twice
    · exact absurd well (not_wellFormed_of_blank blank)
    · omega
  · have listed : part ∈ parts listing := by
      rw [split]
      exact List.mem_append_right _ List.mem_cons_self
    rw [read]
    cases lenient : readLenientListing? listing with
    | none => exact ⟨fun differ => absurd rfl differ, fun ⟨⟨l, taken⟩, _⟩ => (nomatch taken)⟩
    | some l =>
      refine ⟨fun _ => ⟨⟨l, rfl⟩, visible, part, listed, ?_⟩, fun _ taken => (nomatch taken)⟩
      -- the entry that the strict reader refuses is blank, or well formed with signs to spare
      by_cases blank : Blank part
      · exact .inl blank
      · have well := (readLenientListing?_eq_some_iff_parts.1 lenient).1 part listed blank
        have several : part.count '=' ≠ 1 := fun once => wrong ⟨well, once⟩
        obtain ⟨_, key, value, rfl, -⟩ := well
        rw [List.count_append, List.count_cons_self] at several ⊢
        exact .inr (by omega)

/-- The strict reader takes less than the lenient one and makes the same labels of it; and
    only blank entries and second equals signs make a difference. -/
theorem readers_compared (listing : String) : Readings listing where
  strict_takes := by
    rcases readListing_eq listing with
      ⟨formed, read⟩ | ⟨visible, before, part, after, split, -, wrong, read⟩
    · exact ⟨fun _ => formed, fun _ => ⟨_, read⟩⟩
    · constructor
      · rintro ⟨l, taken⟩
        cases taken.symm.trans read
      · rintro (blank | formed)
        · exact absurd blank visible
        · rw [split] at formed
          exact absurd (formed part (List.mem_append_right _ List.mem_cons_self)) wrong
  strict_refuses e refused := by
    rcases readListing_eq listing with
      ⟨-, read⟩ | ⟨-, before, part, after, split, formed, wrong, read⟩
    · cases read.symm.trans refused
    · have same := Except.error.inj (read.symm.trans refused)
      exact ⟨before, part, after, split, formed, wrong, same.symm⟩
  lenient_takes formed := by
    have taken := readLenientListing?_eq_some_iff_parts.2 ⟨formed, rfl⟩
    refine ⟨_, taken, fun env old given => ?_⟩
    rw [overLabels_of_given given, taken, Option.getD_some]
  lenient_refuses wrong := by
    have refused : readLenientListing? listing = none := by
      cases taken : readLenientListing? listing with
      | none => rfl
      | some l => exact absurd (readLenientListing?_eq_some_iff_parts.1 taken).1 wrong
    refine ⟨refused, fun env old given => ?_⟩
    rw [overLabels_of_given given, refused, Option.getD_none]
  same_labels _ := same_labels
  stands_for l taken := by
    rw [(readLenientListing?_eq_some_iff_parts.1 taken).2]
    exact standsFor_ofList listing
  differ_iff := differ_iff listing

/-- Entries that are all blank make a difference by themselves: a comma alone is taken by
    the lenient reader only. -/
theorem lone_comma_divides_readers :
    ¬ ∀ listing : String, (readListing listing).toOption ≠ readLenientListing? listing →
      ((∃ part ∈ parts listing, Blank part) ∧ ∃ part ∈ parts listing, ¬ Blank part) ∨
        ∃ part ∈ parts listing, 2 ≤ part.count '=' := by
  intro claim
  have differ : (readListing ",").toOption ≠ readLenientListing? "," := by decide
  have blank : ∀ part ∈ parts ",", part = [] := by decide
  rcases claim "," differ with ⟨-, part, listed, visible⟩ | ⟨part, listed, twice⟩
  · obtain rfl := blank part listed
    exact visible fun _ h => (nomatch h)
  · obtain rfl := blank part listed
    exact absurd twice (by decide)

end ErrorBudget.Labels
