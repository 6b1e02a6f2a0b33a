/-
  ErrorBudget.Proofs.Burn.Condition

  What the written form of conditions says when it is read back: the conditions
  themselves, of which any may hold, in the order in which they were given.
-/
import ErrorBudget.Burn.Condition
import ErrorBudget.Burn.Window
import ErrorBudget.Proofs.Query.RoundTrip

namespace ErrorBudget

open Query (Meaning isNameChar isLabelChar isWordOf isNumber)

/-! ## Window names -/

/-- A window that can be part of a record's name. -/
def IsWindowName (window : String) : Prop :=
  window.toList.all isNameChar = true

instance (window : String) : Decidable (IsWindowName window) :=
  inferInstanceAs (Decidable (_ = true))

theorem isNameChar_of_isDigit {c : Char} (h : c.isDigit = true) : isNameChar c = true := by
  simp [isNameChar, isLabelChar, Char.isAlphanum, h]

namespace Duration

theorem isNameChar_of_mem_text {c : Component} {ch : Char} (h : ch ∈ c.text) :
    isNameChar ch = true := by
  rcases List.mem_append.1 h with h | h
  · exact isNameChar_of_isDigit (Decimal.isDigit_of_mem_digits h)
  · have suffixes : ∀ unit ∈ Scale.all, unit.suffix.all isNameChar = true := by decide
    have listed : c.unit ∈ Scale.all := by
      cases c.unit <;> decide
    exact List.all_eq_true.1 (suffixes c.unit listed) ch h

/-- A span is written with digits and unit names only. -/
theorem isWindowName_text (d : Duration) : IsWindowName d.text := by
  rw [IsWindowName, text, String.toList_ofList, chars]
  split
  · decide
  · refine List.all_eq_true.2 fun ch hch => ?_
    obtain ⟨component, -, hch⟩ := List.mem_flatMap.1 hch
    exact isNameChar_of_mem_text hch

end Duration

namespace Burn

theorem Ratio.isWordOf_record (ratio : Ratio) {window : String} (h : IsWindowName window) :
    isWordOf isNameChar (ratio.record window).toList = true := by
  have tail : ∀ c ∈ window.toList, isNameChar c = true := List.all_eq_true.1 h
  cases ratio <;>
    simpa [isWordOf, Ratio.record, Ratio.metric, String.toList_append, isNameChar, isLabelChar]
      using tail

/-- A record's name is no number, since it starts with a letter. -/
theorem Ratio.isNumber_record (ratio : Ratio) (window : String) :
    isNumber (ratio.record window).toList = false := by
  cases ratio <;>
    simp [isNumber, Ratio.record, Ratio.metric, String.toList_append, Decimal.readUnsigned?,
      Decimal.spanDigits]

/-! ## One condition -/

namespace Condition

/-- Windows and label names are such that they can be read. -/
structure Readable (c : Condition) : Prop where
  long : IsWindowName c.long
  short : ∀ window ∈ c.short, IsWindowName window
  keys : ∀ e ∈ c.labels.entries, isWordOf isLabelChar e.1.toList = true

end Condition

theorem wellSpelled_numeral (x : Float) (precision : Option Nat) :
    (Query.number (Decimal.general x precision).toList).WellSpelled :=
  have literal := Decimal.isLiteral_general x precision
  ⟨Query.isNumber_of_isLiteral literal, Query.isPlain_of_mem_isLiteral literal⟩

namespace Threshold

theorem wellSpelled_query (t : Threshold) : t.query.WellSpelled := by
  cases t with
  | value x => exact wellSpelled_numeral x precision
  | scaled rate x => exact ⟨wellSpelled_numeral rate precision, wellSpelled_numeral x precision⟩
  | budget rate x => exact ⟨wellSpelled_numeral rate none, wellSpelled_numeral x precision⟩

/-- A threshold binds more tightly than the comparison that it is part of. -/
theorem grouped_query (t : Threshold) : t.query.Grouped ∧ 2 < t.query.level := by
  cases t with
  | value x => simp [query, Query.Grouped, Query.level]
  | scaled rate x => simp [query, Query.Grouped, Query.level]
  | budget rate x => simp [query, Query.Grouped, Query.level]

end Threshold

namespace Condition

theorem wellSpelled_exceeds {c : Condition} (h : c.Readable) {window : String}
    (hw : IsWindowName window) : (c.exceeds window).WellSpelled :=
  ⟨⟨c.ratio.isWordOf_record hw, c.ratio.isNumber_record window, h.keys⟩,
    c.threshold.wellSpelled_query⟩

theorem grouped_exceeds (c : Condition) (window : String) : (c.exceeds window).Grouped :=
  ⟨by simp [Query.level], c.threshold.grouped_query.2, trivial, c.threshold.grouped_query.1⟩

theorem wellSpelled_query {c : Condition} (h : c.Readable) : c.query.WellSpelled := by
  rw [query]
  -- the same comparison is made over both windows
  cases short : c.short with
  | none => exact wellSpelled_exceeds h h.long
  | some window =>
    exact ⟨wellSpelled_exceeds h h.long, wellSpelled_exceeds h (h.short window short)⟩

/-- A condition binds more tightly than what joins conditions. -/
theorem grouped_query (c : Condition) : c.query.Grouped ∧ 0 < c.query.level := by
  rw [query]
  cases c.short with
  | none => exact ⟨grouped_exceeds c c.long, by simp [exceeds, Query.level]⟩
  | some window =>
    refine ⟨⟨?_, ?_, grouped_exceeds c c.long, grouped_exceeds c window⟩, by simp [Query.level]⟩
    · simp [exceeds, Query.level]
    · simp [exceeds, Query.level]

/-! ## Conditions of which any may hold -/

theorem chars_query_ne_nil (c : Condition) : c.query.chars ≠ [] := by
  rw [query]
  cases c.short with
  | none => simp [exceeds, Query.chars]
  | some window => simp [Query.chars]

/-- Only no condition at all is written as the empty text. -/
theorem text_ne_empty {cs : List Condition} (h : cs ≠ []) : text cs ≠ "" := by
  obtain ⟨c, cs, rfl⟩ := List.exists_cons_of_ne_nil h
  -- every step of the fold keeps what is written already
  have some_chars (ds : List Condition) {q : Query} (hq : q.chars ≠ []) :
      (ds.foldl (fun q d => .either q d.query) q).chars ≠ [] := by
    induction ds generalizing q with
    | nil => exact hq
    | cons d ds ih => exact ih (by simp [Query.chars])
  rw [text, anyOf?, ne_eq, ← String.toList_inj, String.toList_ofList]
  exact some_chars cs c.chars_query_ne_nil

/-- Joining further conditions keeps a query that can be read, and adds what they say. -/
theorem foldl_either {cs : List Condition} (readable : ∀ c ∈ cs, c.Readable) {q : Query}
    (spelled : q.WellSpelled) (grouped : q.Grouped) :
    (cs.foldl (fun q c => .either q c.query) q).WellSpelled ∧
      (cs.foldl (fun q c => .either q c.query) q).Grouped ∧
      (cs.foldl (fun q c => .either q c.query) q).meaning =
        (cs.map fun c => c.query.meaning).foldl Meaning.either q.meaning := by
  -- conditions are joined from the left, so what is joined so far is the left operand
  induction cs generalizing q with
  | nil => exact ⟨spelled, grouped, rfl⟩
  | cons c cs ih =>
    have first := readable c List.mem_cons_self
    have others := fun d hd => readable d (List.mem_cons_of_mem c hd)
    have joined : (Query.either q c.query).Grouped :=
      ⟨Nat.zero_le _, (grouped_query c).2, grouped, (grouped_query c).1⟩
    exact ih others ⟨spelled, wellSpelled_query first⟩ joined

/-- The written form of conditions is read as the conditions, in their order. -/
theorem read?_text {cs : List Condition} (readable : ∀ c ∈ cs, c.Readable) :
    Query.read? (text cs) = Meaning.anyOf? (cs.map fun c => c.query.meaning) := by
  cases cs with
  | nil => rfl
  | cons c cs =>
    have first := readable c List.mem_cons_self
    have others := fun d hd => readable d (List.mem_cons_of_mem c hd)
    obtain ⟨spelled, grouped, joined⟩ :=
      foldl_either others (wellSpelled_query first) (grouped_query c).1
    rw [text, anyOf?, Query.read?_chars spelled grouped, joined]
    rfl

end Condition

/-! ## Windows that alerts watch -/

/-- A burn window whose names can be part of a record's name. -/
structure BurnWindow.Named (w : BurnWindow) : Prop where
  long : IsWindowName w.long
  short : ∀ window ∈ w.short, IsWindowName window

theorem BurnWindow.named_ofWindow? {objective : Duration} {short : Bool} {w : Window}
    {b : BurnWindow} (h : BurnWindow.ofWindow? objective short w = some b) : b.Named := by
  obtain ⟨ratio, -, rfl⟩ := Option.map_eq_some_iff.1 h
  refine ⟨w.duration.isWindowName_text, fun window hw => ?_⟩
  simp only [Option.mem_def] at hw
  split at hw
  · obtain ⟨d, -, rfl⟩ := Option.map_eq_some_iff.1 hw
    exact d.isWindowName_text
  · cases hw

/-- Whichever windows are watched, a severity has at least one, and all can be
    part of a record's name. -/
theorem burnWindows_named {objective : Duration} {windows : List Window} {short : Bool}
    {table : List (Severity × List BurnWindow)}
    (h : burnWindows objective windows short = .ok table) :
    ∀ e ∈ table, e.2 ≠ [] ∧ ∀ w ∈ e.2, w.Named := by
  rw [burnWindows] at h
  split at h
  · obtain rfl := Except.ok.inj h
    have named : ∀ {m : Float} {long short : String}, IsWindowName long → IsWindowName short →
        BurnWindow.Named ⟨m, long, some short⟩ := by
      rintro m long short hl hs
      exact ⟨hl, fun window hw => Option.some.inj hw ▸ hs⟩
    simp only [defaultWindows, List.forall_mem_cons]
    refine ⟨⟨by simp, named (by decide) (by decide), named (by decide) (by decide), by simp⟩,
      ⟨by simp, named (by decide) (by decide), named (by decide) (by decide), by simp⟩, by simp⟩
  · split at h
    · cases h
    · obtain rfl := Except.ok.inj h
      intro e he
      -- severities without a window have been left out of the table
      obtain ⟨severity, -, he⟩ := List.mem_filterMap.1 he
      split at he
      · cases he
      · rename_i ne_nil
        obtain rfl := Option.some.inj he
        refine ⟨ne_nil, fun w hw => ?_⟩
        obtain ⟨source, -, made⟩ := List.mem_filterMap.1 hw
        exact BurnWindow.named_ofWindow? made

end Burn

end ErrorBudget
