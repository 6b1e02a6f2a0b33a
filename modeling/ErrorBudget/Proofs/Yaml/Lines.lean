/-
  ErrorBudget.Proofs.Yaml.Lines

  Where the lines of a document start. A text that goes on over more lines goes on at an
  indentation, in single quotes as in a block, and every line of a list in a map is under its
  key; so if all values of a tree are texts, only a key at the start of a line can bring a dash
  there, and the last line has its end.
-/
import Mathlib.Data.List.Chain
import Mathlib.Tactic.Common
import ErrorBudget.Yaml.Printer

namespace ErrorBudget.Yaml

open Written

/-! ## Starts and ends of lines -/

/-- Characters that all stand on one line. -/
def OnLine (cs : List Char) : Prop :=
  ∀ c ∈ cs, isLineEnd c = false

/-- The last line has its end. -/
def Ended (cs : List Char) : Prop :=
  cs.getLast?.any isLineEnd = true

/-- No line but the first starts with a dash. -/
def Indented (cs : List Char) : Prop :=
  List.IsChain (fun a b => isLineEnd a = true → b ≠ '-') cs

theorem Ended.append {bs : List Char} (h : Ended bs) (as : List Char) : Ended (as ++ bs) := by
  rw [Ended] at h ⊢
  rw [List.getLast?_append]
  cases last : bs.getLast? with
  | none =>
    rw [last] at h
    cases h
  | some c =>
    rw [last] at h
    exact h

theorem ended_concat {c : Char} (h : isLineEnd c = true) (cs : List Char) : Ended (cs ++ [c]) := by
  have last : Ended [c] := h
  exact last.append cs

theorem indented_cons {c : Char} (h : isLineEnd c = false) {cs : List Char} (hc : Indented cs) :
    Indented (c :: cs) := by
  refine List.isChain_cons.2 ⟨?_, hc⟩
  intro _ _ ends
  rw [h] at ends
  cases ends

theorem OnLine.append_indented {as bs : List Char} (ha : OnLine as) (hb : Indented bs) :
    Indented (as ++ bs) := by
  induction as with
  | nil => exact hb
  | cons a as ih =>
    obtain ⟨first, others⟩ := List.forall_mem_cons.1 ha
    exact indented_cons first (ih others)

theorem OnLine.indented {cs : List Char} (h : OnLine cs) : Indented cs := by
  have whole := h.append_indented List.isChain_nil
  rwa [List.append_nil] at whole

/-- What comes next may start a line, since it does not start with a dash. -/
theorem Indented.append {as bs : List Char} (ha : Indented as) (hb : Indented bs)
    (no_dash : bs.head? ≠ some '-') : Indented (as ++ bs) := by
  refine List.isChain_append.2 ⟨ha, hb, ?_⟩
  intro _ _ b first _ dash
  exact no_dash (dash ▸ first)

theorem head?_append_ne_dash {as bs : List Char} (ha : as.head? ≠ some '-')
    (hb : bs.head? ≠ some '-') : (as ++ bs).head? ≠ some '-' := by
  cases as with
  | nil => exact hb
  | cons a as => exact ha

theorem onLine_margin (n : Nat) : OnLine (margin n) := by
  intro c hc
  rw [List.eq_of_mem_replicate hc]
  decide

theorem drop_margin_append (n : Nat) (cs : List Char) : (margin n ++ cs).drop n = cs :=
  List.drop_left' (List.length_replicate ..)

theorem head?_margin_append {n : Nat} (pos : 0 < n) (cs : List Char) :
    (margin n ++ cs).head? = some ' ' := by
  obtain ⟨k, rfl⟩ := Nat.exists_eq_succ_of_ne_zero (Nat.ne_of_gt pos)
  rfl

/-! ## Lines -/

/-- The rest of a line, and lines after it that do not start with a dash. -/
structure RestOfLines (cs : List Char) : Prop where
  indented : Indented cs
  ended : Ended cs

/-- Lines that do not start with a dash; there may be none. -/
structure WholeLines (cs : List Char) : Prop where
  indented : Indented cs
  no_dash : cs.head? ≠ some '-'
  ended : cs = [] ∨ Ended cs

theorem wholeLines_nil : WholeLines [] :=
  ⟨List.isChain_nil, by decide, .inl rfl⟩

theorem RestOfLines.append {as bs : List Char} (ha : RestOfLines as) (hb : WholeLines bs) :
    RestOfLines (as ++ bs) := by
  refine ⟨ha.indented.append hb.indented hb.no_dash, ?_⟩
  rcases hb.ended with rfl | ended
  · rw [List.append_nil]
    exact ha.ended
  · exact ended.append as

theorem OnLine.append_rest {as bs : List Char} (ha : OnLine as) (hb : RestOfLines bs) :
    RestOfLines (as ++ bs) :=
  ⟨ha.append_indented hb.indented, hb.ended.append as⟩

theorem RestOfLines.cons {c : Char} (h : isLineEnd c = false) {cs : List Char}
    (hc : RestOfLines cs) : RestOfLines (c :: cs) :=
  ⟨indented_cons h hc.indented, hc.ended.append [c]⟩

/-- What follows the dash of an item. -/
theorem RestOfLines.after_dash {cs : List Char} (h : RestOfLines cs) :
    RestOfLines ('-' :: ' ' :: cs) := by
  have spaced : RestOfLines (' ' :: cs) := h.cons (by decide)
  exact spaced.cons (by decide)

theorem Indented.concat_newline {cs : List Char} (h : Indented cs) : RestOfLines (cs ++ ['\n']) :=
  ⟨h.append (List.isChain_singleton _) (by decide), ended_concat (by decide) cs⟩

/-- Lines after the end of a line. -/
theorem WholeLines.after_newline {cs : List Char} (h : WholeLines cs) :
    RestOfLines ('\n' :: cs) := by
  have newline : RestOfLines ['\n'] := ⟨List.isChain_singleton _, rfl⟩
  exact newline.append h

/-- A line and what follows it, at an indentation that is not zero. -/
theorem RestOfLines.at_margin {cs : List Char} (h : RestOfLines cs) {n : Nat} (pos : 0 < n) :
    WholeLines (margin n ++ cs) := by
  have lines := (onLine_margin n).append_rest h
  refine ⟨lines.indented, ?_, .inr lines.ended⟩
  rw [head?_margin_append pos]
  decide

theorem WholeLines.append {as bs : List Char} (ha : WholeLines as) (hb : WholeLines bs) :
    WholeLines (as ++ bs) := by
  rcases ha.ended with rfl | ended
  · exact hb
  · have lines := RestOfLines.append ⟨ha.indented, ended⟩ hb
    exact ⟨lines.indented, head?_append_ne_dash ha.no_dash hb.no_dash, .inr lines.ended⟩

/-! ## Scalars -/

theorem onLine_hexDigits (n : Nat) : ∀ d ∈ Text.hexDigits n, isLineEnd d.toUpper = false := by
  have digit : ∀ k < 16, isLineEnd k.digitChar.toUpper = false := by decide
  induction n using Nat.strongRecOn with
  | ind n ih =>
    intro d hd
    rw [Text.hexDigits, Nat.toDigits_eq_if (by decide)] at hd
    split at hd
    · rename_i single
      rw [List.mem_singleton.1 hd]
      exact digit n single
    · rename_i several
      rcases List.mem_append.1 hd with hd | hd
      · exact ih (n / 16) (by omega) d hd
      · rw [List.mem_singleton.1 hd]
        exact digit (n % 16) (Nat.mod_lt n (by decide))

theorem onLine_code (c : Char) : OnLine (code c) := by
  have digits : OnLine (Text.upperHexDigits c.toNat) := by
    intro d hd
    obtain ⟨e, he, rfl⟩ := List.mem_map.1 hd
    exact onLine_hexDigits _ e he
  have padded (width : Nat) : OnLine (Text.padLeft width (Text.upperHexDigits c.toNat)) := by
    refine List.forall_mem_append.2 ⟨?_, digits⟩
    intro d hd
    rw [List.eq_of_mem_replicate hd]
    decide
  rw [code]
  split
  · exact List.forall_mem_cons.2 ⟨by decide, padded 2⟩
  · split
    · exact List.forall_mem_cons.2 ⟨by decide, padded 4⟩
    · exact List.forall_mem_cons.2 ⟨by decide, padded 8⟩

/-- Every end of a line has a letter, so between double quotes there is none left. -/
theorem onLine_doubleChar (c : Char) : OnLine (doubleChar c) := by
  rw [doubleChar]
  split
  · rename_i l letter
    have visible : isLineEnd l = false := by
      simp only [letter?] at letter
      split at letter <;> cases letter <;> decide
    exact List.forall_mem_cons.2 ⟨by decide, List.forall_mem_singleton.2 visible⟩
  · rename_i no_letter
    split
    · refine List.forall_mem_singleton.2 (Bool.eq_false_iff.2 fun ends => ?_)
      simp only [isLineEnd, Bool.or_eq_true, decide_eq_true_eq] at ends
      rcases ends with (((rfl | rfl) | rfl) | rfl) | rfl <;> cases no_letter
    · exact List.forall_mem_cons.2 ⟨by decide, onLine_code c⟩

theorem onLine_double (cs : List Char) : OnLine (double cs) := by
  refine List.forall_mem_cons.2 ⟨by decide, List.forall_mem_append.2 ⟨?_, ?_⟩⟩
  · intro d hd
    obtain ⟨c, -, here⟩ := List.mem_flatMap.1 hd
    exact onLine_doubleChar c d here
  · exact List.forall_mem_singleton.2 (by decide)

/-- What is written from some place on: what comes first does not start with a dash if it is
    at the start of a line. -/
def Placed (broken : Bool) (cs : List Char) : Prop :=
  Indented cs ∧ (broken = true → cs.head? ≠ some '-')

/-- An end of a line, and what is at the start of the next one. -/
theorem Placed.after_end {c : Char} (h : isLineEnd c = true) {cs : List Char}
    (hc : Placed true cs) (broken : Bool) : Placed broken (c :: cs) := by
  obtain ⟨indented, no_dash⟩ := hc
  refine ⟨List.isChain_cons.2 ⟨?_, indented⟩, ?_⟩
  · intro _ first _ dash
    exact no_dash rfl (dash ▸ first)
  · intro _ dash
    rw [Option.some.inj dash] at h
    cases h

/-- Characters of a line, at the indentation if the line starts with them. -/
theorem Placed.on_line {indent : Nat} (pos : 0 < indent) {as bs : List Char} (ha : OnLine as)
    (hb : Placed false bs) (broken : Bool) :
    Placed broken ((if broken then margin indent else []) ++ as ++ bs) := by
  have line := ha.append_indented hb.1
  cases broken with
  | false => exact ⟨line, fun h => (nomatch h)⟩
  | true =>
    rw [if_pos rfl, List.append_assoc]
    refine ⟨(onLine_margin indent).append_indented line, fun _ => ?_⟩
    rw [head?_margin_append pos]
    decide

/-- Lines between single quotes start at the indentation. -/
theorem placed_singleChars {indent : Nat} (pos : 0 < indent) (cs : List Char) (broken : Bool) :
    Placed broken (singleChars indent broken cs) := by
  induction cs generalizing broken with
  | nil =>
    have line : OnLine [] := fun _ h => (nomatch h)
    have alone := Placed.on_line pos line ⟨List.isChain_nil, fun h => (nomatch h)⟩ broken
    rwa [List.append_nil, List.append_nil] at alone
  | cons c cs ih =>
    rw [singleChars]
    by_cases space : c = ' '
    · rw [if_pos space, space]
      exact ⟨indented_cons (by decide) (ih broken).1, fun _ => by simp⟩
    · rw [if_neg space]
      by_cases ends : isLineEnd c = true
      · -- a first line feed is written twice
        rw [if_pos ends]
        split
        · exact .after_end (by decide) (.after_end (by decide) (ih true) true) broken
        · exact .after_end ends (ih true) broken
      · rw [if_neg ends]
        refine .on_line pos ?_ (ih false) broken
        split
        · exact List.forall_mem_cons.2 ⟨by decide, List.forall_mem_singleton.2 (by decide)⟩
        · exact List.forall_mem_singleton.2 (Bool.eq_false_iff.2 ends)

/-- Lines of a block start at the indentation, unless they are empty. -/
theorem placed_blockChars {indent : Nat} (pos : 0 < indent) (cs : List Char) (broken : Bool) :
    Placed broken (blockChars indent broken cs) := by
  induction cs generalizing broken with
  | nil => exact ⟨List.isChain_nil, fun _ h => (nomatch h)⟩
  | cons c cs ih =>
    rw [blockChars]
    by_cases ends : isLineEnd c = true
    · rw [if_pos ends]
      exact .after_end ends (ih true) broken
    · have line : OnLine [c] := List.forall_mem_singleton.2 (Bool.eq_false_iff.2 ends)
      have placed := Placed.on_line pos line (ih false) broken
      rw [List.append_assoc, List.singleton_append] at placed
      rwa [if_neg ends]

theorem indented_single {indent : Nat} (pos : 0 < indent) (cs : List Char) :
    Indented (single indent cs) := by
  have inside := (placed_singleChars pos cs false).1
  exact indented_cons (by decide)
    (inside.append (OnLine.indented (List.forall_mem_singleton.2 (by decide))) (by decide))

/-- A text on its line goes on at the indentation if it goes on over more lines. -/
theorem indented_inLine {indent : Nat} (pos : 0 < indent) (s : String) :
    Indented (inLine indent s) := by
  rw [inLine]
  split
  · rename_i plain
    -- a text without quotes has no end of a line
    simp only [allowsPlain, Bool.and_eq_true, Bool.not_eq_true', List.any_eq_false] at plain
    have on_line : OnLine s.toList := fun c hc => Bool.eq_false_iff.2 (plain.2.1.1.1.1.2 c hc)
    exact on_line.indented
  · split
    · exact indented_single pos _
    · exact (onLine_double _).indented

theorem getLast?_blockChars (indent : Nat) (broken : Bool) (cs : List Char) :
    (blockChars indent broken cs).getLast? = cs.getLast? := by
  induction cs generalizing broken with
  | nil => rfl
  | cons c cs ih =>
    rw [blockChars]
    split
    · rw [List.getLast?_cons, ih, List.getLast?_cons]
    · rw [List.getLast?_append, List.getLast?_cons, ih, List.getLast?_cons, Option.some_or]

theorem onLine_head (cs : List Char) : OnLine (head cs) := by
  have chomps : OnLine (chomping cs) := by
    have keep : OnLine ['+'] := List.forall_mem_singleton.2 (by decide)
    have strip : OnLine ['-'] := List.forall_mem_singleton.2 (by decide)
    rw [chomping]
    split
    · exact strip
    · split
      · exact keep
      · exact strip
    · split
      · exact strip
      · split
        · exact keep
        · exact fun _ h => (nomatch h)
  refine List.forall_mem_cons.2 ⟨by decide, List.forall_mem_append.2 ⟨?_, chomps⟩⟩
  split
  · exact List.forall_mem_singleton.2 (by decide)
  · exact fun _ h => (nomatch h)

/-- A block ends with its last line, which may end as the text does. -/
theorem rest_block {indent : Nat} (pos : 0 < indent) (cs : List Char) :
    RestOfLines (block indent cs) := by
  obtain ⟨indented, no_dash⟩ := placed_blockChars pos cs true
  refine (onLine_head cs).append_rest (WholeLines.after_newline ?_)
  split
  · rename_i ended
    rw [List.append_nil]
    refine ⟨indented, no_dash rfl, .inr ?_⟩
    rw [Ended, getLast?_blockChars]
    exact ended
  · have lines := indented.concat_newline
    exact ⟨lines.indented, head?_append_ne_dash (no_dash rfl) (by decide), .inr lines.ended⟩

/-- A text with the end of its last line. -/
theorem rest_scalar {indent : Nat} (pos : 0 < indent) (s : String) :
    RestOfLines (scalar indent s) := by
  rw [scalar]
  split
  · split
    · exact rest_block pos _
    · exact (onLine_double _).indented.concat_newline
  · exact (indented_inLine pos s).concat_newline

theorem indented_keyChars (indent : Nat) (key : String) : Indented (keyChars indent key) := by
  rw [keyChars]
  split
  · exact (indented_inLine (Nat.succ_pos _) key).append (List.isChain_singleton _) (by decide)
  · -- the colon stands on a line of its own
    have text := (rest_scalar (Nat.succ_pos (indent + 1)) key).indented
    have colon := (onLine_margin indent).append_indented (List.isChain_singleton ':')
    have no_dash : (margin indent ++ [':']).head? ≠ some '-' := by
      cases indent with
      | zero => decide
      | succ n =>
        rw [head?_margin_append (Nat.succ_pos n)]
        decide
    have value := text.append colon no_dash
    rw [← List.append_assoc] at value
    exact indented_cons (by decide) (indented_cons (by decide) value)

/-! ## Trees of texts -/

/-- A tree that has no values but texts. -/
inductive Textual : Tree → Prop
  | text (s : String) : Textual (.text s)
  | list {items : List Tree} (h : ∀ t ∈ items, Textual t) : Textual (.list items)
  | map {entries : List (String × Tree)} (h : ∀ e ∈ entries, Textual e.2) : Textual (.map entries)

/-- A value where its key or the dash of its item stands on the line already. -/
structure Fits (t : Tree) : Prop where
  value : ∀ {indent}, 0 < indent → RestOfLines (valueChars indent t)
  item : ∀ {indent}, RestOfLines (itemChars indent t)

theorem wholeLines_itemsChars {items : List Tree} (fits : ∀ t ∈ items, Fits t) {indent : Nat}
    (pos : 0 < indent) : WholeLines (itemsChars indent items) := by
  induction items with
  | nil =>
    rw [itemsChars]
    exact wholeLines_nil
  | cons t ts ih =>
    obtain ⟨first, others⟩ := List.forall_mem_cons.1 fits
    rw [itemsChars]
    have item : RestOfLines (itemChars indent t) := first.item
    exact (item.append (ih others)).after_dash.at_margin pos

theorem head?_valueChars_ne_dash (indent : Nat) (t : Tree) :
    (valueChars indent t).head? ≠ some '-' := by
  cases t with
  | list items => cases items <;> simp [valueChars]
  | map entries => cases entries <;> simp [valueChars]
  | _ => simp [valueChars]

/-- A key and its value. -/
theorem rest_entry {t : Tree} {indent : Nat} (value : RestOfLines (valueChars indent t))
    (key : String) : RestOfLines (keyChars indent key ++ valueChars indent t) :=
  ⟨(indented_keyChars indent key).append value.indented (head?_valueChars_ne_dash indent t),
    value.ended.append _⟩

theorem wholeLines_entriesChars {entries : List (String × Tree)} {indent : Nat}
    (lines : ∀ e ∈ entries,
      WholeLines (margin indent ++ (keyChars indent e.1 ++ valueChars indent e.2))) :
    WholeLines (entriesChars indent entries) := by
  induction entries with
  | nil =>
    rw [entriesChars]
    exact wholeLines_nil
  | cons e es ih =>
    obtain ⟨first, others⟩ := List.forall_mem_cons.1 lines
    rw [entriesChars, List.append_assoc (margin indent)]
    exact first.append (ih others)

theorem wholeLines_at_margin {entries : List (String × Tree)} (fits : ∀ e ∈ entries, Fits e.2)
    {indent : Nat} (pos : 0 < indent) : WholeLines (entriesChars indent entries) := by
  refine wholeLines_entriesChars fun e he => ?_
  exact (rest_entry ((fits e he).value pos) e.1).at_margin pos

/-- A value that has no parts, or is written as if it had none, has a line of its own. -/
theorem rest_leafLine (indent : Nat) {t : Tree} (h : Textual t) :
    RestOfLines (leafLine (indent + 2) t) := by
  have brackets : OnLine ['[', ']'] := by simp [OnLine, isLineEnd]
  have braces : OnLine ['\x7b', '\x7d'] := by simp [OnLine, isLineEnd]
  cases h with
  | text s => exact rest_scalar (Nat.succ_pos _) s
  | list => exact brackets.indented.concat_newline
  | map => exact braces.indented.concat_newline

theorem textual_list_nil : Textual (.list []) :=
  .list fun _ h => (nomatch h)

theorem textual_map_nil : Textual (.map []) :=
  .map fun _ h => (nomatch h)

theorem rest_text (indent : Nat) (s : String) : RestOfLines (valueChars indent (.text s)) := by
  have leaf := rest_leafLine indent (.text s)
  simpa [valueChars] using leaf.cons (c := ' ') (by decide)

/-- A map is indented further than its key, even if that is not indented. -/
theorem rest_map (indent : Nat) {entries : List (String × Tree)}
    (fits : ∀ e ∈ entries, Fits e.2) : RestOfLines (valueChars indent (.map entries)) := by
  cases entries with
  | nil =>
    have leaf := rest_leafLine indent textual_map_nil
    simpa [valueChars] using leaf.cons (c := ' ') (by decide)
  | cons e es =>
    rw [valueChars]
    exact (wholeLines_at_margin fits (Nat.succ_pos _)).after_newline

theorem rest_list {indent : Nat} (pos : 0 < indent) {items : List Tree}
    (fits : ∀ t ∈ items, Fits t) : RestOfLines (valueChars indent (.list items)) := by
  cases items with
  | nil =>
    have leaf := rest_leafLine indent textual_list_nil
    simpa [valueChars] using leaf.cons (c := ' ') (by decide)
  | cons t ts =>
    rw [valueChars]
    exact (wholeLines_itemsChars fits pos).after_newline

/-- The first line of an item goes on after the dash, where the indentation would be. -/
theorem rest_item_list (indent : Nat) {items : List Tree} (fits : ∀ t ∈ items, Fits t) :
    RestOfLines (itemChars indent (.list items)) := by
  cases items with
  | nil =>
    have leaf := rest_leafLine indent textual_list_nil
    simpa [itemChars] using leaf
  | cons t ts =>
    obtain ⟨first, others⟩ := List.forall_mem_cons.1 fits
    have later := wholeLines_itemsChars others (Nat.succ_pos (indent + 1))
    have item : RestOfLines (itemChars (indent + 2) t) := first.item
    have line := item.append later
    rw [itemChars, itemsChars, drop_margin_append]
    exact line.after_dash

theorem rest_item_map (indent : Nat) {entries : List (String × Tree)}
    (fits : ∀ e ∈ entries, Fits e.2) : RestOfLines (itemChars indent (.map entries)) := by
  cases entries with
  | nil =>
    have leaf := rest_leafLine indent textual_map_nil
    simpa [itemChars] using leaf
  | cons e es =>
    obtain ⟨first, others⟩ := List.forall_mem_cons.1 fits
    have later := wholeLines_at_margin others (Nat.succ_pos (indent + 1))
    have entry := rest_entry (first.value (Nat.succ_pos (indent + 1))) e.1
    rw [itemChars, entriesChars, List.append_assoc, List.append_assoc,
      drop_margin_append, ← List.append_assoc]
    exact entry.append later

theorem fits_of_textual {t : Tree} (h : Textual t) : Fits t := by
  induction h with
  | text s =>
    have item (indent : Nat) : RestOfLines (itemChars indent (.text s)) := by
      simpa [itemChars] using rest_leafLine indent (.text s)
    exact ⟨fun _ => rest_text _ s, item _⟩
  | list _ fits => exact ⟨fun pos => rest_list pos fits, rest_item_list _ fits⟩
  | map _ fits => exact ⟨fun _ => rest_map _ fits, rest_item_map _ fits⟩

/-! ## Documents -/

theorem head?_inLine_ne_dash {indent : Nat} {s : String} (h : s.toList.head? ≠ some '-') :
    (inLine indent s).head? ≠ some '-' := by
  rw [inLine]
  split
  · exact h
  · split
    · simp [single]
    · simp [double]

/-- An entry at the start of a line, if its key does not start with a dash. -/
theorem wholeLines_entry {indent : Nat} {key : String} {t : Tree}
    (no_dash : key.toList.head? ≠ some '-') (value : RestOfLines (valueChars indent t)) :
    WholeLines (keyChars indent key ++ valueChars indent t) := by
  have rest := rest_entry value key
  refine ⟨rest.indented, head?_append_ne_dash ?_ (head?_valueChars_ne_dash indent t),
    .inr rest.ended⟩
  rw [keyChars]
  split
  · exact head?_append_ne_dash (head?_inLine_ne_dash no_dash) (by decide)
  · simp

/-- The entries of a document whose values are texts and maps. -/
theorem wholeLines_document {entries : List (String × Tree)}
    (h : ∀ e ∈ entries, e.1.toList.head? ≠ some '-' ∧ RestOfLines (valueChars 0 e.2)) :
    WholeLines (entriesChars 0 entries) := by
  apply wholeLines_entriesChars
  intro e he
  obtain ⟨no_dash, value⟩ := h e he
  exact wholeLines_entry no_dash value

end ErrorBudget.Yaml
