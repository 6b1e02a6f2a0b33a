/-
  ErrorBudget.Proofs.Labels.Selector

  Selectors that are read back. A value is escaped so that none of its characters can end
  its quotes or its line, whatever they are, so the marks of a selector are only found
  outside of quotes; and a selector has the labels that it was written for.
-/
import Mathlib.Algebra.Group.Nat.Even
import ErrorBudget.Proofs.KeyMap
import ErrorBudget.Proofs.Query.RoundTrip

namespace ErrorBudget.Labels

open Query (isLabelChar isWordOf unescape?)

/-! ## Escapes -/

/-- What a character is written as: a backslash and a letter for it, or the character itself
    if it is none of the four that have a letter. -/
theorem escapeChar_cases (c : Char) :
    (∃ d, escapeChar c = ['\\', d] ∧ unescape? d = some c ∧ d ≠ '\n' ∧ d ≠ '\t') ∨
      escapeChar c = [c] ∧ c ≠ '\\' ∧ c ≠ '"' ∧ c ≠ '\n' ∧ c ≠ '\t' := by
  by_cases backslash : c = '\\'
  · subst backslash
    exact .inl ⟨'\\', by decide⟩
  by_cases quote : c = '"'
  · subst quote
    exact .inl ⟨'"', by decide⟩
  by_cases newline : c = '\n'
  · subst newline
    exact .inl ⟨'n', by decide⟩
  by_cases tab : c = '\t'
  · subst tab
    exact .inl ⟨'t', by decide⟩
  refine .inr ⟨?_, backslash, quote, newline, tab⟩
  rw [escapeChar, if_neg backslash, if_neg quote, if_neg newline, if_neg tab]

/-- The text that escapes stand for. A backslash that nothing follows is no escape. -/
def unescaped? : List Char → Option (List Char)
  | [] => some []
  | '\\' :: c :: cs => (unescape? c).bind fun d => (unescaped? cs).map (d :: ·)
  | '\\' :: [] => none
  | c :: cs => (unescaped? cs).map (c :: ·)

theorem unescaped?_cons {c : Char} (h : c ≠ '\\') (cs : List Char) :
    unescaped? (c :: cs) = (unescaped? cs).map (c :: ·) := by
  rw [unescaped?]
  · intro _ _ same _
    exact h same
  · intro same _
    exact h same

/-- An escaped character is read back as itself. -/
theorem unescaped?_escapeChar (c : Char) (cs : List Char) :
    unescaped? (escapeChar c ++ cs) = (unescaped? cs).map (c :: ·) := by
  rcases escapeChar_cases c with ⟨d, written, letter, -⟩ | ⟨written, plain, -⟩
  · rw [written, List.cons_append, List.singleton_append, unescaped?, letter, Option.bind_some]
  · rw [written, List.singleton_append, unescaped?_cons plain]

theorem unescaped?_flatMap (value : List Char) :
    unescaped? (value.flatMap escapeChar) = some value := by
  induction value with
  | nil => rfl
  | cons c cs ih => rw [List.flatMap_cons, unescaped?_escapeChar, ih, Option.map_some]

/-- A character that no escape is made of is left of no text. -/
theorem not_mem_flatMap_escapeChar {d : Char} (absent : ∀ c, d ∉ escapeChar c)
    (value : List Char) : d ∉ value.flatMap escapeChar := by
  intro listed
  obtain ⟨c, -, here⟩ := List.mem_flatMap.1 listed
  exact absent c here

theorem newline_not_mem_escapeChar (c : Char) : '\n' ∉ escapeChar c := by
  rcases escapeChar_cases c with ⟨d, written, -, newline, -⟩ | ⟨written, -, -, newline, -⟩
  · simp [written, newline.symm]
  · simp [written, newline.symm]

theorem tab_not_mem_escapeChar (c : Char) : '\t' ∉ escapeChar c := by
  rcases escapeChar_cases c with ⟨d, written, -, -, tab⟩ | ⟨written, -, -, -, tab⟩
  · simp [written, tab.symm]
  · simp [written, tab.symm]

/-! ## Quotes -/

/-- How many backslashes a text ends with. A quote after it is escaped if the number is odd. -/
def backslashes (cs : List Char) : Nat :=
  (cs.reverse.takeWhile (· = '\\')).length

theorem backslashes_append (xs ys : List Char) :
    backslashes (xs ++ ys) =
      if backslashes ys = ys.length then backslashes xs + ys.length else backslashes ys := by
  rw [backslashes, List.reverse_append, List.takeWhile_append, ← backslashes, List.length_reverse]
  split
  · rw [List.length_append, List.length_reverse, ← backslashes, Nat.add_comm]
  · rfl

/-- Backslashes in pairs before a text do not change whether it ends with an odd number. -/
theorem odd_backslashes_append {xs ys : List Char} (even : Even (backslashes xs))
    (odd : Odd (backslashes ys)) : Odd (backslashes (xs ++ ys)) := by
  rw [backslashes_append]
  split
  · rename_i all
    exact even.add_odd (all ▸ odd)
  · exact odd

theorem backslashes_concat_of_ne {c : Char} (h : c ≠ '\\') (cs : List Char) :
    backslashes (cs ++ [c]) = 0 := by
  simp [backslashes, h]

theorem even_backslashes_escapeChar (c : Char) : Even (backslashes (escapeChar c)) := by
  rcases escapeChar_cases c with ⟨d, written, -⟩ | ⟨written, plain, -⟩
  · rw [written]
    by_cases pair : d = '\\'
    · subst pair
      decide
    · exact (backslashes_concat_of_ne pair ['\\']).symm ▸ Even.zero
  · exact written ▸ (backslashes_concat_of_ne plain []).symm ▸ Even.zero

/-- A quote in an escaped character has a backslash before it. -/
theorem escapeChar_eq_append_quote {c : Char} {before after : List Char}
    (h : escapeChar c = before ++ '"' :: after) : before = ['\\'] := by
  rcases escapeChar_cases c with ⟨d, written, -⟩ | ⟨written, -, quote, -⟩
  · rw [written] at h
    match before, h with
    | [], h => exact absurd (List.cons.inj h).1 (by decide)
    | [_], h => rw [(List.cons.inj h).1]
    | _ :: _ :: rest, h =>
      have none_left := (List.cons.inj (List.cons.inj h).2).2
      simp at none_left
  · rw [written] at h
    match before, h with
    | [], h => exact absurd (List.cons.inj h).1 quote
    | _ :: rest, h =>
      have none_left := (List.cons.inj h).2
      simp at none_left

/-- Every quote in an escaped text has an odd number of backslashes right before it. -/
theorem odd_backslashes_of_quote {value before after : List Char}
    (h : value.flatMap escapeChar = before ++ '"' :: after) : Odd (backslashes before) := by
  induction value generalizing before with
  | nil => simp at h
  | cons c cs ih =>
    rw [List.flatMap_cons] at h
    rcases List.append_eq_append_iff.1 h with ⟨later, rfl, rest⟩ | ⟨here, written, rest⟩
    · -- the quote stands after what the first character is written as
      exact odd_backslashes_append (even_backslashes_escapeChar c) (ih rest)
    · cases here with
      | nil =>
        -- the rest cannot start with a quote, since nothing would stand before it
        have bare : Odd (backslashes []) := ih (rest.symm)
        exact absurd bare (by decide)
      | cons q here =>
        obtain ⟨rfl, -⟩ := List.cons.inj rest
        rw [escapeChar_eq_append_quote written]
        decide

/-- What a value is written as between its quotes. -/
structure Escapes (value inside : List Char) : Prop where
  between : quote value = '"' :: (inside ++ ['"'])
  no_bare_quote : ∀ before after, inside = before ++ '"' :: after → Odd (backslashes before)
  no_newline : '\n' ∉ inside
  no_tab : '\t' ∉ inside
  read_back : unescaped? inside = some value

theorem escapes_flatMap (value : List Char) : Escapes value (value.flatMap escapeChar) where
  between := rfl
  no_bare_quote _ _ := odd_backslashes_of_quote
  no_newline := not_mem_flatMap_escapeChar newline_not_mem_escapeChar value
  no_tab := not_mem_flatMap_escapeChar tab_not_mem_escapeChar value
  read_back := unescaped?_flatMap value

/-! ## Selectors -/

/-- The keys are names that a query can have for a label: letters, digits and underscores,
    and no digit first. -/
def Named (l : Labels) : Prop :=
  ∀ key ∈ l.keys, isWordOf isLabelChar key.toList = true

instance : DecidablePred Named := fun l =>
  inferInstanceAs (Decidable (∀ key ∈ l.keys, isWordOf isLabelChar key.toList = true))

/-- The matchers of a selector that stands alone, in the order in which it has them. It is
    read as what follows the name of a series. -/
def matchers? (selector : String) : Option (List (String × String)) :=
  (Query.scan (.word []) selector.toList).bind fun ts =>
    match Query.run ⟨[], .brace ""⟩ ts with
    | some ⟨[], .operator (.series s)⟩ => some s.matchers
    | _ => none

/-- A selector is cut into its braces and the tokens of its matchers. -/
theorem scan_selector {l : Labels} (named : l.Named) :
    Query.scan (.word []) l.selector.toList =
      some (.mark '\x7b' :: (Query.matchersTokens l.entries ++ [.mark '\x7d'])) := by
  have keys : ∀ e ∈ l.entries, isWordOf isLabelChar e.1.toList = true :=
    fun e he => named e.1 (List.mem_map_of_mem he)
  have closed : Query.scan (.word []) ['\x7d'] = some [.mark '\x7d'] := by decide
  rw [selector, String.toList_ofList, selectorChars, Query.scan_mark (by decide),
    Query.scan_matchers keys, closed]
  rfl

theorem matchers?_selector {l : Labels} (named : l.Named) :
    matchers? l.selector = some l.entries := by
  have keys : ∀ e ∈ l.entries, isWordOf isLabelChar e.1.toList = true :=
    fun e he => named e.1 (List.mem_map_of_mem he)
  have opened : Query.step ⟨[], .brace ""⟩ (.mark '\x7b') = some ⟨[], .key "" []⟩ := rfl
  rw [matchers?, scan_selector named, Option.bind_some, Query.run_cons, opened, Option.bind_some,
    Query.run_matchers keys, Query.closeSelector, List.nil_append]

/-- Labels whose selectors are the same text are the same. -/
theorem eq_of_selector_eq {a b : Labels} (ha : a.Named) (hb : b.Named)
    (same : a.selector = b.selector) : a = b := by
  have read := matchers?_selector ha
  rw [same, matchers?_selector hb] at read
  exact KeyMap.ext (Option.some.inj read).symm

/-- A selector is read as its labels in ascending order of their keys, no value can end its
    quotes early or break its line, and different labels have different selectors. -/
theorem selectors_decode_uniquely :
    (∀ l : Labels, l.Named →
        matchers? l.selector = some l.entries ∧ l.keys.Pairwise (· < ·)) ∧
      (∀ value, ∃ inside, Escapes value inside) ∧
      ∀ a b : Labels, a.Named → b.Named → a ≠ b → a.selector ≠ b.selector := by
  refine ⟨?_, ?_, ?_⟩
  · intro l named
    exact ⟨matchers?_selector named, KeyMap.keys_ascending l⟩
  · intro value
    exact ⟨_, escapes_flatMap value⟩
  · intro a b ha hb differ same
    exact differ (eq_of_selector_eq ha hb same)

/-- Values that look like escapes and like the end of a selector. -/
theorem selectors_decode_uniquely_lookalikes :
    matchers? "\x7bpath=\"\\\\n\", service=\"a\\\"\x7d, b=\\\"c\"\x7d" =
        some [("path", "\\n"), ("service", "a\"\x7d, b=\"c")] ∧
      selector (KeyMap.ofList [("path", "\\n")]) ≠ selector (KeyMap.ofList [("path", "\n")]) := by
  have written : selector (KeyMap.ofList [("service", "a\"\x7d, b=\"c"), ("path", "\\n")]) =
      "\x7bpath=\"\\\\n\", service=\"a\\\"\x7d, b=\\\"c\"\x7d" := by decide
  have read := (selectors_decode_uniquely.1
    (KeyMap.ofList [("service", "a\"\x7d, b=\"c"), ("path", "\\n")]) (by decide)).1
  rw [written] at read
  exact ⟨read, selectors_decode_uniquely.2.2 _ _ (by decide) (by decide) (by decide)⟩

end ErrorBudget.Labels
