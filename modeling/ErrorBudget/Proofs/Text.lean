/-
  ErrorBudget.Proofs.Text

  White space at the ends of a text, and cutting a text at a character. What is trimmed off
  is blank and comes back nowhere else, and a text is cut first where the character first
  stands. What is put together of parts comes apart into them again.
-/
import Mathlib.Data.List.TakeWhile
import ErrorBudget.Text.Blank
import ErrorBudget.Text.Split

namespace ErrorBudget.Text

/-! ## White space -/

/-- Nothing but white space. -/
def Blank (cs : List Char) : Prop :=
  ∀ c ∈ cs, isSpace c = true

theorem blank_nil : Blank [] :=
  fun _ h => (nomatch h)

theorem blank_append_iff {as bs : List Char} : Blank (as ++ bs) ↔ Blank as ∧ Blank bs :=
  List.forall_mem_append

theorem all_isSpace_iff (cs : List Char) : cs.all isSpace = true ↔ Blank cs :=
  List.all_eq_true

theorem isBlank_iff_blank (s : String) : isBlank s = true ↔ Blank s.toList :=
  all_isSpace_iff s.toList

theorem not_blank_iff (cs : List Char) : ¬ Blank cs ↔ ∃ c ∈ cs, isSpace c = false := by
  simp [Blank]

theorem trimChars_eq_nil_iff (cs : List Char) : trimChars cs = [] ↔ Blank cs := by
  rw [trimChars, List.reverse_eq_nil_iff]
  constructor
  · intro empty
    have blank := List.dropWhile_eq_nil_iff.1 empty
    cases rest : cs.dropWhile isSpace with
    | nil => exact List.dropWhile_eq_nil_iff.1 rest
    | cons c tail =>
      -- what follows the white space before it begins with something to be seen
      have visible := List.head?_dropWhile_not isSpace cs
      rw [rest] at visible blank
      have space := blank c (List.mem_reverse.2 List.mem_cons_self)
      exact absurd space (Bool.eq_false_iff.1 visible)
  · intro blank
    rw [List.dropWhile_eq_nil_iff.2 blank]
    rfl

/-- A text is what is left when it is trimmed, with white space before and after. -/
theorem exists_trimChars (cs : List Char) :
    ∃ before after, Blank before ∧ Blank after ∧ cs = before ++ (trimChars cs ++ after) := by
  have blank (l : List Char) : Blank (l.takeWhile isSpace) :=
    fun c hc => List.mem_takeWhile_imp (p := isSpace) hc
  refine ⟨cs.takeWhile isSpace, ((cs.dropWhile isSpace).reverse.takeWhile isSpace).reverse,
    blank cs, fun c hc => blank _ c (List.mem_reverse.1 hc), ?_⟩
  rw [trimChars, ← List.reverse_append, List.takeWhile_append_dropWhile, List.reverse_reverse,
    List.takeWhile_append_dropWhile]

/-- White space around a text is trimmed off with its own. -/
theorem trimChars_append {before after : List Char} (hb : Blank before) (ha : Blank after)
    (cs : List Char) : trimChars (before ++ (cs ++ after)) = trimChars cs := by
  by_cases blank : Blank cs
  · have all : Blank (before ++ (cs ++ after)) :=
      blank_append_iff.2 ⟨hb, blank_append_iff.2 ⟨blank, ha⟩⟩
    rw [(trimChars_eq_nil_iff _).2 all, (trimChars_eq_nil_iff _).2 blank]
  · -- something is left of the text, so what follows it is only reached from the end
    have rest : cs.dropWhile isSpace ≠ [] := mt List.dropWhile_eq_nil_iff.1 blank
    have front : (cs ++ after).dropWhile isSpace = cs.dropWhile isSpace ++ after := by
      rw [List.dropWhile_append, if_neg (by simpa using rest)]
    have back : ∀ c ∈ after.reverse, isSpace c = true := fun c hc => ha c (List.mem_reverse.1 hc)
    rw [trimChars, List.dropWhile_append_of_pos hb, front, List.reverse_append,
      List.dropWhile_append_of_pos back, trimChars]

theorem trimChars_append_left {before : List Char} (hb : Blank before) (cs : List Char) :
    trimChars (before ++ cs) = trimChars cs := by
  have both := trimChars_append hb blank_nil cs
  rwa [List.append_nil] at both

theorem trimChars_append_right {after : List Char} (ha : Blank after) (cs : List Char) :
    trimChars (cs ++ after) = trimChars cs :=
  trimChars_append blank_nil ha cs

theorem dropWhile_isSpace_of_head? {cs : List Char} (h : cs.head?.any isSpace = false) :
    cs.dropWhile isSpace = cs := by
  cases cs with
  | nil => rfl
  | cons c cs =>
    have visible : isSpace c = false := h
    rw [List.dropWhile_cons, visible, if_neg Bool.false_ne_true]

/-- Nothing is trimmed off a text without white space at its ends. -/
theorem trimChars_eq_self {cs : List Char} (first : cs.head?.any isSpace = false)
    (last : cs.getLast?.any isSpace = false) : trimChars cs = cs := by
  have back : cs.reverse.head?.any isSpace = false := by
    rw [List.head?_reverse]
    exact last
  rw [trimChars, dropWhile_isSpace_of_head? first, dropWhile_isSpace_of_head? back,
    List.reverse_reverse]

/-! ## Cutting at a character -/

variable {sep : Char}

theorem split_cons_self (cs : List Char) : split sep (sep :: cs) = [] :: split sep cs := by
  rw [split, List.foldr_cons, if_pos rfl]
  rfl

theorem split_cons_of_ne {c : Char} (h : c ≠ sep) (cs : List Char) :
    ∃ part parts, split sep cs = part :: parts ∧ split sep (c :: cs) = (c :: part) :: parts := by
  obtain ⟨part, parts, cut⟩ := List.exists_cons_of_ne_nil (split_ne_nil sep cs)
  refine ⟨part, parts, cut, ?_⟩
  rw [split] at cut
  rw [split, List.foldr_cons, if_neg h, cut]

theorem split_of_not_mem {cs : List Char} (h : sep ∉ cs) : split sep cs = [cs] := by
  induction cs with
  | nil => rfl
  | cons c cs ih =>
    obtain ⟨other, none_later⟩ := List.ne_and_not_mem_of_not_mem_cons h
    obtain ⟨part, parts, cut, cut'⟩ := split_cons_of_ne other.symm cs
    rw [ih none_later] at cut
    obtain ⟨rfl, rfl⟩ := List.cons.inj cut
    exact cut'

/-- The first part ends where the character first stands. -/
theorem split_append_cons {first : List Char} (h : sep ∉ first) (rest : List Char) :
    split sep (first ++ sep :: rest) = first :: split sep rest := by
  induction first with
  | nil => exact split_cons_self rest
  | cons c first ih =>
    obtain ⟨other, none_later⟩ := List.ne_and_not_mem_of_not_mem_cons h
    obtain ⟨part, parts, cut, cut'⟩ := split_cons_of_ne other.symm (first ++ sep :: rest)
    rw [ih none_later] at cut
    obtain ⟨rfl, rfl⟩ := List.cons.inj cut
    exact cut'

/-- A separator between two texts is between the parts of the two. -/
theorem split_append (first rest : List Char) :
    split sep (first ++ sep :: rest) = split sep first ++ split sep rest := by
  induction first with
  | nil => exact split_cons_self rest
  | cons c first ih =>
    rw [List.cons_append]
    by_cases same : c = sep
    · rw [same, split_cons_self, split_cons_self, ih, List.cons_append]
    · obtain ⟨part, parts, cut, cut'⟩ := split_cons_of_ne same first
      obtain ⟨part₂, parts₂, cut₂, cut₂'⟩ := split_cons_of_ne same (first ++ sep :: rest)
      rw [ih, cut, List.cons_append] at cut₂
      obtain ⟨rfl, rfl⟩ := List.cons.inj cut₂
      rw [cut', cut₂', List.cons_append]

/-- Parts that are put together come apart again. -/
theorem split_join {parts : List (List Char)} (ne_nil : parts ≠ [])
    (apart : ∀ part ∈ parts, sep ∉ part) : split sep (join sep parts) = parts := by
  induction parts with
  | nil => exact absurd rfl ne_nil
  | cons part parts ih =>
    obtain ⟨absent, others⟩ := List.forall_mem_cons.1 apart
    cases parts with
    | nil =>
      rw [join, List.intersperse_singleton, List.flatten_cons, List.flatten_nil, List.append_nil]
      exact split_of_not_mem absent
    | cons next parts =>
      have joined : join sep (part :: next :: parts) = part ++ sep :: join sep (next :: parts) := by
        rw [join, List.intersperse_cons_cons, List.flatten_cons, List.flatten_cons]
        rfl
      rw [joined, split_append_cons absent, ih (List.cons_ne_nil _ _) others]

/-- A character that stands in a text has a first place in it. -/
theorem exists_first {cs : List Char} (h : sep ∈ cs) :
    ∃ first rest, cs = first ++ sep :: rest ∧ sep ∉ first := by
  obtain ⟨first, rest, text, absent⟩ := List.eq_append_cons_of_mem h
  exact ⟨first, rest, text, absent⟩

/-- Two parts are what stands before and after the one place of the character. -/
theorem split_eq_pair_iff {cs first second : List Char} :
    split sep cs = [first, second] ↔ cs = first ++ sep :: second ∧ sep ∉ first ∧ sep ∉ second := by
  constructor
  · intro cut
    by_cases present : sep ∈ cs
    · obtain ⟨before, rest, rfl, absent⟩ := exists_first present
      rw [split_append_cons absent] at cut
      obtain ⟨rfl, others⟩ := List.cons.inj cut
      have none_left : sep ∉ rest := by
        intro again
        obtain ⟨next, last, rfl, absent'⟩ := exists_first again
        rw [split_append_cons absent'] at others
        exact split_ne_nil sep last (List.cons.inj others).2
      rw [split_of_not_mem none_left] at others
      obtain ⟨rfl, -⟩ := List.cons.inj others
      exact ⟨rfl, absent, none_left⟩
    · rw [split_of_not_mem present] at cut
      cases cut
  · rintro ⟨rfl, absent, none_left⟩
    rw [split_append_cons absent, split_of_not_mem none_left]

end ErrorBudget.Text
