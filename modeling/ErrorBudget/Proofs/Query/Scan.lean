/-
  ErrorBudget.Proofs.Query.Scan

  Scanning what expressions are written with: a written expression is cut into
  the tokens that it was put together from, whatever stands in its label values.
-/
import ErrorBudget.Proofs.Decimal.Literal
import ErrorBudget.Proofs.Query.Reader

namespace ErrorBudget.Query

open Labels (escapeChar matcher quote selectorChars)

/-! ## Kinds of characters -/

/-- The characters that end a word. -/
def delimiters : List Char :=
  [' ', '\t', '\n', '\r', '(', ')', '\x7b', '\x7d', ',', '=', '*', '<', '>', '"']

theorem mem_delimiters_of_not_isPlain {c : Char} (h : isPlain c = false) : c ∈ delimiters := by
  simp only [isPlain, Bool.not_eq_false', Bool.or_eq_true, isSpace, isMark, decide_eq_true_eq,
    List.contains_iff_mem] at h
  rcases h with (h | h) | rfl
  · exact List.mem_append_left _ h
  · exact List.mem_append_right [' ', '\t', '\n', '\r'] (List.mem_append_left ['"'] h)
  · decide

/-- A kind of characters that no delimiter is of is a kind that words can have. -/
theorem isPlain_of (kind : Char → Bool) (apart : (delimiters.all fun d => !kind d) = true)
    {c : Char} (h : kind c = true) : isPlain c = true := by
  by_contra not_plain
  rw [Bool.not_eq_true] at not_plain
  have other := List.all_eq_true.1 apart c (mem_delimiters_of_not_isPlain not_plain)
  rw [h] at other
  cases other

theorem isPlain_of_isDigit {c : Char} (h : c.isDigit = true) : isPlain c = true :=
  isPlain_of Char.isDigit (by decide) h

/-! ## Scanning one token -/

/-- What may follow a word: nothing, or something that is no part of it. -/
def EndsWord (rest : List Char) : Prop :=
  ∀ c ∈ rest.head?, isPlain c = false

theorem endsWord_nil : EndsWord [] := by
  simp [EndsWord]

theorem endsWord_cons {c : Char} (h : isPlain c = false) (cs : List Char) :
    EndsWord (c :: cs) := by
  simp [EndsWord, h]

/-- An empty word is no token. -/
theorem map_endWord_nil (ts : Option (List Token)) : ts.map (endWord []) = ts := by
  have same : endWord [] = id := rfl
  rw [same, Option.map_id, id]

/-- Characters of a word are gathered. -/
theorem scan_word_append {w : List Char} (h : ∀ c ∈ w, isPlain c = true) (done rest : List Char) :
    scan (.word done) (w ++ rest) = scan (.word (w.reverse ++ done)) rest := by
  induction w generalizing done with
  | nil => rfl
  | cons c cs ih =>
    have plain : isPlain c = true := h c List.mem_cons_self
    rw [List.cons_append, scan, if_pos plain, ih fun d hd => h d (List.mem_cons_of_mem c hd)]
    simp

/-- A word that has ended is a token of its own. -/
theorem scan_endWord {rest : List Char} (h : EndsWord rest) (done : List Char) :
    scan (.word done) rest = (scan (.word []) rest).map (endWord done) := by
  cases rest with
  | nil => simp [scan, endWord]
  | cons c cs =>
    have ends : isPlain c = false := h c rfl
    -- a quote, a space and a mark each end the word before they are looked at
    rw [scan, scan, ends]
    simp only [Bool.false_eq_true, if_false]
    split
    · rw [map_endWord_nil]
    · split
      · rw [map_endWord_nil]
      · rw [Option.map_map]
        rfl

theorem scan_word {w rest : List Char} (ne_nil : w ≠ []) (h : ∀ c ∈ w, isPlain c = true)
    (ends : EndsWord rest) :
    scan (.word []) (w ++ rest) = (scan (.word []) rest).map (.word w :: ·) := by
  rw [scan_word_append h, scan_endWord ends]
  congr 1
  funext ts
  simp [endWord, ne_nil]

theorem scan_space (cs : List Char) : scan (.word []) (' ' :: cs) = scan (.word []) cs := by
  have plain : isPlain ' ' = false := by decide
  have space : isSpace ' ' = true := by decide
  simp [scan, plain, space, map_endWord_nil]

theorem scan_mark {c : Char} (h : isMark c = true) (cs : List Char) :
    scan (.word []) (c :: cs) = (scan (.word []) cs).map (.mark c :: ·) := by
  have kinds : (['(', ')', '\x7b', '\x7d', ',', '=', '*', '<', '>'].all fun d =>
      !isPlain d && !isSpace d && d != '"') = true := by decide
  have kind := List.all_eq_true.1 kinds c (List.contains_iff_mem.1 h)
  simp only [Bool.and_eq_true, Bool.not_eq_true', bne_iff_ne] at kind
  obtain ⟨⟨plain, space⟩, quote⟩ := kind
  simp [scan, plain, space, quote, endWord]

/-! ## Number words -/

open Decimal (IsDigits IsMantissa IsUnsigned IsLiteral)

theorem exists_digit_of_isDigits {ds : List Char} (h : IsDigits ds) :
    ∃ d cs, ds = d :: cs ∧ d.isDigit = true := by
  obtain ⟨ne_nil, digits⟩ := h
  cases ds with
  | nil => exact absurd rfl ne_nil
  | cons d cs => exact ⟨d, cs, rfl, digits d List.mem_cons_self⟩

/-- An unsigned number starts with a digit. -/
theorem exists_digit_of_isUnsigned {cs : List Char} (h : IsUnsigned cs) :
    ∃ d ds, cs = d :: ds ∧ d.isDigit = true := by
  have mantissa : ∀ {m : List Char}, IsMantissa m → ∃ d ds, m = d :: ds ∧ d.isDigit = true := by
    intro m hm
    cases hm with
    | whole digits => exact exists_digit_of_isDigits digits
    | fraction digits _ =>
      obtain ⟨d, ds, rfl, hd⟩ := exists_digit_of_isDigits digits
      exact ⟨d, _, rfl, hd⟩
  cases h with
  | plain hm => exact mantissa hm
  | scaled hm =>
    obtain ⟨d, ds, rfl, hd⟩ := mantissa hm
    exact ⟨d, _, rfl, hd⟩

theorem isPlain_of_mem_isUnsigned {cs : List Char} (h : IsUnsigned cs) :
    ∀ c ∈ cs, isPlain c = true := by
  have digits : ∀ {ds : List Char}, IsDigits ds → ∀ c ∈ ds, isPlain c = true :=
    fun hd c hc => isPlain_of_isDigit (hd.isDigit c hc)
  have mantissa : ∀ {m : List Char}, IsMantissa m → ∀ c ∈ m, isPlain c = true := by
    intro m hm
    cases hm with
    | whole hd => exact digits hd
    | fraction hd hf =>
      exact List.forall_mem_append.2
        ⟨digits hd, List.forall_mem_cons.2 ⟨by decide, digits hf⟩⟩
  cases h with
  | plain hm => exact mantissa hm
  | scaled hm sign hp _ =>
    refine List.forall_mem_append.2 ⟨mantissa hm, List.forall_mem_cons.2 ⟨by decide, ?_⟩⟩
    refine List.forall_mem_cons.2 ⟨?_, digits hp⟩
    rcases sign with rfl | rfl
    · decide
    · decide

/-- Number literals are number words. -/
theorem isNumber_of_isLiteral {cs : List Char} (h : IsLiteral cs) : isNumber cs = true := by
  cases h with
  | positive hu =>
    have read := Decimal.isSome_readUnsigned? hu
    -- its first character is a digit, so no sign is taken off
    obtain ⟨d, ds, rfl, digit⟩ := exists_digit_of_isUnsigned hu
    have plus : d ≠ '+' := by
      rintro rfl
      cases digit
    have minus : d ≠ '-' := by
      rintro rfl
      cases digit
    simp [isNumber, plus, minus, read]
  | negative hu => simp [isNumber, Decimal.isSome_readUnsigned? hu]
  | notANumber => rfl
  | infinite => rfl
  | negativeInfinite => rfl

theorem isPlain_of_mem_isLiteral {cs : List Char} (h : IsLiteral cs) :
    ∀ c ∈ cs, isPlain c = true := by
  cases h with
  | positive hu => exact isPlain_of_mem_isUnsigned hu
  | negative hu => exact List.forall_mem_cons.2 ⟨by decide, isPlain_of_mem_isUnsigned hu⟩
  | notANumber => exact List.all_eq_true.1 (by decide)
  | infinite => exact List.all_eq_true.1 (by decide)
  | negativeInfinite => exact List.all_eq_true.1 (by decide)

/-! ## Scanning quoted texts -/

/-- An escaped character is read back as itself. -/
theorem scan_escapeChar (c : Char) (done rest : List Char) :
    scan (.quoted done) (escapeChar c ++ rest) = scan (.quoted (c :: done)) rest := by
  -- four characters are escaped, and any other one is no quote, backslash or newline
  by_cases backslash : c = '\\'
  · subst backslash
    rfl
  by_cases quote : c = '"'
  · subst quote
    rfl
  by_cases newline : c = '\n'
  · subst newline
    rfl
  by_cases tab : c = '\t'
  · subst tab
    rfl
  simp [escapeChar, scan, backslash, quote, newline, tab]

theorem scan_escaped (v done rest : List Char) :
    scan (.quoted done) (v.flatMap escapeChar ++ rest) =
      scan (.quoted (v.reverse ++ done)) rest := by
  induction v generalizing done with
  | nil => rfl
  | cons c cs ih =>
    rw [List.flatMap_cons, List.append_assoc, scan_escapeChar, ih]
    simp

/-- A quoted text is read back as it was, whatever its characters are. -/
theorem scan_quote (v rest : List Char) :
    scan (.word []) (quote v ++ rest) = (scan (.word []) rest).map (.text v :: ·) := by
  have plain : isPlain '"' = false := by decide
  have opened : scan (.word []) (quote v ++ rest) =
      scan (.quoted []) (v.flatMap escapeChar ++ ('"' :: rest)) := by
    simp [quote, scan, plain, map_endWord_nil]
  -- no character of the text is left that could close the quotes early
  rw [opened, scan_escaped]
  simp [scan]

/-! ## Scanning expressions -/

/-- The tokens of a matcher. -/
def matcherTokens (e : String × String) : List Token :=
  [.word e.1.toList, .mark '=', .text e.2.toList]

/-- The tokens of matchers with commas between them. -/
def matchersTokens : List (String × String) → List Token
  | [] => []
  | [e] => matcherTokens e
  | e :: es => matcherTokens e ++ .mark ',' :: matchersTokens es

theorem matchersTokens_cons_cons (e d : String × String) (es : List (String × String)) :
    matchersTokens (e :: d :: es) = matcherTokens e ++ .mark ',' :: matchersTokens (d :: es) :=
  rfl

/-- The character that a relation is written with. -/
def relationMark : Relation → Char
  | .above => '>'
  | .below => '<'

/-- The tokens that an expression is written with. -/
def tokens : Query → List Token
  | number literal => [.word literal]
  | series name labels =>
    .word name :: .mark '\x7b' :: (matchersTokens labels.entries ++ [.mark '\x7d'])
  | product a b => a.tokens ++ .mark '*' :: b.tokens
  | compare r a b => a.tokens ++ .mark (relationMark r) :: b.tokens
  | both a b => a.tokens ++ .word ['a', 'n', 'd'] :: b.tokens
  | either a b => a.tokens ++ .word ['o', 'r'] :: b.tokens
  | group a => .mark '(' :: (a.tokens ++ [.mark ')'])

/-- Names, label names and numbers of an expression are what they have to be. -/
def WellSpelled : Query → Prop
  | number literal => isNumber literal = true ∧ ∀ c ∈ literal, isPlain c = true
  | series name labels =>
    isWordOf isNameChar name = true ∧ isNumber name = false ∧
      ∀ e ∈ labels.entries, isWordOf isLabelChar e.1.toList = true
  | product a b | compare _ a b | both a b | either a b => a.WellSpelled ∧ b.WellSpelled
  | group a => a.WellSpelled

theorem ne_nil_of_isWordOf {kind : Char → Bool} {w : List Char} (h : isWordOf kind w = true) :
    w ≠ [] := by
  rintro rfl
  cases h

theorem isPlain_of_isWordOf {kind : Char → Bool}
    (apart : (delimiters.all fun d => !kind d) = true) {w : List Char}
    (h : isWordOf kind w = true) : ∀ c ∈ w, isPlain c = true := by
  intro c hc
  simp only [isWordOf, Bool.and_eq_true, List.all_eq_true] at h
  exact isPlain_of kind apart (h.1.2 c hc)

theorem scan_matcher {e : String × String} (h : isWordOf isLabelChar e.1.toList = true)
    (rest : List Char) :
    scan (.word []) (matcher e ++ rest) =
      (scan (.word []) rest).map (matcherTokens e ++ ·) := by
  have plain := isPlain_of_isWordOf (by decide) h
  rw [matcher, List.append_assoc, List.cons_append,
    scan_word (ne_nil_of_isWordOf h) plain (endsWord_cons (by decide) _), scan_mark (by decide),
    scan_quote]
  simp [matcherTokens, Function.comp_def]

theorem scan_matchers {es : List (String × String)}
    (h : ∀ e ∈ es, isWordOf isLabelChar e.1.toList = true) (rest : List Char) :
    scan (.word []) (((es.map matcher).intersperse [',', ' ']).flatten ++ rest) =
      (scan (.word []) rest).map (matchersTokens es ++ ·) := by
  induction es with
  | nil => simp [matchersTokens]
  | cons e es ih =>
    have first := h e List.mem_cons_self
    have others := fun d hd => h d (List.mem_cons_of_mem e hd)
    cases es with
    | nil => simpa [matchersTokens] using scan_matcher first rest
    | cons d ds =>
      have tail := ih others
      simp only [List.map_cons, List.intersperse_cons_cons, List.flatten_cons, List.append_assoc]
        at tail ⊢
      rw [scan_matcher first, List.cons_append, List.cons_append, List.nil_append,
        scan_mark (by decide), scan_space, tail]
      simp [matchersTokens, Function.comp_def]

/-- A text between two operands that is one token. -/
structure Separates (sep : List Char) (t : Token) : Prop where
  endsWord : ∀ rest, EndsWord (sep ++ rest)
  scan : ∀ rest, scan (.word []) (sep ++ rest) = (scan (.word []) rest).map (t :: ·)

theorem separates_mark {c : Char} (h : isMark c = true) : Separates [' ', c, ' '] (.mark c) := by
  refine ⟨fun rest => endsWord_cons (by decide) _, fun rest => ?_⟩
  rw [List.cons_append, List.cons_append, scan_space, scan_mark h, List.cons_append, scan_space,
    List.nil_append]

theorem separates_word (w : List Char) (ne_nil : w ≠ []) (h : w.all isPlain = true) :
    Separates (' ' :: (w ++ [' '])) (.word w) := by
  refine ⟨fun rest => endsWord_cons (by decide) _, fun rest => ?_⟩
  have ends : EndsWord ([' '] ++ rest) := endsWord_cons (by decide) rest
  rw [List.cons_append, scan_space, List.append_assoc, scan_word ne_nil (List.all_eq_true.1 h) ends,
    List.cons_append, scan_space, List.nil_append]

/-- An operator between two expressions that are cut into their tokens. -/
theorem scan_infix {a b : Query} {sep rest : List Char} {t : Token} (between : Separates sep t)
    (ha : ∀ {rest}, EndsWord rest →
      scan (.word []) (a.chars ++ rest) = (scan (.word []) rest).map (a.tokens ++ ·))
    (hb : scan (.word []) (b.chars ++ rest) = (scan (.word []) rest).map (b.tokens ++ ·)) :
    scan (.word []) (a.chars ++ sep ++ b.chars ++ rest) =
      (scan (.word []) rest).map (a.tokens ++ t :: b.tokens ++ ·) := by
  rw [List.append_assoc, List.append_assoc, ha (between.endsWord _), between.scan, hb]
  simp [Function.comp_def]

/-- A written expression is cut into its tokens. -/
theorem scan_chars {q : Query} (h : q.WellSpelled) {rest : List Char} (ends : EndsWord rest) :
    scan (.word []) (q.chars ++ rest) = (scan (.word []) rest).map (q.tokens ++ ·) := by
  -- an operand is followed by a separator, and what follows the last one ends it too
  induction q generalizing rest with
  | number literal =>
    obtain ⟨number, plain⟩ := h
    have ne_nil : literal ≠ [] := by
      rintro rfl
      cases number
    rw [chars, scan_word ne_nil plain ends]
    rfl
  | series name labels =>
    obtain ⟨named, -, keys⟩ := h
    have plain := isPlain_of_isWordOf (by decide) named
    rw [chars, selectorChars, List.append_assoc, List.cons_append,
      scan_word (ne_nil_of_isWordOf named) plain (endsWord_cons (by decide) _),
      scan_mark (by decide), List.append_assoc, scan_matchers keys, List.cons_append,
      scan_mark (by decide)]
    simp [tokens, Function.comp_def]
  | product a b iha ihb =>
    exact scan_infix (separates_mark (by decide)) (iha h.1) (ihb h.2 ends)
  | compare r a b iha ihb =>
    -- both relations are one mark between spaces
    have signed : (compare r a b).chars = a.chars ++ [' ', relationMark r, ' '] ++ b.chars := by
      cases r <;> simp [chars, Relation.sign, relationMark]
    have mark : isMark (relationMark r) = true := by
      cases r <;> decide
    rw [signed]
    exact scan_infix (separates_mark mark) (iha h.1) (ihb h.2 ends)
  | both a b iha ihb =>
    exact scan_infix (separates_word ['a', 'n', 'd'] (by decide) (by decide))
      (iha h.1) (ihb h.2 ends)
  | either a b iha ihb =>
    exact scan_infix (separates_word ['o', 'r'] (by decide) (by decide))
      (iha h.1) (ihb h.2 ends)
  | group a ih =>
    rw [chars, List.cons_append, List.append_assoc, List.cons_append, scan_mark (by decide),
      ih h (endsWord_cons (by decide) _), scan_mark (by decide), List.nil_append]
    simp [tokens, Function.comp_def]

end ErrorBudget.Query
