/-
  ErrorBudget.Proofs.Query.RoundTrip

  Reading back what was written: an expression whose operators stand in an order
  that needs no further parentheses is read as what it says, for all names,
  label values and depths.

  The parser works on a stack, and an operator is only completed when a later
  token shows that nothing binds tighter. So reading an expression is said to
  leave a parser that cannot be told, by any operator binding at most as tightly
  as the expression, from one that has the expression's meaning in hand.
-/
import ErrorBudget.Proofs.Query.Scan

namespace ErrorBudget.Query

/-! ## What a query says -/

/-- What an expression says, which parentheses do not change. -/
def meaning : Query → Meaning
  | number literal => .number literal
  | series name labels => .series ⟨String.ofList name, labels.entries⟩
  | product a b => .product a.meaning b.meaning
  | compare r a b => .compare r a.meaning b.meaning
  | both a b => .both a.meaning b.meaning
  | either a b => .either a.meaning b.meaning
  | group a => a.meaning

/-- How tightly an expression holds together. -/
def level : Query → Nat
  | number _ | series _ _ | group _ => 4
  | product _ _ => 3
  | compare _ _ _ => 2
  | both _ _ => 1
  | either _ _ => 0

/-- Every operand holds together at least as tightly as its operator, the right
    one more tightly. -/
def Grouped : Query → Prop
  | number _ | series _ _ => True
  | product a b => 3 ≤ a.level ∧ 3 < b.level ∧ a.Grouped ∧ b.Grouped
  | compare _ a b => 2 ≤ a.level ∧ 2 < b.level ∧ a.Grouped ∧ b.Grouped
  | both a b => 1 ≤ a.level ∧ 1 < b.level ∧ a.Grouped ∧ b.Grouped
  | either a b => 0 ≤ a.level ∧ 0 < b.level ∧ a.Grouped ∧ b.Grouped
  | group a => a.Grouped

/-! ## Parsing -/

/-- The innermost operator of a stack binds less tightly than `level`. -/
def Looser (level : Nat) (stack : List Frame) : Prop :=
  ∀ a o rest, stack = .left a o :: rest → o.level < level

theorem looser_mono {l k : Nat} {stack : List Frame} (h : Looser l stack) (le : l ≤ k) :
    Looser k stack :=
  fun a o rest e => Nat.lt_of_lt_of_le (h a o rest e) le

theorem looser_nil (l : Nat) : Looser l [] :=
  fun _ _ _ e => nomatch e

theorem looser_paren (l : Nat) (stack : List Frame) : Looser l (.paren :: stack) :=
  fun _ _ _ e => nomatch e

theorem looser_left {l : Nat} {o : Operator} (h : o.level < l) (a : Meaning)
    (stack : List Frame) : Looser l (.left a o :: stack) := by
  intro b p rest e
  cases e
  exact h

/-- Nothing is completed if the innermost operator binds less tightly. -/
theorem collapse_of_looser {l : Nat} {stack : List Frame} (h : Looser l stack) (b : Meaning) :
    collapse l stack b = (stack, b) := by
  match stack, h with
  | [], _ => rfl
  | .paren :: _, _ => rfl
  | .left a o :: rest, h =>
    have loose : ¬ l ≤ o.level := Nat.not_le.2 (h a o rest rfl)
    rw [collapse, if_neg loose]

/-- An operator that binds at least as tightly is completed. -/
theorem collapse_left {l : Nat} {o : Operator} (h : l ≤ o.level) (a b : Meaning)
    (stack : List Frame) : collapse l (.left a o :: stack) b = collapse l stack (o.apply a b) := by
  rw [collapse, if_pos h]

/-- The parser after tokens. -/
def run (s : State) (ts : List Token) : Option State :=
  ts.foldlM step s

theorem run_append (s : State) (ts us : List Token) :
    run s (ts ++ us) = (run s ts).bind fun t => run t us :=
  List.foldlM_append

theorem run_cons (s : State) (t : Token) (ts : List Token) :
    run s (t :: ts) = (step s t).bind fun u => run u ts :=
  List.foldlM_cons

/-- From `stack`, the tokens lead to a parser that no operator binding at most as
    tightly as `l` can tell from one with `m` in hand. -/
def Yields (l : Nat) (stack : List Frame) (ts : List Token) (m : Meaning) : Prop :=
  ∃ stack' m', run ⟨stack, .operand⟩ ts = some ⟨stack', .operator m'⟩ ∧
    ∀ k ≤ l, collapse k stack' m' = collapse k stack m

theorem yields_of_run {l : Nat} {stack : List Frame} {ts : List Token} {m : Meaning}
    (h : run ⟨stack, .operand⟩ ts = some ⟨stack, .operator m⟩) : Yields l stack ts m :=
  ⟨stack, m, h, fun _ _ => rfl⟩

/-- An operator between two expressions. -/
theorem yields_infix {la lb : Nat} {stack : List Frame} {ts us : List Token} {t : Token}
    {a b : Meaning} (o : Operator) (token : Operator.ofToken? t = some o)
    (not_paren : t ≠ .mark ')') (la_le : o.level ≤ la) (lt_lb : o.level < lb)
    (loose : Looser o.level stack) (ha : Yields la stack ts a)
    (hb : Yields lb (.left a o :: stack) us b) :
    Yields o.level stack (ts ++ t :: us) (o.apply a b) := by
  obtain ⟨stack₁, a', run_a, same_a⟩ := ha
  obtain ⟨stack₂, b', run_b, same_b⟩ := hb
  -- the operator completes the left operand, and nothing that was there before it
  have in_hand : collapse o.level stack₁ a' = (stack, a) := by
    rw [same_a o.level la_le, collapse_of_looser loose]
  have pushed : step ⟨stack₁, .operator a'⟩ t = some ⟨.left a o :: stack, .operand⟩ := by
    rw [step, stepOperator, if_neg not_paren, token, Option.map_some, in_hand]
  refine ⟨stack₂, b', ?_, fun k hk => ?_⟩
  · rw [run_append, run_a, Option.bind_some, run_cons, pushed, Option.bind_some, run_b]
  · rw [same_b k (by omega), collapse_left hk]

/-- The matchers of a selector up to its end. -/
theorem run_matchers {es : List (String × String)}
    (h : ∀ e ∈ es, isWordOf isLabelChar e.1.toList = true) (stack : List Frame) (name : String)
    (done : List (String × String)) :
    run ⟨stack, .key name done⟩ (matchersTokens es ++ [.mark '\x7d']) =
      some (closeSelector stack name (done ++ es)) := by
  -- one matcher goes from the place of a label's name to the place of a comma
  have matched : ∀ (e : String × String) (done : List (String × String)) (ts : List Token),
      isWordOf isLabelChar e.1.toList = true →
      run ⟨stack, .key name done⟩ (matcherTokens e ++ ts) =
        run ⟨stack, .comma name (done ++ [e])⟩ ts := by
    intro e done ts key
    simp [matcherTokens, run_cons, step, key]
  induction es generalizing done with
  | nil => simp [matchersTokens, step, run]
  | cons e es ih =>
    have first := h e List.mem_cons_self
    have others := fun d hd => h d (List.mem_cons_of_mem e hd)
    cases es with
    | nil =>
      rw [matchersTokens, matched e done _ first]
      simp [step, run]
    | cons d ds =>
      have tail := ih others (done ++ [e])
      rw [matchersTokens_cons_cons, List.append_assoc, matched e done _ first, List.cons_append,
        run_cons, step, if_pos rfl, Option.bind_some, tail, List.append_assoc]
      rfl

/-- Reading the tokens of an expression leaves its meaning in hand. -/
theorem yields_tokens {q : Query} (spelled : q.WellSpelled) (grouped : q.Grouped)
    {stack : List Frame} (loose : Looser q.level stack) :
    Yields q.level stack q.tokens q.meaning := by
  -- the right operand is read above the operator that waits for it, hence every stack
  induction q generalizing stack with
  | number literal =>
    refine yields_of_run ?_
    rw [tokens, run_cons, step, stepOperand, if_pos spelled.1]
    rfl
  | series name labels =>
    obtain ⟨named, no_number, keys⟩ := spelled
    refine yields_of_run ?_
    rw [tokens, run_cons, step, stepOperand, no_number, if_neg (by decide), if_pos named,
      Option.bind_some, run_cons, step, if_pos rfl, Option.bind_some, run_matchers keys]
    rfl
  | product a b iha ihb =>
    obtain ⟨left, right, grouped_a, grouped_b⟩ := grouped
    exact yields_infix .product rfl (by decide) left right loose
      (iha spelled.1 grouped_a (looser_mono loose left))
      (ihb spelled.2 grouped_b (looser_left right _ _))
  | compare r a b iha ihb =>
    obtain ⟨left, right, grouped_a, grouped_b⟩ := grouped
    have token : Operator.ofToken? (.mark (relationMark r)) = some (.compare r) := by
      cases r <;> rfl
    have not_paren : Token.mark (relationMark r) ≠ .mark ')' := by
      cases r <;> decide
    exact yields_infix (.compare r) token not_paren left right loose
      (iha spelled.1 grouped_a (looser_mono loose left))
      (ihb spelled.2 grouped_b (looser_left right _ _))
  | both a b iha ihb =>
    obtain ⟨left, right, grouped_a, grouped_b⟩ := grouped
    exact yields_infix .both rfl (by decide) left right loose
      (iha spelled.1 grouped_a (looser_mono loose left))
      (ihb spelled.2 grouped_b (looser_left right _ _))
  | either a b iha ihb =>
    obtain ⟨left, right, grouped_a, grouped_b⟩ := grouped
    exact yields_infix .either rfl (by decide) left right loose
      (iha spelled.1 grouped_a (looser_mono loose left))
      (ihb spelled.2 grouped_b (looser_left right _ _))
  | group a ih =>
    obtain ⟨stack', m', run_a, same⟩ := ih spelled grouped (looser_paren a.level stack)
    -- the closing parenthesis completes everything up to the opening one
    have closed : collapse 0 stack' m' = (.paren :: stack, a.meaning) := by
      rw [same 0 (Nat.zero_le _), collapse_of_looser (looser_paren 0 stack)]
    refine yields_of_run ?_
    rw [tokens, run_cons, step, stepOperand, if_pos rfl, Option.bind_some, run_append, run_a,
      Option.bind_some, run_cons, step, stepOperator, if_pos rfl, closed]
    rfl

/-- The tokens of an expression are put together to what it says. -/
theorem parse_tokens {q : Query} (spelled : q.WellSpelled) (grouped : q.Grouped) :
    parse q.tokens = some q.meaning := by
  obtain ⟨stack, m, read, same⟩ := yields_tokens spelled grouped (looser_nil q.level)
  -- at the end of the text everything is completed, as by an operator that binds least
  have complete : collapse 0 stack m = ([], q.meaning) := by
    rw [same 0 (Nat.zero_le _), collapse_of_looser (looser_nil 0)]
  have ran : q.tokens.foldlM step ⟨[], .operand⟩ = some ⟨stack, .operator m⟩ := read
  rw [parse, ran, Option.bind_some, finish, complete]

/-- A written expression is read as what it says. -/
theorem read?_chars {q : Query} (spelled : q.WellSpelled) (grouped : q.Grouped) :
    read? (String.ofList q.chars) = some q.meaning := by
  have scanned := scan_chars spelled endsWord_nil
  rw [List.append_nil] at scanned
  rw [read?, String.toList_ofList, scanned]
  simp [scan, endWord, parse_tokens spelled grouped]

/-- Products bind most tightly and or least, and what is quoted stays one text. -/
example :
    read? "a\x7bk=\"x\\\" or \\\\\"\x7d > 1 or b\x7bk=\"y\"\x7d < 2 and (c\x7b\x7d < 3 * 4)" =
      some (.either (.compare .above (.series ⟨"a", [("k", "x\" or \\")]⟩) (.number ['1']))
        (.both (.compare .below (.series ⟨"b", [("k", "y")]⟩) (.number ['2']))
          (.compare .below (.series ⟨"c", []⟩) (.product (.number ['3']) (.number ['4']))))) := by
  decide

end ErrorBudget.Query
