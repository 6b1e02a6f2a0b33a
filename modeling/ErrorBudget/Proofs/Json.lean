/-
  ErrorBudget.Proofs.Json

  Trees of texts that are printed as JSON are read back. A text is escaped so that its quotes
  end where it does, so the marks of lists and maps are only found between texts; and the
  tokens that are found give the tree again, with the entries of every map in ascending order.
-/
import ErrorBudget.Json.Printer
import ErrorBudget.Json.Reader
import ErrorBudget.Proofs.Tree

namespace ErrorBudget.Json

open Token (scan?)

/-! ## Texts -/

namespace Token

variable {done : List Token}

theorem scan?_cons {place next : Place} {c : Char} {ts : List Token}
    (step : next? place c = some (ts, next)) (cs : List Char) :
    scan? done place (c :: cs) = scan? (ts.reverse ++ done) next cs := by
  rw [scan?, step]

/-- The digits of the number of a character that has to be told by its number. -/
theorem digits_of_control : ∀ n < 32, ∃ high low, high < 16 ∧ low < 16 ∧ 16 * high + low = n ∧
    Text.padLeft 4 (Text.hexDigits n) = ['0', '0', high.digitChar, low.digitChar] := by
  have digits : ∀ n < 32, Text.padLeft 4 (Text.hexDigits n) =
      ['0', '0', (n / 16).digitChar, (n % 16).digitChar] := by decide
  intro n small
  exact ⟨n / 16, n % 16, by omega, by omega, by omega, digits n small⟩

theorem hexValue?_digitChar : ∀ d < 16, Text.hexValue? d.digitChar = some d := by
  decide

/-- A number of four digits is the character with this number. -/
theorem scan?_code (acc : List Char) {c : Char} (control : c < ' ') (cs : List Char) :
    scan? done (.escape acc) ('u' :: (Text.padLeft 4 (Text.hexDigits c.toNat) ++ cs)) =
      scan? done (.string (c :: acc)) cs := by
  obtain ⟨high, low, high_lt, low_lt, number, digits⟩ := digits_of_control c.toNat control
  have coded : Text.ofCode? (16 * high + low) = some c := by
    have valid : c.toNat.isValidChar := c.valid
    rw [number, Text.ofCode?, if_pos valid, Char.ofNat_toNat]
  have no_half : ¬ 0xD800 ≤ 16 * high + low := by omega
  have zero : Text.hexValue? '0' = some 0 := by decide
  rw [digits]
  simp [scan?, next?, afterCode, hexValue?_digitChar, high_lt, low_lt, coded, no_half, zero]

/-- A character inside a string is read as itself. -/
theorem scan?_stringChar (acc : List Char) (c : Char) (cs : List Char) :
    scan? done (.string acc) (stringChar c ++ cs) = scan? done (.string (c :: acc)) cs := by
  -- the characters that a backslash and a letter stand for
  by_cases quote : c = '"'
  · rw [quote]; rfl
  by_cases backslash : c = '\\'
  · rw [backslash]; rfl
  by_cases newline : c = '\n'
  · rw [newline]; rfl
  by_cases ret : c = '\r'
  · rw [ret]; rfl
  by_cases tab : c = '\t'
  · rw [tab]; rfl
  by_cases back : c = '\x08'
  · rw [back]; rfl
  by_cases feed : c = '\x0c'
  · rw [feed]; rfl
  rw [stringChar, if_neg quote, if_neg backslash, if_neg newline, if_neg ret, if_neg tab,
    if_neg back, if_neg feed]
  by_cases control : c < ' '
  · have escape : next? (.string acc) '\\' = some ([], .escape acc) := rfl
    rw [if_pos control, List.cons_append, List.cons_append, scan?_cons escape]
    exact scan?_code acc control cs
  · have plain : next? (.string acc) c = some ([], .string (c :: acc)) := by
      rw [next?, if_neg quote, if_neg backslash, if_neg control]
    rw [if_neg control, List.singleton_append, scan?_cons plain]
    rfl

theorem scan?_stringChars (acc cs rest : List Char) :
    scan? done (.string acc) (cs.flatMap stringChar ++ '"' :: rest) =
      scan? (.string (String.ofList (acc.reverse ++ cs)) :: done) .between rest := by
  induction cs generalizing acc with
  | nil =>
    have closed : next? (.string acc) '"' =
        some ([.string (String.ofList acc.reverse)], .between) := rfl
    rw [List.flatMap_nil, List.nil_append, scan?_cons closed, List.append_nil]
    rfl
  | cons c cs ih =>
    rw [List.flatMap_cons, List.append_assoc, scan?_stringChar, ih, List.reverse_cons,
      List.append_assoc, List.singleton_append]

end Token

/-! ## Tokens -/

/-- Characters that are cut into tokens, whatever comes before and after them. -/
def Cut (cs : List Char) (ts : List Token) : Prop :=
  ∀ done rest, scan? done .between (cs ++ rest) = scan? (ts.reverse ++ done) .between rest

theorem Cut.append {as bs : List Char} {ts us : List Token} (ha : Cut as ts) (hb : Cut bs us) :
    Cut (as ++ bs) (ts ++ us) := by
  intro done rest
  rw [List.append_assoc, ha, hb, List.reverse_append, List.append_assoc]

theorem cut_nil : Cut [] [] :=
  fun _ _ => rfl

theorem Cut.mark {cs : List Char} {ts : List Token} (h : Cut cs ts) {c : Char}
    (mark : Token.next? .between c = some ([.mark c], .between)) :
    Cut (c :: cs) (.mark c :: ts) := by
  intro done rest
  rw [List.cons_append, Token.scan?_cons mark, h, ← List.append_assoc, ← List.reverse_append]
  rfl

theorem Cut.gap {cs : List Char} {ts : List Token} (h : Cut cs ts) {c : Char}
    (gap : Token.next? .between c = some ([], .between)) : Cut (c :: cs) ts := by
  intro done rest
  rw [List.cons_append, Token.scan?_cons gap, h]
  rfl

theorem cut_newLine (depth : Nat) : Cut (newLine depth) [] := by
  rw [newLine]
  refine Cut.gap ?_ rfl
  induction 2 * depth with
  | zero => exact cut_nil
  | succ n ih =>
    rw [List.replicate_succ]
    exact ih.gap rfl

theorem cut_string (s : String) : Cut (string s) [.string s] := by
  intro done rest
  have opened : Token.next? .between '"' = some ([], .string []) := rfl
  rw [string, List.cons_append, Token.scan?_cons opened, List.append_assoc, List.singleton_append,
    Token.scan?_stringChars, List.reverse_nil, List.nil_append, String.ofList_toList]
  rfl

/-! ## Values -/

/-- A value may come next. -/
inductive WantsValue : Want → Prop where
  | value : WantsValue .value
  | valueOrEnd : WantsValue .valueOrEnd

/-- A key may come next, after the entries in `done`. -/
inductive WantsKey : Want → List (String × Tree) → Prop where
  | keyOrEnd : WantsKey .keyOrEnd []
  | key (done : List (String × Tree)) : WantsKey (.key done) done

/-- Tokens that give a value wherever one may come. -/
def Gives (ts : List Token) (t : Tree) : Prop :=
  ∀ frames want, WantsValue want →
    ts.foldlM State.next? ⟨frames, want⟩ = some (.give frames t)

/-- Tokens that give one item or more of a list. -/
def GivesItems (ts : List Token) (items : List Tree) : Prop :=
  ∀ frames done want, WantsValue want →
    ts.foldlM State.next? ⟨.list done :: frames, want⟩ =
      some ⟨.list (items.reverse ++ done) :: frames, .more⟩

/-- Tokens that give one entry or more of a map. -/
def GivesEntries (ts : List Token) (entries : List (String × Tree)) : Prop :=
  ∃ last, ∀ frames done want, WantsKey want done →
    ts.foldlM State.next? ⟨frames, want⟩ =
      some ⟨.map (entries.reverse ++ done) last :: frames, .more⟩

theorem foldlM_next?_cons {s s' : State} {t : Token} (step : s.next? t = some s')
    (ts : List Token) : (t :: ts).foldlM State.next? s = ts.foldlM State.next? s' := by
  rw [List.foldlM_cons, step]
  rfl

theorem foldlM_next?_append {s s' : State} {ts : List Token}
    (run : ts.foldlM State.next? s = some s') (us : List Token) :
    (ts ++ us).foldlM State.next? s = us.foldlM State.next? s' := by
  rw [List.foldlM_append, run]
  rfl

theorem gives_text (s : String) : Gives [.string s] (.text s) := by
  intro frames want wants
  cases wants with
  | value => rfl
  | valueOrEnd => rfl

theorem gives_list_nil : Gives [.mark '[', .mark ']'] (.list []) := by
  intro frames want wants
  cases wants with
  | value => rfl
  | valueOrEnd => rfl

theorem gives_map_nil : Gives [.mark '\x7b', .mark '\x7d'] (.map []) := by
  intro frames want wants
  cases wants with
  | value => rfl
  | valueOrEnd => rfl

theorem Gives.item {ts : List Token} {t : Tree} (h : Gives ts t) : GivesItems ts [t] := by
  intro frames done want wants
  exact h (.list done :: frames) want wants

theorem Gives.items {ts us : List Token} {t : Tree} {items : List Tree} (h : Gives ts t)
    (later : GivesItems us items) : GivesItems (ts ++ .mark ',' :: us) (t :: items) := by
  intro frames done want wants
  have comma : State.next? (.give (.list done :: frames) t) (.mark ',') =
      some ⟨.list (t :: done) :: frames, .value⟩ := rfl
  rw [foldlM_next?_append (h _ _ wants), foldlM_next?_cons comma, later _ _ _ .value,
    List.reverse_cons, List.append_assoc, List.singleton_append]

theorem GivesItems.list {ts : List Token} {items : List Tree} (h : GivesItems ts items) :
    Gives (.mark '[' :: (ts ++ [.mark ']'])) (.list items) := by
  intro frames want wants
  have opened : State.next? ⟨frames, want⟩ (.mark '[') =
      some ⟨.list [] :: frames, .valueOrEnd⟩ := by
    cases wants with
    | value => rfl
    | valueOrEnd => rfl
  rw [foldlM_next?_cons opened, foldlM_next?_append (h _ _ _ .valueOrEnd), List.append_nil]
  have closed : State.next? ⟨.list items.reverse :: frames, .more⟩ (.mark ']') =
      some (.give frames (.list items.reverse.reverse)) := rfl
  rw [foldlM_next?_cons closed, List.reverse_reverse]
  rfl

/-- A key and its value. -/
theorem Gives.entry {ts : List Token} {t : Tree} (h : Gives ts t) (key : String) :
    GivesEntries (.string key :: .mark ':' :: ts) [(key, t)] := by
  refine ⟨key, fun frames done want wants => ?_⟩
  have named : State.next? ⟨frames, want⟩ (.string key) = some ⟨frames, .colon done key⟩ := by
    cases wants with
    | keyOrEnd => rfl
    | key => rfl
  have colon : State.next? ⟨frames, .colon done key⟩ (.mark ':') =
      some ⟨.map done key :: frames, .value⟩ := rfl
  rw [foldlM_next?_cons named, foldlM_next?_cons colon, h _ _ .value]
  rfl

theorem GivesEntries.append {ts us : List Token} {es fs : List (String × Tree)}
    (h : GivesEntries ts es) (later : GivesEntries us fs) :
    GivesEntries (ts ++ .mark ',' :: us) (es ++ fs) := by
  obtain ⟨last, gives⟩ := h
  obtain ⟨last', gives'⟩ := later
  refine ⟨last', fun frames done want wants => ?_⟩
  have comma : State.next? ⟨.map (es.reverse ++ done) last :: frames, .more⟩ (.mark ',') =
      some ⟨frames, .key (es.reverse ++ done)⟩ := rfl
  rw [foldlM_next?_append (gives _ _ _ wants), foldlM_next?_cons comma, gives' _ _ _ (.key _),
    List.reverse_append, List.append_assoc]

theorem GivesEntries.map {ts : List Token} {es : List (String × Tree)} (h : GivesEntries ts es) :
    Gives (.mark '\x7b' :: (ts ++ [.mark '\x7d'])) (.map (KeyMap.ofList es).entries) := by
  obtain ⟨last, gives⟩ := h
  intro frames want wants
  have opened : State.next? ⟨frames, want⟩ (.mark '\x7b') = some ⟨frames, .keyOrEnd⟩ := by
    cases wants with
    | value => rfl
    | valueOrEnd => rfl
  have closed : State.next? ⟨.map es.reverse last :: frames, .more⟩ (.mark '\x7d') =
      some (.give frames (mapOf es.reverse)) := rfl
  rw [foldlM_next?_cons opened, foldlM_next?_append (gives _ _ _ .keyOrEnd), List.append_nil,
    foldlM_next?_cons closed, mapOf, List.reverse_reverse]
  rfl

/-! ## Trees of texts -/

/-- A tree that has no values but texts, and in whose maps every key is there once. -/
inductive Plain : Tree → Prop where
  | text (s : String) : Plain (.text s)
  | list {items : List Tree} (each : ∀ t ∈ items, Plain t) : Plain (.list items)
  | map {entries : List (String × Tree)} (once : (entries.map Prod.fst).Nodup)
      (each : ∀ e ∈ entries, Plain e.2) : Plain (.map entries)

/-- Characters that are read as a tree, up to the order of entries. -/
def ReadAs (cs : List Char) (t : Tree) : Prop :=
  ∃ ts u, Cut cs ts ∧ Gives ts u ∧ t.Reordered u

/-- Entries of different keys are all there in the map of them. -/
theorem entries_ofList_perm {es : List (String × Tree)} (once : (es.map Prod.fst).Nodup) :
    es.Perm (KeyMap.ofList es).entries := by
  have once' := (KeyMap.ofList es).keys_nodup
  refine (List.perm_ext_iff_of_nodup once.of_map once'.of_map).2 fun e => ?_
  rw [← KeyMap.lookup_eq_some_iff once, ← KeyMap.lookup_eq_some_iff once']
  have found := KeyMap.get?_insertMany once KeyMap.empty e.1
  rw [KeyMap.get?_empty, Option.or_none] at found
  exact (found ▸ Iff.rfl)

theorem exists_prettyItems {t : Tree} {ts : List Tree}
    (each : ∀ u ∈ t :: ts, ∀ depth, ReadAs (prettyChars depth u) u) (depth : Nat) :
    ∃ tokens us, Cut (prettyItems depth (t :: ts)) tokens ∧ GivesItems tokens us ∧
      List.Forall₂ Tree.Reordered (t :: ts) us := by
  induction ts generalizing t with
  | nil =>
    obtain ⟨tokens, u, cut, gives, same⟩ := each t List.mem_cons_self depth
    rw [prettyItems]
    exact ⟨tokens, [u], (cut_newLine depth).append cut, gives.item, .cons same .nil⟩
  | cons t' ts ih =>
    obtain ⟨first, others⟩ := List.forall_mem_cons.1 each
    obtain ⟨tokens, u, cut, gives, same⟩ := first depth
    obtain ⟨tokens', us, cut', gives', same'⟩ := ih others
    rw [prettyItems, List.append_assoc]
    exact ⟨_, u :: us, (cut_newLine depth).append (cut.append (cut'.mark rfl)),
      gives.items gives', .cons same same'⟩

theorem exists_prettyEntries {e : String × Tree} {es : List (String × Tree)}
    (each : ∀ f ∈ e :: es, ∀ depth, ReadAs (prettyChars depth f.2) f.2) (depth : Nat) :
    ∃ tokens fs, Cut (prettyEntries depth (e :: es)) tokens ∧ GivesEntries tokens fs ∧
      List.Forall₂ Tree.SameEntry (e :: es) fs := by
  -- an entry and what is read of it
  have entry {f : String × Tree} (value : ∀ depth, ReadAs (prettyChars depth f.2) f.2) :
      ∃ tokens g,
        Cut (newLine depth ++ (string f.1 ++ ':' :: ' ' :: prettyChars depth f.2)) tokens ∧
        GivesEntries tokens [g] ∧ Tree.SameEntry f g := by
    obtain ⟨tokens, u, cut, gives, same⟩ := value depth
    have colon : Cut (':' :: ' ' :: prettyChars depth f.2) (.mark ':' :: tokens) :=
      (cut.gap rfl).mark rfl
    exact ⟨_, (f.1, u), (cut_newLine depth).append ((cut_string f.1).append colon),
      gives.entry f.1, .mk f.1 same⟩
  induction es generalizing e with
  | nil =>
    obtain ⟨tokens, f, cut, gives, same⟩ := entry (each e List.mem_cons_self)
    rw [prettyEntries, List.append_assoc]
    exact ⟨tokens, [f], cut, gives, .cons same .nil⟩
  | cons e' es ih =>
    obtain ⟨first, others⟩ := List.forall_mem_cons.1 each
    obtain ⟨tokens, f, cut, gives, same⟩ := entry first
    obtain ⟨tokens', fs, cut', gives', same'⟩ := ih others
    have comma : Cut (',' :: prettyEntries depth (e' :: es)) (.mark ',' :: tokens') :=
      cut'.mark rfl
    have text := cut.append comma
    refine ⟨_, [f] ++ fs, ?_, gives.append gives', .cons same same'⟩
    simpa [prettyEntries] using text

/-- What is printed of a tree of texts is read as the tree, at every depth. -/
theorem readAs_prettyChars {t : Tree} (h : Plain t) (depth : Nat) :
    ReadAs (prettyChars depth t) t := by
  induction h generalizing depth with
  | text s => exact ⟨_, _, cut_string s, gives_text s, .refl _⟩
  | @list items _ ih =>
    cases items with
    | nil => exact ⟨_, _, (cut_nil.mark rfl).mark rfl, gives_list_nil, .refl _⟩
    | cons t ts =>
      obtain ⟨tokens, us, cut, gives, same⟩ := exists_prettyItems ih (depth + 1)
      have closed := cut.append ((cut_newLine depth).append (cut_nil.mark (c := ']') rfl))
      rw [prettyChars, List.append_assoc]
      exact ⟨_, _, closed.mark rfl, gives.list, .list same⟩
  | @map entries once _ ih =>
    cases entries with
    | nil => exact ⟨_, _, (cut_nil.mark rfl).mark rfl, gives_map_nil, .refl _⟩
    | cons e es =>
      obtain ⟨tokens, fs, cut, gives, same⟩ := exists_prettyEntries ih (depth + 1)
      have closed := cut.append ((cut_newLine depth).append (cut_nil.mark (c := '\x7d') rfl))
      have once' : (fs.map Prod.fst).Nodup := Tree.keys_eq same ▸ once
      rw [prettyChars, List.append_assoc]
      exact ⟨_, _, closed.mark rfl, gives.map, .map same (entries_ofList_perm once')⟩

/-- A tree of texts is printed as a text that is read as the tree, up to the order of
    entries. -/
theorem exists_read?_pretty {t : Tree} (h : Plain t) :
    ∃ u, read? (pretty t ++ "\n") = some u ∧ t.Reordered u := by
  obtain ⟨tokens, u, cut, gives, same⟩ := readAs_prettyChars h 0
  refine ⟨u, ?_, same⟩
  have text : (pretty t ++ "\n").toList = prettyChars 0 t ++ ['\n'] := by simp [pretty]
  have scanned : Token.ofChars? (pretty t ++ "\n").toList = some tokens := by
    have newline : Token.next? .between '\n' = some ([], .between) := rfl
    rw [Token.ofChars?, text, cut, Token.scan?_cons newline, List.append_nil]
    exact congrArg some (List.reverse_reverse tokens)
  rw [read?, scanned, Option.bind_some, gives [] .value .value]
  rfl

end ErrorBudget.Json
