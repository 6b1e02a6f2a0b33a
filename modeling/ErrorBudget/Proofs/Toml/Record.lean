/-
  ErrorBudget.Proofs.Toml.Record

  What a record that was read from a TOML value holds: in every field what the value has for
  it, by its name in a table and by its place in a list, and else what it held before.
-/
import ErrorBudget.Proofs.KeyMap
import ErrorBudget.Toml.Value

namespace ErrorBudget.Toml

open Source (Field field record readNamed readListed)

namespace Value

/-- What a value has for a field of a record. -/
def field? (v : Value) (name : String) (place : Nat) : Option Value :=
  match v with
  | table es => es.lookup name
  | list items => items[place]?
  | _ => none

/-! ## Values of one kind -/

def text? : Value → Option String
  | text s => some s
  | _ => none

def bool? : Value → Option Bool
  | bool b => some b
  | _ => none

/-- A key and a text. -/
def pair? : Value × Value → Option (String × String)
  | (text key, text s) => some (key, s)
  | _ => none

/-- The labels that a table of texts denotes. A date is a table with one entry. -/
def labels? (v : Value) : Option Labels :=
  v.entries?.bind fun es => (es.mapM pair?).map KeyMap.ofList

end Value

/-! ## Readers -/

section Readers

variable {β : Type} {n n' : Nat}

/-- What a reader gives is what the value denotes. -/
def Decodes (read : Value → Reader β) (denotes : Value → Option β) : Prop :=
  ∀ ⦃v n x n'⦄, read v n = .ok (x, n') → denotes v = some x

theorem decodes_text : Decodes Source.text Value.text? := by
  intro v n s n' h
  cases v with
  | text =>
    obtain ⟨rfl, -⟩ := Prod.mk.inj (Except.ok.inj h)
    rfl
  | _ => cases h

theorem decodes_bool : Decodes Source.bool Value.bool? := by
  intro v n b n' h
  cases v with
  | bool =>
    obtain ⟨rfl, -⟩ := Prod.mk.inj (Except.ok.inj h)
    rfl
  | _ => cases h

/-- A reading in two steps has a result if both steps have. -/
theorem Reader.bind_eq_ok {α : Type} {x : Reader α} {f : α → Reader β} {y : β}
    (h : (x >>= f) n = .ok (y, n')) : ∃ a m, x n = .ok (a, m) ∧ f a m = .ok (y, n') := by
  change (x n >>= fun r => f r.1 r.2) = _ at h
  cases first : x n with
  | error e =>
    rw [first] at h
    cases h
  | ok r =>
    rw [first] at h
    exact ⟨r.1, r.2, rfl, h⟩

theorem Reader.under_eq_ok {step : Step} {x : Reader β} {y : β}
    (h : Reader.under step x n = .ok (y, n')) : x n = .ok (y, n') := by
  rw [Reader.under] at h
  cases first : x n with
  | error e =>
    rw [first] at h
    cases h
  | ok r =>
    rw [first] at h
    exact h

theorem pairs_of_readLabels {es : List (Value × Value)} {l l' : Labels}
    (h : Source.readLabels l es n = .ok (l', n')) :
    ∃ pairs, es.mapM Value.pair? = some pairs ∧ l' = l.insertMany pairs := by
  -- each pair goes into the labels that were read before it
  induction es generalizing l n with
  | nil =>
    obtain ⟨rfl, -⟩ := Prod.mk.inj (Except.ok.inj h)
    exact ⟨[], rfl, rfl⟩
  | cons e es ih =>
    obtain ⟨key, s⟩ := e
    obtain ⟨name, m, named, rest⟩ := Reader.bind_eq_ok h
    obtain ⟨value, m', texted, last⟩ := Reader.bind_eq_ok rest
    have is_text := decodes_text (Reader.under_eq_ok texted)
    obtain ⟨pairs, decoded, rfl⟩ := ih last
    cases key with
    | text key =>
      obtain ⟨rfl, -⟩ := Prod.mk.inj (Except.ok.inj named)
      cases s with
      | text =>
        obtain rfl := Option.some.inj is_text
        exact ⟨_ :: pairs, by rw [List.mapM_cons, decoded]; rfl, rfl⟩
      | _ => cases is_text
    | _ => cases named

theorem decodes_labels : Decodes Source.labels Value.labels? := by
  intro v n l n' h
  obtain ⟨es, m, listed, rest⟩ := Reader.bind_eq_ok h
  obtain ⟨pairs, decoded, rfl⟩ := pairs_of_readLabels rest
  have entries : v.entries? = some es := by
    cases v with
    | table => exact congrArg some (Prod.mk.inj (Except.ok.inj listed)).1
    | date => exact congrArg some (Prod.mk.inj (Except.ok.inj listed)).1
    | _ => cases listed
  rw [Value.labels?, entries, Option.bind_some, decoded]
  rfl

end Readers

/-! ## Fields -/

variable {α β : Type}

/-- A part of a record after reading: what was read for it, or else what it was before. -/
inductive Filled (read : Value → Reader β) (old : β) : Option Value → β → Prop where
  | absent : Filled read old none old
  | present {v : Value} {x : β} {n n' : Nat} (given : read v n = .ok (x, n')) :
      Filled read old (some v) x

/-- A field leaves a part of the record alone. -/
def Keeps (get : α → β) (f : Field Value α) : Prop :=
  ∀ ⦃r v n r' n'⦄, f.set r v n = .ok (r', n') → get r' = get r

/-- A field is where a part of the record comes from. -/
def Fills (read : Value → Reader β) (get : α → β) (f : Field Value α) : Prop :=
  ∀ ⦃r v n r' n'⦄, f.set r v n = .ok (r', n') → ∃ m m', read v m = .ok (get r', m')

section Lenses

variable {γ : Type} {read : Value → Reader γ} {put : α → γ → α} {name : String}

theorem keeps_field {get : α → β} (same : ∀ r x, get (put r x) = get r) :
    Keeps get (field name read put) := by
  intro r v n r' n' h
  obtain ⟨x, m, _, last⟩ := Reader.bind_eq_ok h
  obtain ⟨rfl, -⟩ := Prod.mk.inj (Except.ok.inj last)
  exact same r x

/-- One field that leaves a part alone. -/
theorem keeps_one {get : α → β} (same : ∀ r x, get (put r x) = get r) :
    ∀ f ∈ [field name read put], Keeps get f :=
  List.forall_mem_singleton.2 (keeps_field same)

/-- One field more that leaves a part alone. -/
theorem keeps_cons {get : α → β} {fs : List (Field Value α)} (same : ∀ r x, get (put r x) = get r)
    (others : ∀ f ∈ fs, Keeps get f) : ∀ f ∈ field name read put :: fs, Keeps get f :=
  List.forall_mem_cons.2 ⟨keeps_field same, others⟩

theorem fills_field {get : α → γ} (same : ∀ r x, get (put r x) = x) :
    Fills read get (field name read put) := by
  intro r v n r' n' h
  obtain ⟨x, m, given, last⟩ := Reader.bind_eq_ok h
  obtain ⟨rfl, -⟩ := Prod.mk.inj (Except.ok.inj last)
  exact ⟨n, m, by rw [same]; exact given⟩

end Lenses

/-! ## Records -/

section Records

variable {fields : List (Field Value α)} {f : Field Value α} {get : α → β}
  {read : Value → Reader β} {place n n' : Nat} {r r' : α}

/-- A field, at its place among those of a record, that a part of the record comes from, and
    that part only from it. -/
structure Part (fields : List (Field Value α)) (place : Nat) (f : Field Value α)
    (read : Value → Reader β) (get : α → β) : Prop where
  here : fields[place]? = some f
  named : fields.find? (fun g => g.name == f.name) = some f
  fills : Fills read get f
  keeps : ∀ g ∈ fields.eraseIdx place, Keeps get g

namespace Part

theorem keeps_of_ne (part : Part fields place f read get) {g : Field Value α} (h : g ∈ fields)
    (other : g.name ≠ f.name) : Keeps get g := by
  obtain ⟨i, at_i⟩ := List.mem_iff_getElem?.1 h
  refine part.keeps g (List.mem_eraseIdx_iff_getElem?.2 ⟨i, fun same => other ?_, at_i⟩)
  rw [same, part.here] at at_i
  rw [Option.some.inj at_i]

theorem find_ne (part : Part fields place f read get) {g : Field Value α} {name : String}
    (found : fields.find? (fun g => g.name == name) = some g) (other : name ≠ f.name) :
    Keeps get g := by
  have holds := List.find?_some found
  have named : g.name = name := beq_iff_eq.1 holds
  exact part.keeps_of_ne (List.mem_of_find?_eq_some found) (named ▸ other)

end Part

/-- With no entries left a record stays as it is. -/
theorem eq_of_readNamed_nil {seen : List String}
    (h : readNamed fields seen r ([] : List (Value × Value)) n = .ok (r', n')) : r' = r := by
  rw [readNamed] at h
  cases missing : fields.find? fun g => g.required && !seen.contains g.name with
  | some g =>
    rw [missing] at h
    cases h
  | none =>
    rw [missing] at h
    exact (Prod.mk.inj (Except.ok.inj h)).1.symm

/-- The entry that is read next sets a field, or it has no field and is passed over. -/
theorem readNamed_cons {key : String} {v : Value} {es : List (Value × Value)}
    {seen : List String}
    (h : readNamed fields seen r ((.text key, v) :: es) n = .ok (r', n')) :
    (fields.find? (fun g => g.name == key) = none ∧
      ∃ m, readNamed fields seen r es m = .ok (r', n')) ∨
    ∃ g r₁ m m', fields.find? (fun g => g.name == key) = some g ∧ key ∉ seen ∧
      g.set r v m = .ok (r₁, m') ∧ readNamed fields (key :: seen) r₁ es m' = .ok (r', n') := by
  rw [readNamed] at h
  obtain ⟨name, m, keyed, rest⟩ := Reader.bind_eq_ok h
  obtain ⟨rfl, rfl⟩ := Prod.mk.inj (Except.ok.inj keyed)
  cases found : fields.find? (fun g => g.name == key) with
  | none =>
    rw [found] at rest
    obtain ⟨_, m, _, last⟩ := Reader.bind_eq_ok rest
    exact .inl ⟨rfl, m, last⟩
  | some g =>
    rw [found] at rest
    dsimp only at rest
    by_cases again : key ∈ seen
    · rw [if_pos (List.contains_iff_mem.2 again)] at rest
      cases rest
    · rw [if_neg (mt List.contains_iff_mem.1 again)] at rest
      obtain ⟨r₁, m, set, last⟩ := Reader.bind_eq_ok rest
      exact .inr ⟨g, r₁, _, m, rfl, again, Reader.under_eq_ok set, last⟩

/-- Once a field was read, its part of the record stays as it is. -/
theorem kept_of_readNamed (part : Part fields place f read get) {es : List (String × Value)}
    {seen : List String} (old : f.name ∈ seen)
    (h : readNamed fields seen r (es.map fun (k, v) => (.text k, v)) n = .ok (r', n')) :
    get r' = get r := by
  induction es generalizing seen r n with
  | nil =>
    rw [eq_of_readNamed_nil h]
  | cons e es ih =>
    rcases readNamed_cons h with ⟨_, m, last⟩ | ⟨g, r₁, m, m', found, new, set, last⟩
    · exact ih old last
    · have other : e.1 ≠ f.name := fun same => new (same ▸ old)
      rw [ih (List.mem_cons_of_mem _ old) last, part.find_ne found other set]

/-- Reading by name fills a part of a record with what its name has, the first time. -/
theorem filled_of_readNamed (part : Part fields place f read get) {es : List (String × Value)}
    {seen : List String} (new : f.name ∉ seen)
    (h : readNamed fields seen r (es.map fun (k, v) => (.text k, v)) n = .ok (r', n')) :
    Filled read (get r) (es.lookup f.name) (get r') := by
  -- the name is new until its entry comes, and what comes after that keeps the part
  induction es generalizing seen r n with
  | nil =>
    rw [eq_of_readNamed_nil h]
    exact .absent
  | cons e es ih =>
    rw [KeyMap.lookup_cons]
    rcases readNamed_cons h with ⟨unknown, m, last⟩ | ⟨g, r₁, m, m', found, _, set, last⟩
    · have other : f.name ≠ e.1 := fun same => by
        rw [← same, part.named] at unknown
        cases unknown
      rw [if_neg other]
      exact ih new last
    · by_cases same : f.name = e.1
      · rw [← same, part.named] at found
        obtain rfl := Option.some.inj found
        obtain ⟨m, m', given⟩ := part.fills set
        have kept := kept_of_readNamed part (same ▸ List.mem_cons_self) last
        rw [if_pos same, kept]
        exact .present given
      · rw [if_neg same, ← part.find_ne found (Ne.symm same) set]
        exact ih (List.not_mem_cons_of_ne_of_not_mem same new) last

/-- With no items left a record stays as it is. -/
theorem eq_of_readListed_nil {expected : String} {closed : Bool} {count i : Nat}
    (h : readListed expected closed count i r fields ([] : List Value) n = .ok (r', n')) :
    r' = r := by
  induction fields with
  | nil => exact (Prod.mk.inj (Except.ok.inj h)).1.symm
  | cons f fields ih =>
    rw [readListed] at h
    split at h
    · cases h
    · exact ih h

/-- Reading by place leaves a part alone that no field fills. -/
theorem kept_of_readListed {expected : String} {closed : Bool} {count i : Nat}
    (keeps : ∀ g ∈ fields, Keeps get g) {vs : List Value}
    (h : readListed expected closed count i r fields vs n = .ok (r', n')) : get r' = get r := by
  induction fields generalizing vs i r n with
  | nil =>
    cases vs with
    | nil => rw [(Prod.mk.inj (Except.ok.inj h)).1]
    | cons v vs =>
      rw [readListed] at h
      split at h
      · cases h
      · rw [(Prod.mk.inj (Except.ok.inj h)).1]
  | cons f fields ih =>
    obtain ⟨first, rest⟩ := List.forall_mem_cons.1 keeps
    cases vs with
    | nil => rw [eq_of_readListed_nil h]
    | cons v vs =>
      rw [readListed] at h
      obtain ⟨r₁, m, set, last⟩ := Reader.bind_eq_ok h
      rw [ih rest last, first (Reader.under_eq_ok set)]

/-- Reading by place fills a part of a record with the item at its place. -/
theorem filled_of_readListed {expected : String} {closed : Bool} {count i : Nat}
    (here : fields[place]? = some f) (fills : Fills read get f)
    (keeps : ∀ g ∈ fields.eraseIdx place, Keeps get g) {vs : List Value}
    (h : readListed expected closed count i r fields vs n = .ok (r', n')) :
    Filled read (get r) vs[place]? (get r') := by
  -- fields and items are used up together, so the place comes closer with each of them
  induction fields generalizing vs i r n place with
  | nil => cases here
  | cons g fields ih =>
    cases vs with
    | nil =>
      rw [eq_of_readListed_nil h]
      exact .absent
    | cons v vs =>
      rw [readListed] at h
      obtain ⟨r₁, m, set, last⟩ := Reader.bind_eq_ok h
      have set := Reader.under_eq_ok set
      cases place with
      | zero =>
        obtain rfl := Option.some.inj here
        obtain ⟨m, m', given⟩ := fills set
        rw [kept_of_readListed keeps last]
        exact .present given
      | succ place =>
        obtain ⟨first, rest⟩ := List.forall_mem_cons.1 keeps
        rw [← first set]
        exact ih here rest last

/-- Reading a record fills each part with what the value has for its field. -/
theorem filled_of_record {expected : String} {v : Value}
    (h : record expected fields r v n = .ok (r', n')) (part : Part fields place f read get)
    (known : f.name ≠ Value.dateKey) :
    Filled read (get r) (v.field? f.name place) (get r') := by
  cases v with
  | table es => exact filled_of_readNamed part List.not_mem_nil h
  | list items => exact filled_of_readListed part.here part.fills part.keeps h
  | date s =>
    -- no field has the name of the one entry of a date
    have filled : Filled read (get r) (List.lookup f.name [(Value.dateKey, .text s)]) (get r') :=
      filled_of_readNamed part List.not_mem_nil h
    rwa [KeyMap.lookup_cons, if_neg known] at filled
  | _ => cases h

/-- A field that sets a part of a record, and the only one to do so, fills it. -/
theorem filled_of_field (get : α → β) {expected name : String} {put : α → β → α} {v : Value}
    (h : record expected fields r v n = .ok (r', n'))
    (here : fields[place]? = some (field name read put))
    (named : fields.find? (fun g => g.name == name) = some (field name read put))
    (sets : ∀ r x, get (put r x) = x) (keeps : ∀ g ∈ fields.eraseIdx place, Keeps get g)
    (known : name ≠ Value.dateKey) : Filled read (get r) (v.field? name place) (get r') :=
  filled_of_record h ⟨here, named, fills_field sets, keeps⟩ known

end Records

end ErrorBudget.Toml
