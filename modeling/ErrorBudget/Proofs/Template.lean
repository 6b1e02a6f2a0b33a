/-
  ErrorBudget.Proofs.Template

  What putting values into a template means. A template is read once, from left to right:
  where a dollar sign and the name of a placeholder with a value stand, the value is put, and
  every other character stays. Said by the first such place: nothing before it changes, and
  what follows it is rendered by itself, so that a value is never read again.
-/
import ErrorBudget.Template

namespace ErrorBudget.Template

/-! ## Placeholders in a text -/

/-- A placeholder with a value stands at the start of a text. -/
def Opens (v : Values) (cs : List Char) : Prop :=
  ∃ p value rest, v.get? p = some value ∧ cs = '$' :: (p.name ++ rest)

/-- No placeholder with a value stands anywhere in a text. -/
def Free (v : Values) (cs : List Char) : Prop :=
  ∀ before after, cs = before ++ after → ¬ Opens v after

/-- A text up to the first placeholder that has a value, this placeholder, and what follows
    its name. -/
structure Leftmost (v : Values) (cs before : List Char) (p : Placeholder)
    (value rest : List Char) : Prop where
  set : v.get? p = some value
  spelled : cs = before ++ '$' :: (p.name ++ rest)
  first : ∀ before' after, cs = before' ++ after → Opens v after → before.length ≤ before'.length

/-- A text and the text with the values put in, place by place. -/
inductive Rendered (v : Values) : List Char → List Char → Prop where
  | done : Rendered v [] []
  | put {p : Placeholder} {value rest out : List Char} (set : v.get? p = some value)
      (others : Rendered v rest out) : Rendered v ('$' :: (p.name ++ rest)) (value ++ out)
  | keep {c : Char} {cs out : List Char} (closed : ¬ Opens v (c :: cs))
      (others : Rendered v cs out) : Rendered v (c :: cs) (c :: out)

/-- A function that puts the values of placeholders into a text, each at the first place
    that is left. -/
structure Substitutes (v : Values) (f : String → String) : Prop where
  free : ∀ t : String, Free v t.toList → f t = t
  leftmost : ∀ (t : String) (before : List Char) (p : Placeholder) (value rest : List Char),
    Leftmost v t.toList before p value rest →
      f t = String.ofList before ++ String.ofList value ++ f (String.ofList rest)

/-! ## Names -/

theorem Placeholder.mem_all (p : Placeholder) : p ∈ Placeholder.all := by
  cases p <;> decide

/-- The names of placeholders differ in their first letters, so a text starts with one at
    most. -/
theorem Placeholder.eq_of_name_append {p q : Placeholder} {as bs : List Char}
    (h : p.name ++ as = q.name ++ bs) : p = q := by
  have heads := congrArg List.head? h
  cases p <;> cases q <;> simp [name] at heads ⊢

/-- The name that a text starts with is the one that is found. -/
theorem head?_eq_some_iff {cs : List Char} {p : Placeholder} :
    head? cs = some p ↔ ∃ rest, cs = p.name ++ rest := by
  have starts_iff (q : Placeholder) :
      q.name.isPrefixOf cs = true ↔ ∃ rest, cs = q.name ++ rest := by
    rw [List.isPrefixOf_iff_prefix]
    exact ⟨fun ⟨rest, h⟩ => ⟨rest, h.symm⟩, fun ⟨rest, h⟩ => ⟨rest, h.symm⟩⟩
  have spelled {q : Placeholder} (found : head? cs = some q) : ∃ rest, cs = q.name ++ rest := by
    rw [head?] at found
    have starts := List.find?_some found
    exact (starts_iff q).1 starts
  constructor
  · exact spelled
  · rintro ⟨rest, text⟩
    cases found : head? cs with
    | none =>
      rw [head?] at found
      exact absurd ((starts_iff p).2 ⟨rest, text⟩) (List.find?_eq_none.1 found p p.mem_all)
    | some q =>
      obtain ⟨rest', same⟩ := spelled found
      rw [Placeholder.eq_of_name_append (same.symm.trans text)]

theorem match?_eq_some_iff {v : Values} {cs value : List Char} {length : Nat} :
    match? v cs = some (value, length) ↔
      ∃ p rest, v.get? p = some value ∧ cs = p.name ++ rest ∧ length = p.name.length := by
  rw [match?, Option.bind_eq_some_iff]
  simp only [Option.map_eq_some_iff, head?_eq_some_iff, Prod.mk.injEq]
  constructor
  · rintro ⟨p, ⟨rest, spelled⟩, _, set, rfl, rfl⟩
    exact ⟨p, rest, set, spelled, rfl⟩
  · rintro ⟨p, rest, set, spelled, rfl⟩
    exact ⟨p, ⟨rest, spelled⟩, value, set, rfl, rfl⟩

theorem match?_eq_none_of_closed {v : Values} {cs : List Char} (h : ¬ Opens v ('$' :: cs)) :
    match? v cs = none := by
  cases found : match? v cs with
  | none => rfl
  | some m =>
    obtain ⟨p, rest, set, spelled, -⟩ := match?_eq_some_iff.1 found
    exact absurd ⟨p, m.1, rest, set, congrArg ('$' :: ·) spelled⟩ h

/-! ## Rendering -/

/-- What is done already stays in front, and a placeholder that is done is passed over. -/
theorem renderChars_eq (v : Values) (done : List Char) (skip : Nat) (cs : List Char) :
    renderChars v done skip cs = done.reverse ++ renderChars v [] 0 (cs.drop skip) := by
  induction cs generalizing done skip with
  | nil => simp [renderChars]
  | cons c cs ih =>
    cases skip with
    | succ skip =>
      rw [renderChars, List.drop_succ_cons]
      exact ih done skip
    | zero =>
      rw [List.drop_zero, renderChars, renderChars]
      split
      · cases match? v cs with
        | none =>
          dsimp only
          rw [ih, ih [c]]
          simp
        | some m =>
          dsimp only
          rw [ih, ih (m.1.reverse ++ [])]
          simp
      · rw [ih, ih [c]]
        simp

theorem renderChars_put {v : Values} {p : Placeholder} {value : List Char}
    (set : v.get? p = some value) (rest : List Char) :
    renderChars v [] 0 ('$' :: (p.name ++ rest)) = value ++ renderChars v [] 0 rest := by
  have found := match?_eq_some_iff.2 ⟨p, rest, set, rfl, rfl⟩
  rw [renderChars, if_pos rfl, found]
  dsimp only
  rw [renderChars_eq, List.drop_left]
  simp

theorem renderChars_keep {v : Values} {c : Char} {cs : List Char} (h : ¬ Opens v (c :: cs)) :
    renderChars v [] 0 (c :: cs) = c :: renderChars v [] 0 cs := by
  rw [renderChars]
  split
  · rename_i dollar
    rw [match?_eq_none_of_closed (dollar ▸ h)]
    dsimp only
    rw [renderChars_eq]
    rfl
  · rw [renderChars_eq]
    rfl

/-- What is rendered is what the loop makes. -/
theorem rendered_iff {v : Values} {cs out : List Char} :
    Rendered v cs out ↔ out = renderChars v [] 0 cs := by
  constructor
  · intro h
    induction h with
    | done => rfl
    | put set others ih => rw [renderChars_put set, ih]
    | keep closed others ih => rw [renderChars_keep closed, ih]
  · rintro rfl
    -- a placeholder takes several characters at once, so the length is what decreases
    induction length : cs.length using Nat.strongRecOn generalizing cs with
    | _ n ih =>
      subst length
      by_cases opens : Opens v cs
      · obtain ⟨p, value, rest, set, rfl⟩ := opens
        rw [renderChars_put set]
        have shorter : rest.length < ('$' :: (p.name ++ rest)).length := by
          simp only [List.length_cons, List.length_append]
          omega
        exact .put set (ih rest.length shorter rfl)
      · cases cs with
        | nil => exact .done
        | cons c cs =>
          rw [renderChars_keep opens]
          exact .keep opens (ih cs.length (Nat.lt_succ_self _) rfl)

theorem toList_render (t : String) (v : Values) :
    (render t v).toList = renderChars v [] 0 t.toList := by
  rw [render, String.toList_ofList]

/-! ## The first place -/

theorem Free.tail {v : Values} {c : Char} {cs : List Char} (h : Free v (c :: cs)) : Free v cs :=
  fun before after split => h (c :: before) after (congrArg (c :: ·) split)

theorem rendered_of_free {v : Values} {cs : List Char} (h : Free v cs) : Rendered v cs cs := by
  induction cs with
  | nil => exact .done
  | cons c cs ih => exact .keep (h [] (c :: cs) rfl) (ih h.tail)

/-- Up to the first place nothing changes. -/
theorem Leftmost.rendered {v : Values} {cs before : List Char} {p : Placeholder}
    {value rest out : List Char} (h : Leftmost v cs before p value rest)
    (others : Rendered v rest out) : Rendered v cs (before ++ (value ++ out)) := by
  obtain ⟨set, rfl, first⟩ := h
  induction before with
  | nil =>
    show Rendered v ('$' :: (p.name ++ rest)) (value ++ out)
    exact .put set others
  | cons c before ih =>
    have closed : ¬ Opens v (c :: before ++ '$' :: (p.name ++ rest)) := by
      intro opens
      have none_before := first [] _ rfl opens
      simp only [List.length_cons, List.length_nil] at none_before
      omega
    refine .keep closed (ih fun before' after split opens => ?_)
    have later := first (c :: before') after (congrArg (c :: ·) split) opens
    simp only [List.length_cons] at later
    omega

/-- A text is free of placeholders that have values, or there is a first one. -/
theorem free_or_leftmost (v : Values) (cs : List Char) :
    Free v cs ∨ ∃ before p value rest, Leftmost v cs before p value rest := by
  induction cs with
  | nil =>
    refine .inl ?_
    rintro before after split ⟨p, value, rest, -, rfl⟩
    simp at split
  | cons c cs ih =>
    by_cases opens : Opens v (c :: cs)
    · obtain ⟨p, value, rest, set, spelled⟩ := opens
      exact .inr ⟨[], p, value, rest, set, spelled, fun _ _ _ _ => Nat.zero_le _⟩
    · rcases ih with free | ⟨before, p, value, rest, set, spelled, first⟩
      · refine .inl fun before after split => ?_
        cases before with
        | nil =>
          obtain rfl : c :: cs = after := split
          exact opens
        | cons d before => exact free before after (List.cons.inj split).2
      · refine .inr ⟨c :: before, p, value, rest, set, congrArg (c :: ·) spelled, ?_⟩
        intro before' after split opens'
        cases before' with
        | nil =>
          obtain rfl : c :: cs = after := split
          exact absurd opens' opens
        | cons d before' =>
          have earlier := first before' after (List.cons.inj split).2 opens'
          exact Nat.succ_le_succ earlier

theorem Leftmost.length_lt {v : Values} {cs before : List Char} {p : Placeholder}
    {value rest : List Char} (h : Leftmost v cs before p value rest) : rest.length < cs.length := by
  rw [h.spelled]
  simp only [List.length_append, List.length_cons]
  omega

theorem substitutes_render (v : Values) : Substitutes v fun t => render t v where
  free t free := by
    rw [← String.toList_inj, toList_render, ← rendered_iff.1 (rendered_of_free free)]
  leftmost t before p value rest first := by
    have rendered := first.rendered (rendered_iff.2 rfl)
    rw [← String.toList_inj, toList_render, ← rendered_iff.1 rendered]
    simp only [String.toList_append, String.toList_ofList, toList_render, List.append_assoc]

theorem Substitutes.unique {v : Values} {f g : String → String} (hf : Substitutes v f)
    (hg : Substitutes v g) (t : String) : f t = g t := by
  induction length : t.toList.length using Nat.strongRecOn generalizing t with
  | _ n ih =>
    rcases free_or_leftmost v t.toList with free | ⟨before, p, value, rest, first⟩
    · rw [hf.free t free, hg.free t free]
    · have shorter : (String.ofList rest).toList.length < n := by
        rw [String.toList_ofList, ← length]
        exact first.length_lt
      rw [hf.leftmost t before p value rest first, hg.leftmost t before p value rest first,
        ih _ shorter _ rfl]

/-- Rendering is the one function that puts the values in, each at the first place that is
    left; and it puts in every value, keeps every other character, and reads none twice. -/
theorem render_substitutes_once (v : Values) :
    (∀ f : String → String, Substitutes v f ↔ f = fun t => render t v) ∧
      ∀ (t : String) (out : List Char),
        Rendered v t.toList out ↔ out = (render t v).toList := by
  constructor
  · intro f
    constructor
    · intro substitutes
      exact funext fun t => substitutes.unique (substitutes_render v) t
    · rintro rfl
      exact substitutes_render v
  · intro t out
    rw [toList_render]
    exact rendered_iff

-- a value may look like a placeholder, or make one with the dollar sign before it
example : render "$$window $le" { window := some "le", le := some "$window" } = "$le $window" := by
  decide

end ErrorBudget.Template
