/-
  ErrorBudget.Text.Split

  Cutting a text at every occurrence of one character, and putting the parts
  together again.
-/

namespace ErrorBudget.Text

/-- The parts between the occurrences of `sep`; one more part than there are
    occurrences, so that the empty text has one empty part. -/
def split (sep : Char) (cs : List Char) : List (List Char) :=
  cs.foldr
    (fun c parts =>
      if c = sep then [] :: parts
      else match parts with
        | [] => [[c]]
        | p :: ps => (c :: p) :: ps)
    [[]]

@[simp] theorem split_nil (sep : Char) : split sep [] = [[]] := rfl

theorem split_ne_nil (sep : Char) (cs : List Char) : split sep cs ≠ [] := by
  cases cs with
  | nil => simp
  | cons c cs =>
    simp only [split, List.foldr_cons]
    split
    · simp
    · split <;> simp

/-- The parts with `sep` between them. -/
def join (sep : Char) (parts : List (List Char)) : List Char :=
  (parts.intersperse [sep]).flatten

end ErrorBudget.Text
