/-
  ErrorBudget.Proofs.Files.Tree

  What is written to a file is what is read from it. A file is put where no directory is, so
  whatever was there before is still there, and what was a directory is one still; and a
  path leads where it led. So the path that was written to leads to the new file.
-/
import ErrorBudget.Files.Tree
import ErrorBudget.Proofs.Files
import ErrorBudget.Proofs.Generation.Report
import ErrorBudget.Proofs.KeyMap

namespace ErrorBudget

namespace FileNode

theorem lookup_setEntry (name : String) (n : FileNode) (es : List (String × FileNode))
    (k : String) :
    (setEntry name n es).lookup k = if k = name then some n else es.lookup k := by
  induction es with
  | nil => rw [setEntry, KeyMap.lookup_cons]
  | cons e es ih =>
    rw [setEntry]
    by_cases found : e.1 = name
    · rw [if_pos found, KeyMap.lookup_cons, KeyMap.lookup_cons, found]
      by_cases same : k = name
      · rw [if_pos same, if_pos same]
      · rw [if_neg same, if_neg same, if_neg same]
    · rw [if_neg found, KeyMap.lookup_cons, ih, KeyMap.lookup_cons]
      by_cases first : k = e.1
      · have other : k ≠ name := fun same => found (first ▸ same)
        rw [if_pos first, if_neg other, if_pos first]
      · rw [if_neg first, if_neg first]

/-- What was put at a place is there. -/
theorem get?_set (n : FileNode) (names : List String) (new : FileNode) :
    (n.set names new).get? names = some new := by
  induction names generalizing n with
  | nil => rfl
  | cons name names ih =>
    cases n with
    | file data => rw [set, get?, KeyMap.lookup_cons, if_pos rfl, Option.bind_some, ih]
    | directory es => rw [set, get?, lookup_setEntry, if_pos rfl, Option.bind_some, ih]

/-- Whether a node is a directory. -/
def IsDirectory (n : FileNode) : Prop := ∃ es, n = directory es

/-- Another node keeps places: where there was something there still is, and a directory
    where there was one. -/
def Keeps (n m : FileNode) : Prop :=
  ∀ names old, n.get? names = some old →
    ∃ new, m.get? names = some new ∧ (old.IsDirectory → new.IsDirectory)

/-- Where there is no directory, something can be put and all places are kept. -/
theorem keeps_set {n : FileNode} {names : List String}
    (free : ∀ old, n.get? names = some old → ¬ old.IsDirectory) (new : FileNode) :
    n.Keeps (n.set names new) := by
  intro place old found
  -- on the way to the new node: a place follows it or leaves it at some entry
  induction names generalizing n place with
  | nil =>
    have file : ¬ n.IsDirectory := free n rfl
    cases n with
    | directory es => exact absurd ⟨es, rfl⟩ file
    | file data =>
      cases place with
      | nil =>
        obtain rfl := Option.some.inj found
        exact ⟨new, rfl, fun directory => absurd directory file⟩
      | cons => cases found
  | cons name names ih =>
    cases n with
    | file data =>
      cases place with
      | nil => exact ⟨_, rfl, fun _ => ⟨_, rfl⟩⟩
      | cons => cases found
    | directory es =>
      cases place with
      | nil => exact ⟨_, rfl, fun _ => ⟨_, rfl⟩⟩
      | cons k ks =>
        rw [set, get?, lookup_setEntry]
        by_cases same : k = name
        · -- the place goes on in the entry that is set
          rw [if_pos same, Option.bind_some]
          rw [get?, same] at found
          cases entry : es.lookup name with
          | none =>
            rw [entry] at found
            cases found
          | some child =>
            rw [entry] at found
            refine ih (fun old below => free old ?_) ks found
            rw [get?, entry]
            exact below
        · rw [if_neg same]
          exact ⟨old, found, fun directory => directory⟩

end FileNode

namespace FileTree

/-- Another file system keeps the places of one, and its paths start where they did. -/
structure Keeps (t u : FileTree) : Prop where
  here : u.here = t.here
  root : t.root.Keeps u.root

section Walks

variable {t u : FileTree} {place q : List String} {name : String}

theorem Keeps.at?_directory (keeps : t.Keeps u) {es : List (String × FileNode)}
    (found : t.at? place = some (.directory es)) :
    ∃ es', u.at? place = some (.directory es') := by
  obtain ⟨new, there, directory⟩ := keeps.root _ _ found
  obtain ⟨es', rfl⟩ := directory ⟨es, rfl⟩
  exact ⟨es', there⟩

theorem Keeps.isSome_at? (keeps : t.Keeps u) (found : (t.at? place).isSome) :
    (u.at? place).isSome := by
  obtain ⟨old, there⟩ := Option.isSome_iff_exists.1 found
  obtain ⟨new, still, _⟩ := keeps.root _ _ there
  exact Option.isSome_iff_exists.2 ⟨new, still⟩

/-- A name is looked up in a directory. -/
theorem directory_of_name? (h : t.name? place name = .ok q) :
    ∃ es, t.at? place = some (.directory es) := by
  rw [name?] at h
  split at h
  · rename_i es found
    exact ⟨es, found⟩
  · cases h
  · cases h

theorem Keeps.name? (keeps : t.Keeps u) (h : t.name? place name = .ok q) :
    u.name? place name = .ok q := by
  obtain ⟨es, before⟩ := directory_of_name? h
  obtain ⟨es', after⟩ := keeps.at?_directory before
  rw [FileTree.name?, before] at h
  rw [FileTree.name?, after]
  exact h

/-- A step leads to a name under which there is something. -/
theorem step?_eq_ok_iff :
    t.step? place name = .ok q ↔ t.name? place name = .ok q ∧ (t.at? q).isSome := by
  rw [step?]
  cases named : t.name? place name with
  | error fault => exact ⟨fun h => (nomatch h), fun h => (nomatch h.1)⟩
  | ok next =>
    change (if (t.at? next).isSome then pure next else throw .notFound : Except FileFault _) = _ ↔ _
    by_cases there : (t.at? next).isSome
    · rw [if_pos there]
      constructor
      · intro h
        obtain rfl := Except.ok.inj h
        exact ⟨rfl, there⟩
      · exact fun h => h.1
    · rw [if_neg there]
      refine ⟨fun h => (nomatch h), ?_⟩
      rintro ⟨same, found⟩
      obtain rfl := Except.ok.inj same
      exact absurd found there

theorem Keeps.step? (keeps : t.Keeps u) (h : t.step? place name = .ok q) :
    u.step? place name = .ok q := by
  obtain ⟨named, there⟩ := step?_eq_ok_iff.1 h
  exact step?_eq_ok_iff.2 ⟨keeps.name? named, keeps.isSome_at? there⟩

/-- Names that lead somewhere still lead there. -/
theorem Keeps.foldlM_step? (keeps : t.Keeps u) {names : List String}
    (h : names.foldlM t.step? place = .ok q) : names.foldlM u.step? place = .ok q := by
  induction names generalizing place with
  | nil => exact h
  | cons name names ih =>
    rw [List.foldlM_cons] at h ⊢
    cases stepped : t.step? place name with
    | error fault =>
      rw [stepped] at h
      cases h
    | ok next =>
      rw [stepped] at h
      rw [keeps.step? stepped]
      exact ih h

end Walks

/-! ## Writing -/

/-- How a file is written: its path leads to a directory, and its last name to a place in it
    where there is no directory. -/
structure Writes (t : FileTree) (s text : String) (u : FileTree) (place : List String)
    (name : String) : Prop where
  path : Path.check s = .ok ()
  last : (Path.ofString s).names.getLast? = some name
  bare : (Path.ofString s).slashed = false
  outer : (Path.ofString s).names.dropLast.foldlM t.step? (t.start (.ofString s)) = .ok place
  named : t.name? place name = .ok (name :: place)
  free : ∀ old, t.at? (name :: place) = some old → ¬ old.IsDirectory
  result : u = t.put (name :: place) (.file text.toUTF8)

/-- A name that is no step in place or back leads to a place under itself. -/
theorem eq_cons_of_name? {t : FileTree} {place q : List String} {name : String} (stay : name ≠ ".")
    (back : name ≠ "..") (h : t.name? place name = .ok q) : q = name :: place := by
  obtain ⟨es, found⟩ := directory_of_name? h
  rw [name?, found] at h
  dsimp only at h
  rw [if_neg stay, if_neg back] at h
  split at h
  · cases h
  · exact (Except.ok.inj h).symm

theorem exists_writes {t u : FileTree} {s text : String} (h : t.writeText s text = .ok u) :
    ∃ place name, t.Writes s text u place name := by
  rw [writeText] at h
  obtain ⟨_, checked, h⟩ := exists_of_bind_eq_ok h
  obtain ⟨⟨place, last⟩, walked, h⟩ := exists_of_bind_eq_ok h
  obtain ⟨outer, outside, same⟩ := exists_of_bind_eq_ok walked
  obtain ⟨rfl, rfl⟩ := Prod.mk.inj (Except.ok.inj same)
  dsimp only at h
  -- a path without a last name, or with dots for one, can lead to a directory only
  by_cases dots : ((Path.ofString s).names.getLast?.getD "." = "." ||
      (Path.ofString s).names.getLast?.getD "." = "..") = true
  · rw [if_pos dots] at h
    obtain ⟨_, _, h⟩ := exists_of_bind_eq_ok h
    cases h
  · rw [if_neg dots] at h
    obtain ⟨name, last⟩ : ∃ name, (Path.ofString s).names.getLast? = some name := by
      cases last : (Path.ofString s).names.getLast? with
      | none => simp [last] at dots
      | some name => exact ⟨name, rfl⟩
    rw [last, Option.getD_some] at dots h
    obtain ⟨stay, back⟩ : name ≠ "." ∧ name ≠ ".." := by simpa using dots
    split at h
    · by_cases bare : (Path.ofString s).slashed = true
      · rw [if_pos bare] at h
        cases h
      · rw [if_neg bare] at h
        obtain ⟨place, named, h⟩ := exists_of_bind_eq_ok h
        obtain rfl := eq_cons_of_name? stay back named
        split at h
        · cases h
        · rename_i not_directory
          refine ⟨outer, name, checked, last, Bool.eq_false_iff.2 bare, outside, named, ?_,
            (Except.ok.inj h).symm⟩
          rintro old there ⟨es, rfl⟩
          exact not_directory es there
    · obtain ⟨_, thrown, _⟩ := exists_of_bind_eq_ok h
      cases thrown

namespace Writes

variable {t u : FileTree} {s text name : String} {place : List String}

theorem keeps (h : t.Writes s text u place name) : t.Keeps u := by
  rw [h.result]
  refine ⟨rfl, ?_⟩
  exact FileNode.keeps_set h.free _

theorem at?_self (h : t.Writes s text u place name) :
    u.at? (name :: place) = some (.file text.toUTF8) := by
  rw [h.result]
  exact FileNode.get?_set _ _ _

/-- The path that was written to leads to the place of the new file. -/
theorem walk_eq (h : t.Writes s text u place name) :
    u.walk (.ofString s) = .ok (name :: place) := by
  have outer := h.keeps.foldlM_step? h.outer
  have last : u.step? place name = .ok (name :: place) :=
    step?_eq_ok_iff.2 ⟨h.keeps.name? h.named, by rw [h.at?_self]; rfl⟩
  have names : (Path.ofString s).names = (Path.ofString s).names.dropLast ++ [name] :=
    (List.dropLast_append_getLast? name h.last).symm
  have start : u.start (.ofString s) = t.start (.ofString s) := by
    rw [FileTree.start, FileTree.start, h.keeps.here]
  have whole : (Path.ofString s).names.foldlM u.step? (u.start (.ofString s)) =
      .ok (name :: place) := by
    rw [names, List.foldlM_append, start, outer]
    change [name].foldlM u.step? place = _
    rw [List.foldlM_cons, last]
    rfl
  rw [walk, whole, h.bare]
  rfl

end Writes

/-- The text of a file is the one that was written to it. -/
theorem readText_of_writeText {t u : FileTree} {s text : String}
    (h : t.writeText s text = .ok u) : u.readText s = .ok text := by
  obtain ⟨place, name, writes⟩ := exists_writes h
  have found : u.find s = .ok (.file text.toUTF8) := by
    rw [find, writes.path, writes.walk_eq]
    dsimp only [bind, Except.bind]
    rw [writes.at?_self]
    rfl
  have decoded : String.fromUTF8? text.toUTF8 = some text := dif_pos text.isValidUTF8
  rw [readText, found]
  dsimp only [bind, Except.bind]
  rw [decoded]
  rfl

/-- So is it if directories are made for the file first. -/
theorem readText_of_writeDeep {t u : FileTree} {s text : String}
    (h : files.writeDeep s text t = (.ok (), u)) : u.readText s = .ok text := by
  rw [Files.writeDeep, Files.bind_apply] at h
  cases made : (files.createDirectories (Path.ofString s).parent t).1 with
  | error fault =>
    rw [made] at h
    exact nomatch (Prod.mk.inj h).1
  | ok _ =>
    rw [made] at h
    change change (fun t => t.writeText s text) _ = _ at h
    rw [change] at h
    split at h
    · rename_i v written
      obtain ⟨-, rfl⟩ := Prod.mk.inj h
      exact readText_of_writeText written
    · exact nomatch (Prod.mk.inj h).1

theorem steady_files : files.Steady :=
  ⟨fun _ _ => rfl, fun _ _ => rfl⟩

end FileTree

end ErrorBudget
