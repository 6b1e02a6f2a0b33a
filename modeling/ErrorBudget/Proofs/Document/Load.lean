/-
  ErrorBudget.Proofs.Document.Load

  Which documents are loaded, with the classes of a file or without: those that define few
  enough services, whose names stand, and whose classes come from one of two files at most.
  A class file is not checked for repeated names when it is read, and a document is not
  checked when it takes over classes; the check at the end sees the names of both.
-/
import ErrorBudget.Document.Load
import ErrorBudget.Files.Tree
import ErrorBudget.Proofs.Document
import ErrorBudget.Proofs.Files

namespace ErrorBudget

open Files (bind_apply)

/-! ## Merging -/

/-- Merging in place: the document takes over the classes of a file, if only one of the two
    defines any. -/
def Document.absorb (file : ClassFile) : StateM Document (Except Fault Unit) := do
  if file.classes.isEmpty then return .ok ()
  if !(← get).classes.isEmpty then return .error .conflictingClasses
  modify fun d => { d with classes := file.classes }
  return .ok ()

/-- What merging in place returns and leaves behind. -/
structure Document.Absorbed (d : Document) (file : ClassFile)
    (after : Except Fault Unit × Document) : Prop where
  /-- It fails exactly if both define classes. -/
  conflict : after.1 = .error .conflictingClasses ↔ d.classes ≠ [] ∧ file.classes ≠ []
  /-- It fails in no other way. -/
  only : ∀ fault, after.1 = .error fault → fault = .conflictingClasses
  /-- A document that is not merged is left as it was. -/
  kept : ∀ fault, after.1 = .error fault → after.2 = d
  /-- So is one that gets no classes. -/
  nothing : file.classes = [] → after.2 = d
  /-- Else its list of classes is the file's, and no more is changed. -/
  replaced : after.1 = .ok () → file.classes ≠ [] → after.2 = { d with classes := file.classes }

namespace Document

theorem absorb_of_nil {file : ClassFile} (none : file.classes = []) (d : Document) :
    absorb file d = (.ok (), d) := by
  rw [absorb, if_pos (List.isEmpty_iff.2 none)]
  rfl

theorem absorb_of_conflict {file : ClassFile} {d : Document} (some : file.classes ≠ [])
    (own : d.classes ≠ []) : absorb file d = (.error .conflictingClasses, d) := by
  rw [absorb, if_neg (mt List.isEmpty_iff.1 some)]
  change (if !d.classes.isEmpty then _ else _ : StateM Document _) d = _
  rw [List.isEmpty_eq_false_iff.2 own]
  rfl

theorem absorb_of_some {file : ClassFile} {d : Document} (some : file.classes ≠ [])
    (none : d.classes = []) : absorb file d = (.ok (), { d with classes := file.classes }) := by
  rw [absorb, if_neg (mt List.isEmpty_iff.1 some)]
  change (if !d.classes.isEmpty then _ else _ : StateM Document _) d = _
  rw [List.isEmpty_iff.2 none]
  rfl

/-- Merging is merging in place. -/
theorem mergeClasses_eq_absorb (d : Document) (file : ClassFile) :
    d.mergeClasses file = (absorb file d).1.map fun _ => (absorb file d).2 := by
  rw [mergeClasses]
  by_cases none : file.classes = []
  · rw [absorb_of_nil none, if_pos (List.isEmpty_iff.2 none)]
    rfl
  · rw [if_neg (mt List.isEmpty_iff.1 none)]
    by_cases free : d.classes = []
    · rw [absorb_of_some none free, List.isEmpty_iff.2 free]
      rfl
    · rw [absorb_of_conflict none free, List.isEmpty_eq_false_iff.2 free]
      rfl

theorem absorbed (d : Document) (file : ClassFile) : d.Absorbed file (absorb file d) := by
  by_cases none : file.classes = []
  · rw [absorb_of_nil none]
    exact ⟨⟨fun h => (nomatch h), fun h => absurd none h.2⟩, fun _ h => (nomatch h),
      fun _ h => (nomatch h), fun _ => rfl, fun _ some => absurd none some⟩
  · by_cases free : d.classes = []
    · rw [absorb_of_some none free]
      exact ⟨⟨fun h => (nomatch h), fun h => absurd free h.1⟩, fun _ h => (nomatch h),
        fun _ h => (nomatch h), fun h => absurd h none, fun _ _ => rfl⟩
    · rw [absorb_of_conflict none free]
      exact ⟨⟨fun _ => ⟨free, none⟩, fun _ => rfl⟩, fun _ h => (Except.error.inj h).symm,
        fun _ _ => rfl, fun _ => rfl, fun h => (nomatch h)⟩

/-- A document is merged with a file if one of the two defines no classes, and has those of
    the other then. -/
theorem mergeClasses_eq_ok_iff (d e : Document) (file : ClassFile) :
    d.mergeClasses file = .ok e ↔
      (d.classes = [] ∨ file.classes = []) ∧ e = { d with classes := d.classes ++ file.classes } := by
  rw [mergeClasses_eq_absorb]
  by_cases none : file.classes = []
  · rw [absorb_of_nil none, none, List.append_nil]
    exact ⟨fun h => ⟨.inr rfl, (Except.ok.inj h).symm⟩, fun h => congrArg Except.ok h.2.symm⟩
  · by_cases free : d.classes = []
    · rw [absorb_of_some none free, free, List.nil_append]
      exact ⟨fun h => ⟨.inl rfl, (Except.ok.inj h).symm⟩, fun h => congrArg Except.ok h.2.symm⟩
    · rw [absorb_of_conflict none free]
      exact ⟨fun h => (nomatch h), fun h => absurd h.1 (not_or.2 ⟨free, none⟩)⟩

end Document

/-! ## Texts -/

section Texts

variable {source text : String}

theorem Document.ofText_eq_ok_iff (d : Document) :
    Document.ofText source text = .ok d ↔
      readDefinitions Document.read {} source text = .ok d ∧
        d.slos.length ≤ maxSlos ∧ d.Sound := by
  rw [ofText]
  cases readDefinitions Document.read {} source text with
  | error fault => exact ⟨fun h => (nomatch h), fun h => (nomatch h.1)⟩
  | ok e =>
    change (if maxSlos < e.slos.length then throw (.load source .tooManySlos) else
      e.check >>= fun _ => pure e : Except Fault Document) = _ ↔ _
    rw [← check_eq_ok_iff_sound, Except.ok.injEq]
    by_cases many : maxSlos < e.slos.length
    · rw [if_pos many]
      refine ⟨fun h => (nomatch h), ?_⟩
      rintro ⟨rfl, few, -⟩
      exact absurd many few.not_gt
    · rw [if_neg many]
      constructor
      · intro h
        obtain ⟨_, checked, same⟩ := exists_of_bind_eq_ok h
        obtain rfl := Except.ok.inj same
        exact ⟨rfl, not_lt.1 many, checked⟩
      · rintro ⟨rfl, -, checked⟩
        rw [checked]
        rfl

theorem ClassFile.check_eq_ok_iff (f : ClassFile) :
    f.check = .ok () ↔ ∀ c ∈ f.classes, IsVisible c.name := by
  have blank_iff : (f.classes.any fun c => Text.isBlank c.name) = true ↔
      ¬ ∀ c ∈ f.classes, IsVisible c.name := by
    simp only [List.any_eq_true, isBlank_iff, not_forall, exists_prop]
  rw [check]
  by_cases visible : ∀ c ∈ f.classes, IsVisible c.name
  · rw [if_neg fun blank => blank_iff.1 blank visible]
    exact ⟨fun _ => visible, fun _ => rfl⟩
  · rw [if_pos (blank_iff.2 visible)]
    exact ⟨fun h => (nomatch h), fun h => absurd h visible⟩

theorem ClassFile.ofText_eq_ok_iff (f : ClassFile) :
    ClassFile.ofText source text = .ok f ↔
      readDefinitions ClassFile.read {} source text = .ok f ∧
        ∀ c ∈ f.classes, IsVisible c.name := by
  rw [ofText, ← check_eq_ok_iff]
  constructor
  · intro h
    obtain ⟨g, decoded, rest⟩ := exists_of_bind_eq_ok h
    obtain ⟨_, checked, same⟩ := exists_of_bind_eq_ok rest
    obtain rfl := Except.ok.inj same
    exact ⟨decoded, checked⟩
  · rintro ⟨decoded, checked⟩
    rw [decoded]
    change (f.check >>= fun _ => pure f : Except Fault ClassFile) = _
    rw [checked]
    rfl

end Texts

/-! ## Loading -/

section Load

variable {σ α : Type} {files : Files (StateM σ)} {path classesPath : String} {t t' t'' : σ}
  {d : Document} {file : ClassFile}

/-- What the text in a file defines, before any check of its names. -/
def Defines (files : Files (StateM σ)) (reader : Yaml.Place → Reader α) (blank : α)
    (path : String) (t : σ) (x : α) (t' : σ) : Prop :=
  ∃ text, readLimited files path t = (.ok text, t') ∧ readDefinitions reader blank path text = .ok x

/-- A text that is read from a file and made something of. -/
theorem readLimited_then_eq_ok_iff {make : String → Except Fault α} {x : α} :
    (do return (← readLimited files path) >>= make : StateM σ (Except Fault α)) t = (.ok x, t') ↔
      ∃ text, readLimited files path t = (.ok text, t') ∧ make text = .ok x := by
  rw [bind_apply]
  rcases readLimited files path t with ⟨fault | text, after⟩
  · exact ⟨fun h => (nomatch (Prod.mk.inj h).1), fun ⟨_, h, _⟩ => (nomatch (Prod.mk.inj h).1)⟩
  · constructor
    · intro h
      obtain ⟨made, rfl⟩ := Prod.mk.inj h
      exact ⟨text, rfl, made⟩
    · rintro ⟨_, same, made⟩
      obtain ⟨read, rfl⟩ := Prod.mk.inj same
      obtain rfl := Except.ok.inj read
      exact congrArg (·, after) made

theorem Document.load_eq_ok_iff :
    Document.load files path t = (.ok d, t') ↔
      Defines files Document.read {} path t d t' ∧ d.slos.length ≤ maxSlos ∧ d.Sound := by
  rw [load, readLimited_then_eq_ok_iff, Defines]
  simp only [Document.ofText_eq_ok_iff, ← and_assoc, exists_and_right]

theorem ClassFile.load_eq_ok_iff :
    ClassFile.load files path t = (.ok file, t') ↔
      Defines files ClassFile.read {} path t file t' ∧ ∀ c ∈ file.classes, IsVisible c.name := by
  rw [load, readLimited_then_eq_ok_iff, Defines]
  simp only [ClassFile.ofText_eq_ok_iff, ← and_assoc, exists_and_right]

/-- The documents that are loaded from a file, with the classes of another if one is given. -/
inductive Document.Loads (files : Files (StateM σ)) (path : String) (t : σ) :
    Option String → Document → Prop where
  | alone {d : Document} {t' : σ} (document : Defines files Document.read {} path t d t')
      (few : d.slos.length ≤ maxSlos) (sound : d.Sound) : Loads files path t none d
  | withClasses {d : Document} {file : ClassFile} {t' t'' : σ} {classesPath : String}
      (document : Defines files Document.read {} path t d t')
      (classes : Defines files ClassFile.read {} classesPath t' file t'')
      (few : d.slos.length ≤ maxSlos) (unmixed : d.classes = [] ∨ file.classes = [])
      (sound : Sound { d with classes := d.classes ++ file.classes }) :
      Loads files path t (some classesPath) { d with classes := d.classes ++ file.classes }

/-- The names of a document and those of a class file stand if they do after merging. -/
theorem Document.sound_of_merged
    (sound : Sound { d with classes := d.classes ++ file.classes }) :
    d.Sound ∧ ∀ c ∈ file.classes, IsVisible c.name := by
  obtain ⟨services, ⟨visible, distinct⟩⟩ := sound
  rw [List.forall_mem_map, List.forall_mem_append] at visible
  rw [List.map_append] at distinct
  refine ⟨⟨services, ⟨List.forall_mem_map.2 visible.1, distinct.of_append_left⟩⟩, visible.2⟩

theorem Document.withClasses_eq_ok_iff {e : Document} :
    d.withClasses file = .ok e ↔ (d.classes = [] ∨ file.classes = []) ∧
      e = { d with classes := d.classes ++ file.classes } ∧ e.Sound := by
  rw [withClasses, ← and_assoc, ← mergeClasses_eq_ok_iff, ← check_eq_ok_iff_sound]
  constructor
  · intro h
    obtain ⟨merged, same, rest⟩ := exists_of_bind_eq_ok h
    obtain ⟨_, checked, last⟩ := exists_of_bind_eq_ok rest
    obtain rfl := Except.ok.inj last
    exact ⟨same, checked⟩
  · rintro ⟨merged, checked⟩
    rw [merged]
    change (e.check >>= fun _ => pure e : Except Fault Document) = _
    rw [checked]
    rfl

theorem Document.loadWith_eq_ok_iff {classesPath : Option String} :
    (Document.loadWith files path classesPath t).1 = .ok d ↔ Loads files path t classesPath d := by
  rw [loadWith, bind_apply]
  rcases first : Document.load files path t with ⟨fault | own, t'⟩
  · -- no document that the file defines is taken in
    have refused {own : Document} {after : σ} (defined : Defines files Document.read {} path t own after)
        (few : own.slos.length ≤ maxSlos) (sound : own.Sound) : False := by
      have loaded := first.symm.trans (Document.load_eq_ok_iff.2 ⟨defined, few, sound⟩)
      exact nomatch (Prod.mk.inj loaded).1
    refine ⟨fun h => (nomatch h), fun h => ?_⟩
    cases h with
    | alone document few sound => exact (refused document few sound).elim
    | withClasses document _ few _ sound =>
      exact (refused document few (sound_of_merged sound).1).elim
  · obtain ⟨⟨text, read, decoded⟩, few, sound⟩ := Document.load_eq_ok_iff.1 first
    -- the file is read in one way
    have the_same {other : Document} {after : σ}
        (defined : Defines files Document.read {} path t other after) : other = own ∧ after = t' := by
      obtain ⟨_, again, also⟩ := defined
      obtain ⟨same, rfl⟩ := Prod.mk.inj (again.symm.trans read)
      obtain rfl := Except.ok.inj same
      exact ⟨Except.ok.inj (also.symm.trans decoded), rfl⟩
    cases classesPath with
    | none =>
      constructor
      · intro h
        obtain rfl := Except.ok.inj h
        exact .alone ⟨text, read, decoded⟩ few sound
      · intro h
        cases h with
        | alone document => rw [(the_same document).1]; rfl
    | some classesPath =>
      dsimp only
      rw [bind_apply]
      constructor
      · intro h
        obtain ⟨file, loaded, merged⟩ := exists_of_bind_eq_ok h
        obtain ⟨defined, -⟩ := ClassFile.load_eq_ok_iff.1 (Prod.ext loaded rfl)
        obtain ⟨unmixed, rfl, stands⟩ := withClasses_eq_ok_iff.1 merged
        exact .withClasses ⟨text, read, decoded⟩ defined few unmixed stands
      · intro h
        cases h with
        | withClasses document classes _ unmixed stands =>
          obtain ⟨rfl, rfl⟩ := the_same document
          have visible := (sound_of_merged stands).2
          rw [ClassFile.load_eq_ok_iff.2 ⟨classes, visible⟩]
          exact withClasses_eq_ok_iff.2 ⟨unmixed, rfl, stands⟩

/-- Classes that a call takes from a file of their own: none if it names no file. -/
def ClassesGiven (files : Files (StateM σ)) (t : σ) (classes : List ServiceClass) :
    Option String → Prop
  | none => classes = []
  | some path => ∃ file t', Defines files ClassFile.read {} path t file t' ∧ file.classes = classes

/-- What holds of a document that was loaded. -/
structure Document.Intact (files : Files (StateM σ)) (path : String) (t : σ)
    (classesPath : Option String) (d : Document) : Prop where
  few : d.slos.length ≤ maxSlos
  checked : d.check = .ok ()
  /-- Its services are those of its file. So are its classes; only if the file defines none
      they are those of the class file. -/
  unmixed : ∃ own t', Defines files Document.read {} path t own t' ∧ d.slos = own.slos ∧
    (own.classes ≠ [] → d.classes = own.classes) ∧
    (own.classes = [] → ClassesGiven files t' d.classes classesPath)
  /-- A service refers to one class at most. -/
  single : ∀ slo ∈ d.slos, (d.classes.filter fun c => c.name = slo.className).length ≤ 1

/-- No name is that of two classes. -/
theorem Document.Sound.single (sound : d.Sound) (name : String) :
    (d.classes.filter fun c => c.name = name).length ≤ 1 := by
  have once := List.nodup_iff_count_le_one.1 sound.classes.distinct name
  rw [List.count, List.countP_map, List.countP_eq_length_filter] at once
  simpa only [Function.comp_def, beq_eq_decide] using once

theorem Document.Loads.intact {classesPath : Option String}
    (h : Loads files path t classesPath d) : Intact files path t classesPath d := by
  cases h with
  | alone document few sound =>
    exact ⟨few, d.check_eq_ok_iff_sound.2 sound,
      ⟨d, _, document, rfl, fun _ => rfl, fun empty => empty⟩, fun slo _ => sound.single _⟩
  | @withClasses own file _ _ _ document classes few unmixed sound =>
    refine ⟨few, (check_eq_ok_iff_sound _).2 sound, ⟨own, _, document, rfl, fun some => ?_,
      fun empty => ⟨file, _, classes, ?_⟩⟩, fun slo _ => sound.single _⟩
    · have none := unmixed.resolve_left some
      simp only [none, List.append_nil]
    · simp only [empty, List.nil_append]

end Load

/-- A document passes its check exactly if its names stand, and fails it with the fault of the
    first that does not; classes are merged into it only if it has none, and no more of it is
    changed. So what is loaded are exactly the documents that define few enough services,
    take their classes from one file at most, and have names that stand; and no service of
    such a document refers to two classes. -/
theorem Document.loaded_iff_sound :
    (∀ d : Document, (d.check = .ok () ↔ d.Sound) ∧
      ∀ fault, d.check = .error fault ↔ ∃ cause, fault = .names cause ∧
        (FirstOffence .blankSlo .repeatedSlo (d.slos.map Slo.name) cause ∨
          SoundNames (d.slos.map Slo.name) ∧
            FirstOffence .blankClass .repeatedClass (d.classes.map ServiceClass.name) cause)) ∧
    (∀ (d : Document) (file : ClassFile), d.Absorbed file (absorb file d) ∧
      d.mergeClasses file = (absorb file d).1.map fun _ => (absorb file d).2) ∧
    ∀ {σ : Type} (files : Files (StateM σ)) (path : String) (classesPath : Option String)
      (t : σ) (d : Document),
      ((Document.loadWith files path classesPath t).1 = .ok d ↔
        Loads files path t classesPath d) ∧
      ((Document.loadWith files path classesPath t).1 = .ok d →
        Intact files path t classesPath d) :=
  ⟨fun d => ⟨d.check_eq_ok_iff_sound, d.check_eq_error_iff⟩,
    fun d file => ⟨d.absorbed file, d.mergeClasses_eq_absorb file⟩,
    fun _ _ _ _ _ => ⟨loadWith_eq_ok_iff, fun loaded => (loadWith_eq_ok_iff.1 loaded).intact⟩⟩

/-- A service of a class that a file of its own defines. -/
theorem Document.loaded_iff_sound_checkout :
    let slos := "slos:\n- name: checkout\n  class: gold\n"
    let classes := "classes:\n- name: gold\n- name: silver\n"
    let t := FileTree.ofEntries []
      [("slos.yml", .file slos.toUTF8), ("classes.yml", .file classes.toUTF8)]
    ∃ d, (Document.loadWith FileTree.files "slos.yml" (some "classes.yml") t).1 = .ok d ∧
      d.classes.map ServiceClass.name = ["gold", "silver"] ∧
      Intact FileTree.files "slos.yml" t (some "classes.yml") d := by
  intro slos classes t
  have names : ((Document.loadWith FileTree.files "slos.yml" (some "classes.yml") t).1.toOption.map
      fun d => d.classes.map ServiceClass.name) = some ["gold", "silver"] := by decide +kernel
  obtain ⟨d, found, listed⟩ := Option.map_eq_some_iff.1 names
  have loaded := eq_ok_of_toOption found
  exact ⟨d, loaded, listed, (loaded_iff_sound.2.2 FileTree.files _ _ t d).2 loaded⟩

end ErrorBudget
