/-
  ErrorBudget.Proofs.Command.Verdict

  A call that checks a document and a call that makes its rules give the same verdict. Both
  load the same inputs first, settings and then a document; and what either says of a
  document is told by its outcome. So they end alike if there are no inputs, and they count
  the same services without rules. Rules that are made may still not be written.
-/
import ErrorBudget.Files.Tree
import ErrorBudget.Proofs.Command.Texts
import ErrorBudget.Proofs.Files
import ErrorBudget.Proofs.Report

namespace ErrorBudget.Command

open Files (bind_apply pure_apply)

/-! ## Inputs -/

/-- The settings of a call and the document that it is about, or why they are not there. -/
def loadInputs {m : Type → Type} [Monad m] (files : Files m) (env : Settings.Environment)
    (config : Option String) (sloPath : String) (classesPath : Option String) :
    m (Except CommandFault (Settings × Document)) := do
  match ← loadSettings files env config with
  | .error fault => return .error (.settings fault)
  | .ok s => match ← Document.loadWith files sloPath (classesPath <|> s.classesPath) with
    | .error fault => return .error (.rules fault)
    | .ok d => return .ok (s, d)

/-- What makes the rules of a call: tickets are left out if its arguments or the settings
    say so. -/
def generatorOf (disableTicket : Bool) (s : Settings) : Generator :=
  { disableTicket := disableTicket || s.generator.disableTicket }

section Endings

variable {σ : Type} (files : Files (StateM σ)) (env : Settings.Environment) {i : Invocation}
  {sloPath : String} {classesPath : Option String} {disableTicket : Bool}

/-- Inputs are not there because of the settings or because of the document. -/
theorem fault_loadInputs {config : Option String} {t : σ} {fault : CommandFault}
    (h : (loadInputs files env config sloPath classesPath t).1 = .error fault) :
    (∃ cause, fault = .settings cause) ∨ ∃ cause, fault = .rules cause := by
  rw [loadInputs, bind_apply] at h
  cases loaded : (loadSettings files env config t).1 with
  | error cause =>
    rw [loaded] at h
    exact .inl ⟨cause, (Except.error.inj h).symm⟩
  | ok s =>
    rw [loaded] at h
    dsimp only at h
    rw [bind_apply] at h
    cases read : (Document.loadWith files sloPath (classesPath <|> s.classesPath)
        (loadSettings files env config t).2).1 with
    | error cause =>
      rw [read] at h
      exact .inr ⟨cause, (Except.error.inj h).symm⟩
    | ok d =>
      rw [read] at h
      cases h

/-- A call that checks a document loads the inputs and counts the services without rules. -/
theorem ending_validate (h : i.action = .validate sloPath classesPath disableTicket) (t : σ) :
    (perform files env i t).1 =
      match (loadInputs files env i.config sloPath classesPath t).1 with
      | .error fault => { fault := some fault }
      | .ok (s, d) =>
        let results := Report.sloResults (generatorOf disableTicket s) d
        { stdout := (Report.validation sloPath results).render i.output
          fault := if Report.invalidCount results = 0 then none
            else some (.invalidSlos (Report.invalidCount results)) } := by
  rw [perform, performWith, loadInputs, bind_apply, bind_apply, h]
  cases (loadSettings files env i.config t).1 with
  | error fault => rfl
  | ok s =>
    dsimp only
    rw [validate, bind_apply, bind_apply]
    cases (Document.loadWith files sloPath (classesPath <|> s.classesPath)
      (loadSettings files env i.config t).2).1 with
    | error fault => rfl
    | ok d => rfl

/-- Labels that can be read let rules be made with any settings. -/
theorem exists_resolve {labels : Option String}
    (readable : ∀ listing, labels = some listing → ∃ extra, Labels.readListing listing = .ok extra)
    (s : Settings) (disableTicket kubernetes : Bool) :
    ∃ o, RuleOptions.resolve s disableTicket kubernetes labels = .ok o ∧
      o.disableTicket = (disableTicket || s.generator.disableTicket) := by
  cases labels with
  | none => exact ⟨_, rfl, rfl⟩
  | some listing =>
    obtain ⟨extra, read⟩ := readable listing rfl
    rw [RuleOptions.resolve, read]
    exact ⟨_, rfl, rfl⟩

/-- Only the file system keeps rules from being written. -/
theorem fault_writeRules (output : ReportFormat) (path : Option String) (o : RuleOptions)
    (rules : List SloRules) (t : σ) {fault : CommandFault}
    (h : (writeRules Yaml.writer files output path o rules t).1.fault = some fault) :
    ∃ cause, fault = .file cause := by
  rw [writeRules, o.renderWith_writer] at h
  cases path with
  | none => cases h
  | some path =>
    dsimp only at h
    rw [bind_apply] at h
    cases written : (files.writeDeep path (o.render rules) t).1 with
    | error cause =>
      rw [written] at h
      exact ⟨cause, (Option.some.inj h).symm⟩
    | ok _ =>
      rw [written] at h
      cases h

/-- A call that makes rules and has labels that can be read loads the inputs. If a service
    has no rules, it counts those that have none; else only writing can fail. -/
theorem ending_generate {ruleOutput labels : Option String} {kubernetes : Bool}
    (h : i.action =
      .generate sloPath classesPath ruleOutput disableTicket kubernetes labels)
    (readable : ∀ listing, labels = some listing → ∃ extra, Labels.readListing listing = .ok extra)
    (t : σ) :
    match (loadInputs files env i.config sloPath classesPath t).1 with
    | .error fault => (perform files env i t).1 = { fault := some fault }
    | .ok (s, d) =>
      let o := (generatorOf disableTicket s).generateAll d
      (o.failed = [] → ∀ fault, (perform files env i t).1.fault = some fault →
        ∃ cause, fault = .file cause) ∧
      (o.failed ≠ [] → (perform files env i t).1.fault = some (.failedSlos o.failed.length)) := by
  rw [perform, performWith, loadInputs, bind_apply, bind_apply, h]
  cases (loadSettings files env i.config t).1 with
  | error fault => rfl
  | ok s =>
    obtain ⟨o, resolved, tickets⟩ := exists_resolve readable s disableTicket kubernetes
    dsimp only
    rw [generate, resolved, bind_apply]
    dsimp only
    rw [bind_apply]
    cases (Document.loadWith files sloPath (classesPath <|> s.classesPath)
      (loadSettings files env i.config t).2).1 with
    | error fault => rfl
    | ok d =>
      dsimp only [pure_apply]
      rw [tickets, ← generatorOf, Outcome.result]
      cases failed : ((generatorOf disableTicket s).generateAll d).failed with
      | nil =>
        refine ⟨fun _ fault ends => ?_, fun h => absurd rfl h⟩
        exact fault_writeRules files _ _ _ _ _ ends
      | cons f fs => exact ⟨fun h => (nomatch h), fun _ => rfl⟩

end Endings

/-! ## Verdicts -/

/-- Two calls for the same inputs give the same verdict, one that checks the document and one
    that makes its rules. -/
structure SameVerdict (inputs : Except CommandFault (Settings × Document))
    (disableTicket : Bool) (checked made : Ending) : Prop where
  /-- Both fail alike if there are no inputs. -/
  unloaded : ∀ fault, inputs = .error fault →
    checked = { fault := some fault } ∧ made = { fault := some fault }
  /-- Both fail with the same number of services. -/
  counted : ∀ n, checked.fault = some (.invalidSlos n) ↔ made.fault = some (.failedSlos n)
  /-- The number is that of the services without rules, and it is not zero. -/
  count : ∀ n, checked.fault = some (.invalidSlos n) ↔
    0 < n ∧ ∃ s d, inputs = .ok (s, d) ∧
      ((generatorOf disableTicket s).generateAll d).failed.length = n
  /-- The check succeeds exactly if every service has rules. -/
  accepted : checked.fault = none ↔ ∃ s d, inputs = .ok (s, d) ∧
    ∀ slo ∈ d.slos, ∃ r, (generatorOf disableTicket s).generate slo (.ofClasses d.classes) = .ok r
  /-- After a check that succeeds, only writing can fail. -/
  written : checked.fault = none → ∀ fault, made.fault = some fault →
    ∃ cause, fault = .file cause

/-- Calls that have no inputs, because of the settings or because of the document. -/
theorem sameVerdict_unloaded {fault : CommandFault} (disableTicket : Bool)
    (cause : (∃ cause, fault = .settings cause) ∨ ∃ cause, fault = .rules cause) :
    SameVerdict (.error fault) disableTicket { fault := some fault } { fault := some fault } where
  unloaded _ same := by
    obtain rfl := Except.error.inj same
    exact ⟨rfl, rfl⟩
  counted n := by rcases cause with ⟨cause, rfl⟩ | ⟨cause, rfl⟩ <;> simp
  count n := by rcases cause with ⟨cause, rfl⟩ | ⟨cause, rfl⟩ <;> simp
  accepted := ⟨fun h => (nomatch h), fun ⟨_, _, h, _⟩ => (nomatch h)⟩
  written h := nomatch h

/-- Calls that have inputs: one counts the entries with an error, the other the failures. -/
theorem sameVerdict_loaded {s : Settings} {d : Document} {disableTicket : Bool}
    {checked made : Ending}
    (checks : checked.fault =
      let invalid := Report.invalidCount (Report.sloResults (generatorOf disableTicket s) d)
      if invalid = 0 then none else some (.invalidSlos invalid))
    (makes : let o := (generatorOf disableTicket s).generateAll d
      (o.failed = [] → ∀ fault, made.fault = some fault → ∃ cause, fault = .file cause) ∧
      (o.failed ≠ [] → made.fault = some (.failedSlos o.failed.length))) :
    SameVerdict (.ok (s, d)) disableTicket checked made := by
  have agree := Report.agree_sloResults (generatorOf disableTicket s) d
  have all_made := agree.failed_eq_nil_iff
  obtain ⟨only_writing, counts⟩ := makes
  rw [agree.invalidCount_eq] at checks
  -- the only inputs there are
  have the_inputs {p : Settings → Document → Prop} :
      (∃ s' d', (.ok (s, d) : Except CommandFault _) = .ok (s', d') ∧ p s' d') ↔ p s d :=
    ⟨fun ⟨_, _, same, h⟩ => by obtain ⟨rfl, rfl⟩ := Prod.mk.inj (Except.ok.inj same); exact h,
      fun h => ⟨s, d, rfl, h⟩⟩
  by_cases none_failed : ((generatorOf disableTicket s).generateAll d).failed = []
  · have passes : checked.fault = none := by
      rw [checks, none_failed]
      rfl
    refine ⟨fun _ h => (nomatch h), fun n => ?_, fun n => ?_, ?_, fun _ => only_writing none_failed⟩
    · rw [passes]
      refine ⟨fun h => (nomatch h), fun h => ?_⟩
      obtain ⟨_, other⟩ := only_writing none_failed _ h
      cases other
    · rw [passes, the_inputs, none_failed, List.length_nil]
      exact ⟨fun h => (nomatch h), fun ⟨positive, zero⟩ => absurd zero positive.ne⟩
    · rw [the_inputs]
      exact ⟨fun _ => all_made.1 none_failed, fun _ => passes⟩
  · have positive := List.length_pos_of_ne_nil none_failed
    have fails := checks.trans (if_neg positive.ne')
    refine ⟨fun _ h => (nomatch h), fun n => ?_, fun n => ?_, ?_, fun h => ?_⟩
    · rw [fails, counts none_failed]
      simp
    · rw [fails, the_inputs, Option.some_inj, CommandFault.invalidSlos.injEq]
      exact ⟨fun same => ⟨same ▸ positive, same⟩, And.right⟩
    · rw [the_inputs, fails, ← all_made]
      exact ⟨fun h => (nomatch h), fun h => absurd h none_failed⟩
    · exact nomatch fails.symm.trans h

/-- A validation says of every document what is made of it, service by service: it has an
    entry for each, the entries without an error are the summary of the rules, and those with
    one are the report on the failures. And a call that checks a document gives the same
    verdict as a call that makes its rules, if they have the same files and settings, whatever
    else they are told. -/
theorem verdicts_agree :
    (∀ (g : Generator) (d : Document),
      let entries := Report.sloResults g d
      let outcome := g.generateAll d
      Report.Agree g (.ofClasses d.classes) d.slos entries outcome ∧
      entries.map Report.SloResult.name = d.slos.map Slo.name ∧
      entries.filterMap Report.SloResult.summary? = outcome.succeeded.map .of ∧
      entries.filterMap Report.SloResult.failure? = outcome.failed.map .of) ∧
    ∀ {σ : Type} (files : Files (StateM σ)) (env : Settings.Environment) (t : σ)
      {i j : Invocation} {sloPath : String} {classesPath ruleOutput labels : Option String}
      {disableTicket kubernetes : Bool},
      i.action = .validate sloPath classesPath disableTicket →
      j.action = .generate sloPath classesPath ruleOutput disableTicket kubernetes labels →
      j.config = i.config →
      (∀ listing, labels = some listing → ∃ extra, Labels.readListing listing = .ok extra) →
      SameVerdict (loadInputs files env i.config sloPath classesPath t).1 disableTicket
        (perform files env i t).1 (perform files env j t).1 := by
  refine ⟨fun g d => ?_, fun files env t i j sloPath classesPath ruleOutput labels disableTicket
    kubernetes checks makes same_config readable => ?_⟩
  · have agree := Report.agree_sloResults g d
    exact ⟨agree, agree.names, agree.summaries, agree.failures⟩
  · have checked := ending_validate files env checks t
    have made := ending_generate files env makes readable t
    rw [same_config] at made
    cases inputs : (loadInputs files env i.config sloPath classesPath t).1 with
    | error fault =>
      rw [inputs] at checked made
      rw [checked, made]
      exact sameVerdict_unloaded disableTicket (fault_loadInputs files env inputs)
    | ok loaded =>
      obtain ⟨s, d⟩ := loaded
      rw [inputs] at checked made
      exact sameVerdict_loaded (congrArg Ending.fault checked) made

/-- A service whose class its document does not have, in a call that checks it and in one
    that makes manifests with a label. -/
theorem verdicts_agree_checkout :
    let text := "slos:\n- name: checkout\n  class: gold\n"
    let t := FileTree.ofEntries [] [("slos.yml", .file text.toUTF8)]
    let i : Invocation := { action := .validate "slos.yml" none true }
    let j : Invocation :=
      { output := .json, action := .generate "slos.yml" none (some "out/rules.yml") true true
          (some "team=sre") }
    (∃ extra, Labels.readListing "team=sre" = .ok extra) ∧
    (perform FileTree.files [] i t).1.fault = some (.invalidSlos 1) ∧
    (perform FileTree.files [] j t).1.fault = some (.failedSlos 1) := by
  intro text t i j
  have readable : ∃ extra, Labels.readListing "team=sre" = .ok extra := ⟨_, rfl⟩
  have verdict := verdicts_agree.2 FileTree.files [] t (i := i) (j := j) rfl rfl rfl
    fun listing same => Option.some.inj same ▸ readable
  have loads : ((loadInputs FileTree.files [] none "slos.yml" none t).1.toOption.map fun inputs =>
      ((generatorOf true inputs.1).generateAll inputs.2).failed.length) = some 1 := by
    decide +kernel
  obtain ⟨⟨s, d⟩, found, failed⟩ := Option.map_eq_some_iff.1 loads
  have checked : (perform FileTree.files [] i t).1.fault = some (.invalidSlos 1) :=
    (verdict.count 1).2 ⟨Nat.one_pos, s, d, eq_ok_of_toOption found, failed⟩
  exact ⟨readable, checked, (verdict.counted 1).1 checked⟩

end ErrorBudget.Command
