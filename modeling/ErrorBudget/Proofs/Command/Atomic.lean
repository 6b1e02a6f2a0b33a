/-
  ErrorBudget.Proofs.Command.Atomic

  A call that makes rules writes all of them or none. What it does before it writes only
  reads: settings, labels, a document, and the rules of every service. A call that ends there
  leaves the files as they were and has nothing to say on its first stream, and so does one
  whose rules have no text. Else their text is written, the same whether it goes to a file or
  to the stream.
-/
import ErrorBudget.Proofs.Command.Options
import ErrorBudget.Proofs.Command.Texts
import ErrorBudget.Proofs.Files.Tree
import ErrorBudget.Proofs.Report.Failures

namespace ErrorBudget

open Files (ReadOnly bind_apply)

/-! ## All services of a document -/

namespace Generator

/-- The services of a document that have no rules, in its order, and why. -/
def failing (g : Generator) (d : Document) : List Failure :=
  d.slos.filterMap fun slo => match g.generate slo (.ofClasses d.classes) with
    | .ok _ => none
    | .error fault => some ⟨slo.name, fault⟩

/-- The rules of all services of a document, in its order. -/
def MakesAll (g : Generator) (d : Document) (rules : List SloRules) : Prop :=
  List.Forall₂ (fun slo r => g.generate slo (.ofClasses d.classes) = .ok r) d.slos rules

theorem failed_generateAll (g : Generator) (d : Document) :
    (g.generateAll d).failed = g.failing d := by
  rw [generateAll, results, failing]
  exact List.filterMap_map

theorem succeeded_generateAll (g : Generator) (d : Document) :
    (g.generateAll d).succeeded =
      d.slos.filterMap fun slo => (g.generate slo (.ofClasses d.classes)).toOption := by
  rw [generateAll, results]
  exact List.filterMap_map

/-- All services have rules exactly if none has failed, and then these are all rules. -/
theorem makesAll_iff {g : Generator} {d : Document} {rules : List SloRules} :
    g.MakesAll d rules ↔ g.failing d = [] ∧ (g.generateAll d).succeeded = rules := by
  rw [MakesAll, failing, succeeded_generateAll]
  induction d.slos generalizing rules with
  | nil => simp [eq_comm]
  | cons slo slos ih =>
    rw [List.forall₂_cons_left_iff, List.filterMap_cons, List.filterMap_cons]
    cases g.generate slo (.ofClasses d.classes) with
    | ok r =>
      constructor
      · rintro ⟨r', others, same, made, rfl⟩
        obtain rfl := Except.ok.inj same
        obtain ⟨none_fails, all⟩ := ih.1 made
        exact ⟨none_fails, congrArg (r :: ·) all⟩
      · rintro ⟨none_fails, rfl⟩
        exact ⟨r, _, rfl, ih.2 ⟨none_fails, rfl⟩, rfl⟩
    | error fault => simp

theorem MakesAll.unique {g : Generator} {d : Document} {rules rules' : List SloRules}
    (h : g.MakesAll d rules) (also : g.MakesAll d rules') : rules = rules' :=
  (makesAll_iff.1 h).2.symm.trans (makesAll_iff.1 also).2

end Generator

namespace Command

/-! ## Endings -/

theorem CommandFault.exitCode_ne_zero (fault : CommandFault) : fault.exitCode ≠ 0 := by
  fun_cases CommandFault.exitCode fault
  all_goals decide

theorem Ending.stdout_result (e : Ending) : e.result.stdout = e.stdout := by
  obtain ⟨stdout, stderr, fault⟩ := e
  cases fault with
  | none => rfl
  | some fault => rfl

/-- The exit code tells whether a call fails. -/
theorem Ending.exitCode_result_eq_zero_iff {e : Ending} :
    e.result.exitCode = 0 ↔ e.fault = none := by
  obtain ⟨stdout, stderr, fault⟩ := e
  cases fault with
  | none => exact iff_of_true rfl rfl
  | some fault => exact iff_of_false fault.exitCode_ne_zero (fun h => (nomatch h))

/-! ## Before writing -/

section Prepare

variable {m : Type → Type} [Monad m] (files : Files m) (env : Settings.Environment)
  (i : Invocation) (sloPath : String) (classesPath labels : Option String)
  (disableTicket kubernetes : Bool)

/-- What a call does before it writes rules: these and the options to write them by, or how
    it ends without them. -/
def prepareRules : m (Except Ending (RuleOptions × List SloRules)) := do
  match ← loadSettings files env i.config with
  | .error fault => return .error { fault := some (.settings fault) }
  | .ok s => match RuleOptions.resolve s disableTicket kubernetes labels with
    | .error fault => return .error { fault := some (.rules fault) }
    | .ok o =>
      match ← collectRules files i.output sloPath (classesPath <|> s.classesPath) o with
      | .error ending => return .error ending
      | .ok rules => return .ok (o, rules)

end Prepare

section Reads

variable {σ : Type} {files : Files (StateM σ)}

theorem readOnly_loadSettings (steady : files.Steady) (env : Settings.Environment)
    (config : Option String) : ReadOnly (loadSettings files env config) := by
  cases config with
  | none => exact steady.loadOrDefault env _
  | some path => exact steady.load env path

theorem readOnly_collectRules (steady : files.Steady) (output : ReportFormat) (sloPath : String)
    (classesPath : Option String) (o : RuleOptions) :
    ReadOnly (collectRules files output sloPath classesPath o) := by
  refine (steady.loadWith sloPath classesPath).bind fun d => ?_
  cases d with
  | error fault => exact .pure _
  | ok d =>
    dsimp only
    split
    · exact .pure _
    · exact .pure _

theorem readOnly_prepareRules (steady : files.Steady) (env : Settings.Environment)
    (i : Invocation) (sloPath : String) (classesPath labels : Option String)
    (disableTicket kubernetes : Bool) : ReadOnly
      (prepareRules files env i sloPath classesPath labels disableTicket kubernetes) := by
  refine (readOnly_loadSettings steady env i.config).bind fun s => ?_
  cases s with
  | error fault => exact .pure _
  | ok s =>
    dsimp only
    cases RuleOptions.resolve s disableTicket kubernetes labels with
    | error fault => exact .pure _
    | ok o =>
      refine (readOnly_collectRules steady i.output sloPath _ o).bind fun rules => ?_
      cases rules with
      | error ending => exact .pure _
      | ok rules => exact .pure _

/-- A call that makes rules prepares them, and writes them if there are any to write. -/
theorem performWith_eq_bind (write : Yaml.Writer) (files : Files (StateM σ))
    (env : Settings.Environment) {i : Invocation} {sloPath : String}
    {classesPath ruleOutput labels : Option String} {disableTicket kubernetes : Bool}
    (makes : i.action =
      .generate sloPath classesPath ruleOutput disableTicket kubernetes labels) :
    performWith write files env i = (do
      match ← prepareRules files env i sloPath classesPath labels disableTicket kubernetes with
      | .error ending => return ending
      | .ok (o, rules) => writeRules write files i.output ruleOutput o rules) := by
  funext t
  rw [performWith, prepareRules, bind_apply, bind_apply, bind_apply, makes]
  cases (loadSettings files env i.config t).1 with
  | error fault => rfl
  | ok s =>
    dsimp only
    cases resolved : RuleOptions.resolve s disableTicket kubernetes labels with
    | error fault =>
      rw [generate, resolved]
      rfl
    | ok o =>
      dsimp only
      rw [generate_of_resolved files write i.output resolved, makeRulesWith, bind_apply, bind_apply]
      cases (collectRules files i.output sloPath (classesPath <|> s.classesPath) o
        (loadSettings files env i.config t).2).1 with
      | error ending => rfl
      | ok rules => rfl

/-- What is done before rules are written leaves the files to the writing as they were. -/
theorem performWith_eq {write : Yaml.Writer} {env : Settings.Environment} {i : Invocation}
    {sloPath : String} {classesPath ruleOutput labels : Option String}
    {disableTicket kubernetes : Bool} (steady : files.Steady) (makes : i.action =
      .generate sloPath classesPath ruleOutput disableTicket kubernetes labels) (t : σ) :
    performWith write files env i t =
      match (prepareRules files env i sloPath classesPath labels disableTicket kubernetes t).1 with
      | .error ending => (ending, t)
      | .ok (o, rules) => writeRules write files i.output ruleOutput o rules t := by
  have reads := readOnly_prepareRules steady env i sloPath classesPath labels disableTicket
    kubernetes
  rw [performWith_eq_bind write files env makes, bind_apply, reads]
  cases (prepareRules files env i sloPath classesPath labels disableTicket kubernetes t).1 with
  | error ending => rfl
  | ok made => rfl

end Reads

/-- Rules without a text are not written. -/
theorem writeRules_of_error {σ : Type} {files : Files (StateM σ)} {write : Yaml.Writer}
    {o : RuleOptions} {rules : List SloRules} {cause : String}
    (rendered : o.renderWith write rules = .error cause) (output : ReportFormat)
    (path : Option String) (t : σ) :
    writeRules write files output path o rules t = ({ fault := some (.unwritable cause) }, t) := by
  rw [writeRules, rendered]
  rfl

theorem writeRules_none {σ : Type} {files : Files (StateM σ)} {write : Yaml.Writer}
    {o : RuleOptions} {rules : List SloRules} {text : String}
    (rendered : o.renderWith write rules = .ok text) (output : ReportFormat) (t : σ) :
    writeRules write files output none o rules t = ({ stdout := text }, t) := by
  rw [writeRules, rendered]
  rfl

theorem writeRules_some {σ : Type} {files : Files (StateM σ)} {write : Yaml.Writer}
    {o : RuleOptions} {rules : List SloRules} {text : String}
    (rendered : o.renderWith write rules = .ok text) (output : ReportFormat) (path : String)
    (t : σ) :
    writeRules write files output (some path) o rules t =
      match files.writeDeep path text t with
      | (.error cause, u) => ({ fault := some (.file cause) }, u)
      | (.ok (), u) =>
        ({ stdout := (Report.generation path o.kubernetes (rules.map .of)).render output }, u) := by
  rw [writeRules, rendered]
  dsimp only
  rw [bind_apply]
  rcases files.writeDeep path text t with ⟨cause | _, u⟩
  · rfl
  · rfl

/-! ## What is prepared -/

/-- What makes rules by options. -/
def RuleOptions.generator (o : RuleOptions) : Generator := { disableTicket := o.disableTicket }

section Endings

variable {write : Yaml.Writer} {env : Settings.Environment} {i : Invocation} {sloPath : String}
  {classesPath ruleOutput labels : Option String} {disableTicket kubernetes : Bool}
  {t : FileTree} {s : Settings} {o : RuleOptions} {d : Document}

/-- The settings, the options and the document of a call, as its files have them. -/
structure Inputs (env : Settings.Environment) (i : Invocation) (sloPath : String)
    (classesPath labels : Option String) (disableTicket kubernetes : Bool) (t : FileTree)
    (s : Settings) (o : RuleOptions) (d : Document) : Prop where
  settings : (loadSettings FileTree.files env i.config t).1 = .ok s
  options : o.Over s disableTicket kubernetes labels
  document :
    (Document.loadWith FileTree.files sloPath (classesPath <|> s.classesPath) t).1 = .ok d

theorem Inputs.unique {s' : Settings} {o' : RuleOptions} {d' : Document}
    (h : Inputs env i sloPath classesPath labels disableTicket kubernetes t s o d)
    (also : Inputs env i sloPath classesPath labels disableTicket kubernetes t s' o' d') :
    s = s' ∧ o = o' ∧ d = d' := by
  obtain rfl := Except.ok.inj (h.settings.symm.trans also.settings)
  have options := (resolve_eq_ok_iff.2 h.options).symm.trans (resolve_eq_ok_iff.2 also.options)
  exact ⟨rfl, Except.ok.inj options, Except.ok.inj (h.document.symm.trans also.document)⟩

/-- Faults of settings, of labels or of a document. -/
def CommandFault.OfInputs (fault : CommandFault) : Prop :=
  (∃ cause, fault = .settings cause) ∨ ∃ cause, fault = .rules cause

/-- What a call prepares: nothing without its inputs, a report if services have no rules, and
    else the rules of all services. -/
inductive Prepared (env : Settings.Environment) (i : Invocation) (sloPath : String)
    (classesPath labels : Option String) (disableTicket kubernetes : Bool) (t : FileTree) :
    Except Ending (RuleOptions × List SloRules) → Prop where
  | unread {fault : CommandFault} (cause : fault.OfInputs)
      (missing : ∀ s o d,
        ¬ Inputs env i sloPath classesPath labels disableTicket kubernetes t s o d) :
      Prepared env i sloPath classesPath labels disableTicket kubernetes t
        (.error { fault := some fault })
  | failed {s : Settings} {o : RuleOptions} {d : Document} {stderr : String}
      (inputs : Inputs env i sloPath classesPath labels disableTicket kubernetes t s o d)
      (some_fail : o.generator.failing d ≠ [])
      (told : Report.Tells (o.generator.failing d) i.output stderr) :
      Prepared env i sloPath classesPath labels disableTicket kubernetes t
        (.error { stderr, fault := some (.failedSlos (o.generator.failing d).length) })
  | made {s : Settings} {o : RuleOptions} {d : Document} {rules : List SloRules}
      (inputs : Inputs env i sloPath classesPath labels disableTicket kubernetes t s o d)
      (all_made : o.generator.MakesAll d rules) :
      Prepared env i sloPath classesPath labels disableTicket kubernetes t (.ok (o, rules))

theorem prepared (t : FileTree) :
    Prepared env i sloPath classesPath labels disableTicket kubernetes t
      (prepareRules FileTree.files env i sloPath classesPath labels disableTicket
        kubernetes t).1 := by
  have steady := FileTree.steady_files
  rw [prepareRules, bind_apply, readOnly_loadSettings steady]
  cases loaded : (loadSettings FileTree.files env i.config t).1 with
  | error fault =>
    refine .unread (.inl ⟨fault, rfl⟩) fun s o d inputs => ?_
    cases loaded.symm.trans inputs.settings
  | ok s =>
    -- the settings that there are
    have settings {s' : Settings} {o : RuleOptions} {d : Document}
        (inputs : Inputs env i sloPath classesPath labels disableTicket kubernetes t s' o d) :
        s' = s := Except.ok.inj (inputs.settings.symm.trans loaded)
    dsimp only
    cases resolved : RuleOptions.resolve s disableTicket kubernetes labels with
    | error fault =>
      refine .unread (.inr ⟨fault, rfl⟩) fun s' o d inputs => ?_
      obtain rfl := settings inputs
      cases resolved.symm.trans (resolve_eq_ok_iff.2 inputs.options)
    | ok o =>
      have options := resolve_eq_ok_iff.1 resolved
      dsimp only
      rw [bind_apply, collectRules, bind_apply, steady.loadWith]
      cases read : (Document.loadWith FileTree.files sloPath
          (classesPath <|> s.classesPath) t).1 with
      | error fault =>
        refine .unread (.inr ⟨fault, rfl⟩) fun s' o d inputs => ?_
        obtain rfl := settings inputs
        cases read.symm.trans inputs.document
      | ok d =>
        have inputs : Inputs env i sloPath classesPath labels disableTicket kubernetes t s o d :=
          ⟨loaded, options, read⟩
        dsimp only
        rw [Outcome.result, ← RuleOptions.generator, Generator.failed_generateAll]
        by_cases none_fails : o.generator.failing d = []
        · rw [List.isEmpty_iff.2 none_fails]
          exact .made inputs (Generator.makesAll_iff.2 ⟨none_fails, rfl⟩)
        · rw [List.isEmpty_eq_false_iff.2 none_fails]
          exact .failed inputs none_fails (Report.tells_failures _ _)

/-! ## All or nothing -/

/-- A call next to the same call that writes to the stream: what it ends with and the files
    that it leaves. -/
structure AllOrNothing (ruleOutput : Option String) (t : FileTree)
    (printed done : Ending × FileTree) : Prop where
  /-- A fault before writing leaves the files alone and the stream empty, and it is the fault
      that both calls have. -/
  refused : ∀ fault, done.1.fault = some fault → (∀ cause, fault ≠ .file cause) →
    done.2 = t ∧ done.1.result.stdout = "" ∧ printed = done
  /-- A fault of writing comes up only if there are rules and a file to write them to. -/
  unwritten : ∀ cause, done.1.fault = some (.file cause) → printed.1.fault = none ∧
    ∃ path, ruleOutput = some path ∧
      FileTree.files.writeDeep path printed.1.result.stdout t = (.error cause, done.2)
  /-- What is written to a file is what would be written to the stream. -/
  written : ∀ path, ruleOutput = some path → done.1.result.exitCode = 0 →
    printed.1.fault = none ∧ done.2.readText path = .ok printed.1.result.stdout
  /-- Without a file to write to, no file changes. -/
  untouched : ruleOutput = none → done.2 = t

/-- What a call ends with, next to the same call that writes to the stream, for what it has to
    make rules from. -/
structure Accounted (write : Yaml.Writer) (env : Settings.Environment) (i : Invocation)
    (sloPath : String) (classesPath labels : Option String) (disableTicket kubernetes : Bool)
    (t : FileTree) (printed done : Ending × FileTree) : Prop where
  /-- Without inputs a call says why there are none. -/
  unread : (∀ s o d, ¬ Inputs env i sloPath classesPath labels disableTicket kubernetes t s o d) →
    ∃ fault : CommandFault, fault.OfInputs ∧ done = ({ fault := some fault }, t)
  /-- If services have no rules, these are reported in the order of the document and counted,
      and nothing else is done. -/
  failed : ∀ s o d,
    Inputs env i sloPath classesPath labels disableTicket kubernetes t s o d →
      o.generator.failing d ≠ [] →
        ∃ stderr, Report.Tells (o.generator.failing d) i.output stderr ∧
          done = ({ stderr, fault := some (.failedSlos (o.generator.failing d).length) }, t)
  /-- Services are counted only if they have no rules. -/
  counted : ∀ k, done.1.fault = some (.failedSlos k) → 0 < k ∧ ∃ s o d,
    Inputs env i sloPath classesPath labels disableTicket kubernetes t s o d ∧
      (o.generator.failing d).length = k
  /-- If all services have rules, their text is what is written, or there is no text and
      nothing is done. -/
  rendered : ∀ s o d rules,
    Inputs env i sloPath classesPath labels disableTicket kubernetes t s o d →
      o.generator.MakesAll d rules → ∃ text, o.Renders write rules text ∧ match text with
        | .error cause => done = ({ fault := some (.unwritable cause) }, t)
        | .ok text => printed = ({ stdout := text }, t)
  /-- A call succeeds only if all services have rules and these have a text. -/
  succeeded : done.1.result.exitCode = 0 → ∃ s o d rules,
    Inputs env i sloPath classesPath labels disableTicket kubernetes t s o d ∧
      o.generator.MakesAll d rules ∧ o.Renders write rules (.ok printed.1.result.stdout)

/-- A call that ends with a fault and has done nothing. -/
theorem allOrNothing_refused {ending : Ending} {fault : CommandFault}
    (fails : ending.fault = some fault) (not_file : ∀ cause, fault ≠ .file cause)
    (quiet : ending.stdout = "") : AllOrNothing ruleOutput t (ending, t) (ending, t) where
  refused := fun _ _ _ => ⟨rfl, ending.stdout_result.trans quiet, rfl⟩
  unwritten := fun cause h => absurd (Option.some.inj (fails.symm.trans h)) (not_file cause)
  written := fun _ _ h => nomatch fails.symm.trans (Ending.exitCode_result_eq_zero_iff.1 h)
  untouched := fun _ => rfl

/-- A call that has a text to write. -/
theorem allOrNothing_writeRules {rules : List SloRules} {text : String}
    (rendered : o.renderWith write rules = .ok text) (output : ReportFormat) :
    AllOrNothing ruleOutput t ({ stdout := text }, t)
      (writeRules write FileTree.files output ruleOutput o rules t) := by
  cases ruleOutput with
  | none =>
    rw [writeRules_none rendered]
    exact
      { refused := fun _ h => (nomatch h)
        unwritten := fun _ h => (nomatch h)
        written := fun _ h => (nomatch h)
        untouched := fun _ => rfl }
  | some path =>
    rw [writeRules_some rendered]
    -- writing can still fail, after directories were made for the file
    rcases written : FileTree.files.writeDeep path text t with ⟨cause | _, u⟩
    · exact
        { refused := fun fault h others => absurd (Option.some.inj h).symm (others cause)
          unwritten := fun other h => by
            obtain rfl := CommandFault.file.inj (Option.some.inj h)
            exact ⟨rfl, path, rfl, written⟩
          written := fun _ _ h => nomatch Ending.exitCode_result_eq_zero_iff.1 h
          untouched := fun h => (nomatch h) }
    · exact
        { refused := fun _ h => (nomatch h)
          unwritten := fun _ h => (nomatch h)
          written := fun other h _ => by
            obtain rfl := Option.some.inj h
            exact ⟨rfl, FileTree.readText_of_writeDeep written⟩
          untouched := fun h => (nomatch h) }

/-- A call that prepares nothing to write ends with a fault and has done nothing. -/
theorem Prepared.refused {ending : Ending}
    (prepared : Prepared env i sloPath classesPath labels disableTicket kubernetes t
      (.error ending)) : AllOrNothing ruleOutput t (ending, t) (ending, t) := by
  cases prepared with
  | unread cause missing =>
    refine allOrNothing_refused rfl ?_ rfl
    rcases cause with ⟨cause, rfl⟩ | ⟨cause, rfl⟩
    · exact fun _ h => (nomatch h)
    · exact fun _ h => (nomatch h)
  | failed inputs some_fail told => exact allOrNothing_refused rfl (fun _ h => (nomatch h)) rfl

theorem Prepared.accounted_refused {ending : Ending}
    (prepared : Prepared env i sloPath classesPath labels disableTicket kubernetes t
      (.error ending)) :
    Accounted write env i sloPath classesPath labels disableTicket kubernetes t
      (ending, t) (ending, t) := by
  cases prepared with
  | @unread fault cause missing =>
    have not_counting (k : Nat) : fault ≠ .failedSlos k := by
      rcases cause with ⟨cause, rfl⟩ | ⟨cause, rfl⟩
      · exact fun h => (nomatch h)
      · exact fun h => (nomatch h)
    exact
      { unread := fun _ => ⟨fault, cause, rfl⟩
        failed := fun s o d inputs => absurd inputs (missing s o d)
        counted := fun k h => absurd (Option.some.inj h) (not_counting k)
        rendered := fun s o d _ inputs => absurd inputs (missing s o d)
        succeeded := fun h => nomatch Ending.exitCode_result_eq_zero_iff.1 h }
  | @failed s o d stderr inputs some_fail told =>
    refine
      { unread := fun missing => absurd inputs (missing s o d)
        failed := ?reported
        counted := ?counted
        rendered := ?rendered
        succeeded := fun h => nomatch Ending.exitCode_result_eq_zero_iff.1 h }
    -- the inputs of a call are unique, so what holds of these holds of all
    case reported =>
      intro s' o' d' also _
      obtain ⟨-, rfl, rfl⟩ := inputs.unique also
      exact ⟨stderr, told, rfl⟩
    case counted =>
      intro k counted
      obtain rfl := CommandFault.failedSlos.inj (Option.some.inj counted)
      exact ⟨List.length_pos_of_ne_nil some_fail, s, o, d, inputs, rfl⟩
    case rendered =>
      intro s' o' d' rules also all_made
      obtain ⟨-, rfl, rfl⟩ := inputs.unique also
      exact absurd (Generator.makesAll_iff.1 all_made).1 some_fail

/-- Writing rules counts no services. -/
theorem uncounted_writeRules (write : Yaml.Writer) (output : ReportFormat)
    (ruleOutput : Option String) (o : RuleOptions) (rules : List SloRules) (t : FileTree)
    (k : Nat) : (writeRules write FileTree.files output ruleOutput o rules t).1.fault ≠
      some (.failedSlos k) := by
  cases rendered : o.renderWith write rules with
  | error cause =>
    rw [writeRules_of_error rendered]
    exact fun h => (nomatch h)
  | ok text =>
    cases ruleOutput with
    | none =>
      rw [writeRules_none rendered]
      exact fun h => (nomatch h)
    | some path =>
      rw [writeRules_some rendered]
      rcases FileTree.files.writeDeep path text t with ⟨cause | _, u⟩
      · exact fun h => (nomatch h)
      · exact fun h => (nomatch h)

/-- A call that has rules to write writes their text, or nothing if there is none. -/
theorem Prepared.accounted_writeRules {rules : List SloRules}
    (prepared : Prepared env i sloPath classesPath labels disableTicket kubernetes t
      (.ok (o, rules))) :
    Accounted write env i sloPath classesPath labels disableTicket kubernetes t
      (writeRules write FileTree.files i.output none o rules t)
      (writeRules write FileTree.files i.output ruleOutput o rules t) := by
  cases prepared with
  | @made s o d rules inputs all_made =>
    have renders := o.renders write rules
    refine
      { unread := fun missing => absurd inputs (missing s o d)
        failed := ?reported
        counted := fun k h => absurd h (uncounted_writeRules write i.output ruleOutput o rules t k)
        rendered := ?rendered
        succeeded := ?succeeded }
    case reported =>
      intro s' o' d' also some_fail
      obtain ⟨-, rfl, rfl⟩ := inputs.unique also
      exact absurd (Generator.makesAll_iff.1 all_made).1 some_fail
    case rendered =>
      intro s' o' d' rules' also others
      obtain ⟨-, rfl, rfl⟩ := inputs.unique also
      obtain rfl := all_made.unique others
      refine ⟨_, renders, ?_⟩
      cases rendered : o.renderWith write rules with
      | error cause => exact writeRules_of_error rendered i.output ruleOutput t
      | ok text => exact writeRules_none rendered i.output t
    case succeeded =>
      intro succeeds
      cases rendered : o.renderWith write rules with
      | error cause =>
        rw [writeRules_of_error rendered] at succeeds
        cases Ending.exitCode_result_eq_zero_iff.1 succeeds
      | ok text =>
        rw [rendered] at renders
        rw [writeRules_none rendered]
        exact ⟨s, o, d, rules, inputs, all_made, renders⟩

/-- A call that makes rules writes all of them or nothing, with the writer of `perform` and
    with any other. A fault before the rules are written leaves the files and the stream alone;
    services without rules are counted and reported in their order; what is written is the text
    of the rules of all services; and rules that go to a file are those that the same call
    would write to the stream. -/
theorem generate_all_or_nothing (write : Yaml.Writer) (env : Settings.Environment) (t : FileTree)
    (makes : i.action =
      .generate sloPath classesPath ruleOutput disableTicket kubernetes labels) :
    let printed := performWith write FileTree.files env { i with
      action := .generate sloPath classesPath none disableTicket kubernetes labels } t
    let done := performWith write FileTree.files env i t
    AllOrNothing ruleOutput t printed done ∧
      Accounted write env i sloPath classesPath labels disableTicket kubernetes t printed done := by
  have steady := FileTree.steady_files
  intro printed done
  -- a call prepares the same, wherever it writes
  have same : printed = match (prepareRules FileTree.files env i sloPath classesPath labels
      disableTicket kubernetes t).1 with
    | .error ending => (ending, t)
    | .ok (o, rules) => writeRules write FileTree.files i.output none o rules t :=
    performWith_eq steady rfl t
  rw [same, show done = _ from performWith_eq steady makes t]
  have how : Prepared env i sloPath classesPath labels disableTicket kubernetes t _ := prepared t
  cases result : (prepareRules FileTree.files env i sloPath classesPath labels disableTicket
      kubernetes t).1 with
  | error ending =>
    rw [result] at how
    exact ⟨how.refused, how.accounted_refused⟩
  | ok made =>
    obtain ⟨o, rules⟩ := made
    rw [result] at how
    refine ⟨?_, how.accounted_writeRules⟩
    dsimp only
    cases rendered : o.renderWith write rules with
    | error cause =>
      rw [writeRules_of_error rendered, writeRules_of_error rendered]
      exact allOrNothing_refused rfl (fun _ h => (nomatch h)) rfl
    | ok text =>
      rw [writeRules_none rendered]
      exact allOrNothing_writeRules rendered i.output

/-- A document whose services all have rules, and one with a service that has none, in calls
    that write to a file in a new directory; and the first of them with a writer that has no
    text for any document. -/
theorem generate_all_or_nothing_checkout :
    let t := FileTree.ofEntries []
      [("good.yml", .file "slos:\n- name: checkout\n".toUTF8),
        ("bad.yml", .file "slos:\n- name: search\n- name: checkout\n  class: gold\n".toUTF8)]
    let i (path : String) (output : Option String) : Invocation :=
      { action := .generate path none output false false none }
    let written := perform FileTree.files [] (i "good.yml" (some "out/rules.yml")) t
    let printed := perform FileTree.files [] (i "good.yml" none) t
    let failed := perform FileTree.files [] (i "bad.yml" (some "out/rules.yml")) t
    let unwritable := performWith (fun _ => .error "no text") FileTree.files []
      (i "good.yml" (some "out/rules.yml")) t
    (written.1.result.exitCode = 0 ∧
      written.2.readText "out/rules.yml" = .ok printed.1.result.stdout ∧ printed.2 = t) ∧
    (∃ (failing : List Failure) (stderr : String), failing.map Failure.slo = ["checkout"] ∧
      Report.Tells failing .text stderr ∧
        failed = ({ stderr, fault := some (.failedSlos 1) }, t)) ∧
    unwritable = ({ fault := some (.unwritable "no text") }, t) := by
  intro t i written printed failed unwritable
  obtain ⟨good, -⟩ := generate_all_or_nothing Yaml.writer [] t
    (i := i "good.yml" (some "out/rules.yml")) rfl
  obtain ⟨quiet, -⟩ := generate_all_or_nothing Yaml.writer [] t (i := i "good.yml" none) rfl
  obtain ⟨-, bad⟩ := generate_all_or_nothing Yaml.writer [] t
    (i := i "bad.yml" (some "out/rules.yml")) rfl
  obtain ⟨-, mute⟩ := generate_all_or_nothing (fun _ => .error "no text") [] t
    (i := i "good.yml" (some "out/rules.yml")) rfl
  let o : RuleOptions := ⟨false, false, KeyMap.empty⟩
  have settings : (loadSettings FileTree.files [] none t).1 = .ok {} :=
    eq_ok_of_toOption (by decide +kernel)
  have options : o.Over {} false false none := RuleOptions.over_iff.2 ⟨_, rfl, rfl⟩
  -- the names of the services without rules in the document at a path
  have names (path : String) (listing : List String)
      (h : ((Document.loadWith FileTree.files path (none <|> Settings.classesPath {})
        t).1.toOption.map fun d => (o.generator.failing d).map Failure.slo) = some listing) :
      ∃ d, Inputs [] (i path (some "out/rules.yml")) path none none false false t {} o d ∧
        (o.generator.failing d).map Failure.slo = listing := by
    obtain ⟨d, read, listed⟩ := Option.map_eq_some_iff.1 h
    exact ⟨d, ⟨settings, options, eq_ok_of_toOption read⟩, listed⟩
  refine ⟨?good, ?bad, ?mute⟩
  case good =>
    have succeeds : written.1.fault.isNone = true := by decide +kernel
    have made := Ending.exitCode_result_eq_zero_iff.2 (Option.isNone_iff_eq_none.1 succeeds)
    exact ⟨made, (good.written _ rfl made).2, quiet.untouched rfl⟩
  case bad =>
    obtain ⟨d, inputs, listed⟩ := names "bad.yml" ["checkout"] (by decide +kernel)
    have one : (o.generator.failing d).length = 1 := by
      rw [← List.length_map (f := Failure.slo), listed]
      rfl
    obtain ⟨stderr, told, ends⟩ := bad.failed _ _ d inputs (List.ne_nil_of_length_pos (by omega))
    rw [one] at ends
    exact ⟨_, stderr, listed, told, ends⟩
  case mute =>
    obtain ⟨d, inputs, listed⟩ := names "good.yml" [] (by decide +kernel)
    have none_fails := List.map_eq_nil_iff.1 listed
    obtain ⟨text, renders, ends⟩ := mute.rendered _ _ d _ inputs
      (Generator.makesAll_iff.2 ⟨none_fails, rfl⟩)
    cases renders with
    | text written =>
      -- there is a document to write, the rule file
      cases written with
      | cons first _ => cases first
    | cause documents written unwritable =>
      cases unwritable
      exact ends

end Endings

end Command

end ErrorBudget
