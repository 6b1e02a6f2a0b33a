/-
  ErrorBudget.Command.Arguments

  Reading the arguments of the program. They are taken one at a time. The value
  of an option that stands in the next argument is looked at when the next
  option comes or the arguments are over, after those of the command below.
-/
import ErrorBudget.Command.Usage

namespace ErrorBudget.Command

/-- Options of one command with their values; a flag has none. -/
abbrev Given := List (String × String)

/-- An option whose value has not been looked at yet. -/
structure Pending where
  option : OptionSpec
  value : Option String := none

/-- The arguments of one command that have been read. -/
structure Progress where
  given : Given := []
  pending : Option Pending := none
  /-- Whether the next argument is a value. -/
  waits : Bool := false
  /-- Whether two dashes have ended the options. -/
  ended : Bool := false

/-- A command that was given, with its options, and the commands around it, the
    innermost first. -/
abbrev Chosen := List (Level × Given)

namespace Progress

/-! ## Options -/

/-- Whether an option may have a value. -/
def accepts (kind : ValueKind) (value : String) : Bool :=
  match kind with
  | .path => !value.isEmpty
  | .text => true
  | .format => (ReportFormat.ofName? value).isSome

/-- The arguments with an option; none may be given twice. -/
def give (p : Progress) (o : OptionSpec) (value : String) : Except Usage Progress :=
  if (p.given.lookup o.name).isSome then .error .conflict
  else if o.value.any fun kind => !accepts kind value then .error .invalidValue
  else .ok { p with given := (o.name, value) :: p.given, waits := false }

/-- The arguments with the option whose value had not been looked at. -/
def settle (p : Progress) : Except Usage Progress :=
  match p.pending with
  | none => .ok p
  | some ⟨_, none⟩ => .error .invalidValue
  | some ⟨o, some value⟩ => { p with pending := none }.give o value

/-- The arguments with an option, and with its value if that is in the same
    argument. -/
def option (p : Progress) (o : OptionSpec) (attached : Option String) :
    Except Usage Progress :=
  match o.value, attached with
  | none, some _ => .error .unwantedValue
  | none, none => do (← p.settle).give o ""
  | some _, some value => do (← p.settle).give o value
  | some _, none => do return { ← p.settle with pending := some ⟨o, none⟩, waits := true }

/-- What is asked for instead of work. -/
def ask (p : Progress) (u : Usage) (attached : Option String) : Except Usage Progress :=
  if attached.isSome then .error .unwantedValue
  else do
    let _ ← p.settle
    throw u

/-! ## Arguments -/

/-- An option by its name. -/
def long (l : Level) (p : Progress) (name : String) (attached : Option String) :
    Except Usage Progress :=
  if name = "help" then p.ask .help attached
  else if name = "version" && l = .program then p.ask .version attached
  else match l.options.find? fun o => o.name == name with
    | some o => p.option o attached
    | none => .error .unknownArgument

/-- What is attached to a letter: all that follows it, without an equals sign. -/
def attachedTo : List Char → Option String
  | [] => none
  | '=' :: cs => some (String.ofList cs)
  | cs => some (String.ofList cs)

/-- An option by its letter. -/
def short (l : Level) (p : Progress) (c : Char) (rest : List Char) : Except Usage Progress :=
  if c = 'h' then p.ask .help none
  else if c = 'V' && l = .program then p.ask .version none
  else match l.options.find? fun o => o.letter == some c with
    | some o => p.option o (attachedTo rest)
    | none => .error .unknownArgument

/-- Name and value of an option that is one argument. -/
def splitValue (cs : List Char) : String × Option String :=
  (String.ofList (cs.takeWhile (· ≠ '=')),
    match cs.dropWhile (· ≠ '=') with
    | [] => none
    | _ :: value => some (String.ofList value))

/-- An argument that is no option and no value. -/
def stray (l : Level) (p : Progress) (arg : String) : Usage :=
  if p.ended && (l.children.lookup arg).isSome then .unknownArgument
  else if l.children.isEmpty then .unknownArgument
  else .unknownCommand

/-- The arguments with one more, which does not name a command. -/
def next (l : Level) (p : Progress) (arg : String) : Except Usage Progress :=
  if p.ended then .error (p.stray l arg)
  else match arg.toList with
    | ['-', '-'] => .ok { p with ended := true }
    | '-' :: '-' :: cs => let (name, value) := splitValue cs; p.long l name value
    | '-' :: c :: cs => p.short l c cs
    | _ =>
      match p.pending with
      | some w =>
        if p.waits then .ok { p with pending := some { w with value := some arg }, waits := false }
        else .error (p.stray l arg)
      | none => .error (p.stray l arg)

/-- The end of a command's arguments. -/
def finish (l : Level) (p : Progress) (below : Option Chosen) : Except Usage Chosen := do
  let p ← p.settle
  match below with
  | some chosen => return chosen ++ [(l, p.given)]
  | none =>
    if !l.children.isEmpty then
      throw (if p.given.isEmpty then .nothingGiven else .missingCommand)
    else if l.required.any fun name => (p.given.lookup name).isNone then throw .missingOption
    else return [(l, p.given)]

end Progress

/-! ## All arguments -/

/-- The command whose help is asked for has to be there; there is also one for help. -/
def findHelp : Level → List String → Usage
  | _, [] => .help
  | l, arg :: args => match l.children.lookup arg with
    | some child => findHelp child args
    | none => if arg = "help" && !l.children.isEmpty && args.isEmpty then .help else .unknownCommand

/-- Reads the arguments of a command and of those below it. -/
def choose (l : Level) (p : Progress) : List String → Except Usage Chosen
  | [] => p.finish l none
  | arg :: args =>
    let named := if p.ended || p.waits then none else l.children.lookup arg
    match named with
    | some child => do
      let chosen ← choose child {} args
      p.finish l (some chosen)
    | none =>
      if arg = "help" && !p.ended && !p.waits && !l.children.isEmpty then .error (findHelp l args)
      else match p.next l arg with
        | .ok p => choose l p args
        | .error u => .error u

/-! ## What is to be done -/

/-- What the program is to do. -/
inductive Action where
  | generate (sloPath : String) (classesPath ruleOutput : Option String)
      (disableTicket kubernetes : Bool) (kubernetesLabels : Option String)
  | validate (sloPath : String) (classesPath : Option String) (disableTicket : Bool)
  | checkSettings
  | showSettings (part : Option String)
deriving DecidableEq, Repr

/-- A call of the program. -/
structure Invocation where
  config : Option String := none
  logLevel : Option String := none
  output : ReportFormat := .text
  action : Action
deriving DecidableEq, Repr

namespace Invocation

/-- What is to be done for a command with its options. -/
def action? (l : Level) (given : Given) : Option Action :=
  let value (name : String) : Option String := given.lookup name
  let flag (name : String) : Bool := (value name).isSome
  match l with
  | .generate => (value "slo-path").map fun path =>
      .generate path (value "classes-path") (value "rule-output") (flag "disable-ticket")
        (flag "kubernetes") (value "kubernetes-labels")
  | .validate => (value "slo-path").map fun path =>
      .validate path (value "classes-path") (flag "disable-ticket")
  | .configValidate => some .checkSettings
  | .configShow => some (.showSettings (value "section"))
  | .program | .config => none

/-- The value of an option of every command: the innermost one counts. -/
def common (chosen : Chosen) (name : String) : Option String :=
  chosen.findSome? fun (_, given) => given.lookup name

/-- The call that arguments ask for. -/
def ofArguments (args : List String) : Except Usage Invocation := do
  let chosen ← choose .program {} args
  match chosen with
  | [] => throw .missingCommand
  | (l, given) :: _ => match action? l given with
    | none => throw .missingCommand
    | some action => return {
        config := common chosen "config"
        logLevel := common chosen "log-level"
        output := ((common chosen "output").bind ReportFormat.ofName?).getD .text
        action := action }

end Invocation

end ErrorBudget.Command
