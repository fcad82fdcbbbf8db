import SandboxWatch.CommandLine.Options
import SandboxWatch.CommandLine.Word

/-!
# SandboxWatch.CommandLine.Invocation

What a command line asks for. Words are judged from left to right.

* `Invocation` — a command with its namespace and options.
* `Place`      — what has been read before or after the command. The value of an option that stands
  in a word of its own is checked when the next word has been recognised.
* `interpret`  — the whole command line.
-/

namespace SandboxWatch.CommandLine

inductive Command where
  | get
  | watch
deriving DecidableEq, Repr

namespace Command

def text : Command → String
  | .get => "get"
  | .watch => "watch"

def ofText? : String → Option Command
  | "get" => some .get
  | "watch" => some .watch
  | _ => none

end Command

structure Invocation where
  output : OutputFormat := .human
  memberLabel : Option String := none
  serviceLabel : Option String := none
  syncTimeout : Option UInt64 := none
  verbose : Nat := 0
  command : Command
  ns : String
deriving DecidableEq, Repr

/-- Options win over the environment. -/
def Invocation.config (i : Invocation) (env : Environment) : Config :=
  let base := Config.ofEnvironment env
  { memberLabel := i.memberLabel.getD base.memberLabel
    serviceLabel := i.serviceLabel.getD base.serviceLabel
    syncTimeout := (i.syncTimeout.map Duration.ofSeconds).or base.syncTimeout }

inductive HelpPage where
  | overview
  | command (c : Command)
  | help
deriving DecidableEq, Repr

inductive Outcome where
  | run (i : Invocation)
  | help (page : HelpPage)
  | version
  | rejected (cause : UsageError)
deriving DecidableEq, Repr

/-- An option whose value stands in a word of its own. -/
inductive Pending where
  | none
  /-- The next word has to be the value. -/
  | due (s : Setting)
  /-- The value is yet to be checked. -/
  | held (s : Setting) (value : String)
deriving DecidableEq, Repr

structure Place where
  /-- The help page that belongs here. -/
  page : HelpPage
  given : Given := {}
  pending : Pending := .none
  /-- The words from here on are plain. -/
  escaped : Bool := false
deriving DecidableEq, Repr

inductive Halt where
  | help
  | version
  | rejected (cause : UsageError)
deriving DecidableEq, Repr

namespace Place

/-- Checks the value that is held; one that is due is missing. -/
def settle (p : Place) : Except UsageError Place :=
  match p.pending with
  | .none => .ok p
  | .due _ => .error .invalidValue
  | .held s value =>
    match p.given.set s value with
    | .ok given => .ok { p with given, pending := .none }
    | .error e => .error e

def settled {α : Type} (p : Place) (next : Place → Except Halt α) : Except Halt α :=
  match p.settle with
  | .ok p => next p
  | .error e => .error (.rejected e)

def set (p : Place) (s : Setting) (value : String) : Except Halt Place :=
  p.settled fun p =>
    match p.given.set s value with
    | .ok given => .ok { p with given }
    | .error e => .error (.rejected e)

def await (p : Place) (s : Setting) : Except Halt Place :=
  p.settled fun p => .ok { p with pending := .due s }

def moreVerbose (p : Place) : Except Halt Place :=
  p.settled fun p => .ok { p with given := p.given.moreVerbose }

def showHelp (p : Place) : Except Halt Place := p.settled fun _ => .error .help

def showVersion (p : Place) : Except Halt Place := p.settled fun _ => .error .version

/-- The version can be asked for before the command only. -/
def hasVersion (p : Place) : Bool := p.page = .overview

def readLong (p : Place) (name : String) (value : Option String) : Except Halt Place :=
  match Setting.ofName? name, value with
  | some s, some v => p.set s v
  | some s, none => p.await s
  | none, value =>
    if name = "verbose" ∨ name = "help" ∨ name = "version" ∧ p.hasVersion then
      if value.isSome then .error (.rejected .unwantedValue)
      else if name = "verbose" then p.moreVerbose
      else if name = "help" then p.showHelp
      else p.showVersion
    else .error (.rejected .unknownArgument)

/-- The value in the same word as its letter; an equals sign may stand between them. -/
def attached : List Char → String
  | '=' :: value => String.ofList value
  | value => String.ofList value

def readShort (p : Place) : List Char → Except Halt Place
  | [] => .ok p
  | c :: rest =>
    if c = 'v' then
      match p.moreVerbose with
      | .ok p => readShort p rest
      | .error h => .error h
    else if c = 'o' then
      if rest.isEmpty then p.await .output else p.set .output (attached rest)
    else if c = 'h' then p.showHelp
    else if c = 'V' ∧ p.hasVersion then p.showVersion
    else .error (.rejected .unknownArgument)

end Place

def Halt.outcome (page : HelpPage) : Halt → Outcome
  | .help => .help page
  | .version => .version
  | .rejected e => .rejected e

inductive Reading where
  | goesOn (p : Place)
  | stops (h : Halt)
  /-- The word is neither an option nor the value of one. -/
  | plain

def Reading.ofExcept : Except Halt Place → Reading
  | .ok p => .goesOn p
  | .error h => .stops h

/-- An option, the value of one, or the mark that no more options come. -/
def Place.read (p : Place) (word : String) : Reading :=
  if p.escaped then .plain
  else
    match Word.ofText word with
    | .escape => .goesOn { p with escaped := true }
    | .long name value => .ofExcept (p.readLong name value)
    | .short letters => .ofExcept (p.readShort letters)
    | .plain =>
      match p.pending with
      | .due s => .goesOn { p with pending := .held s word }
      | _ => .plain

/-! ## After the command -/

/-- The end of the command line: the namespace has to be there, and what was held before the
command is checked last. -/
def finish (outer inner : Place) (command : Command) (ns : Option String) : Outcome :=
  match inner.settle, ns, outer.settle with
  | .error e, _, _ => .rejected e
  | .ok _, none, _ => .rejected .missingNamespace
  | .ok _, some _, .error e => .rejected e
  | .ok inner, some ns, .ok outer =>
    let g := inner.given.orElse outer.given
    .run
      { output := g.output.getD .human
        memberLabel := g.memberLabel
        serviceLabel := g.serviceLabel
        syncTimeout := g.syncTimeout
        verbose := g.verbose
        command
        ns }

/-- Reads the words after the command; the first that is no option is the namespace. -/
def readCommand (outer : Place) (command : Command) (inner : Place) (ns : Option String) :
    List String → Outcome
  | [] => finish outer inner command ns
  | word :: rest =>
    match inner.read word with
    | .goesOn inner => readCommand outer command inner ns rest
    | .stops h => h.outcome inner.page
    | .plain =>
      match ns with
      | some _ => .rejected .unknownArgument
      | none =>
        match inner.settle with
        | .ok inner => readCommand outer command inner (some word) rest
        | .error e => .rejected e

/-! ## Before the command -/

/-- The page that `help` and the words after it ask for. -/
def helpTopic : List String → Outcome
  | [] => .help .overview
  | ["help"] => .help .help
  | [word] =>
    match Command.ofText? word with
    | some c => .help (.command c)
    | none => .rejected .unknownCommand
  | _ => .rejected .unknownCommand

/-- The end of a command line without a command. -/
def finishEmpty (p : Place) : Outcome :=
  match p.settle with
  | .error e => .rejected e
  | .ok p => if p.given.isEmpty then .rejected .nothingAsked else .rejected .missingCommand

def Pending.isDue : Pending → Bool
  | .due _ => true
  | _ => false

def readOverview (p : Place) : List String → Outcome
  | [] => finishEmpty p
  | word :: rest =>
    let isCommand := word = "help" ∨ (Command.ofText? word).isSome
    if isCommand ∧ !p.escaped ∧ !p.pending.isDue then
      match Command.ofText? word with
      | some c => readCommand p c { page := .command c } none rest
      | none => helpTopic rest
    else
      match p.read word with
      | .goesOn p => readOverview p rest
      | .stops h => h.outcome p.page
      | .plain => .rejected (if isCommand then .unknownArgument else .unknownCommand)

/-- What the words after the program's name ask for. -/
def interpret (words : List String) : Outcome := readOverview { page := .overview } words

end SandboxWatch.CommandLine
