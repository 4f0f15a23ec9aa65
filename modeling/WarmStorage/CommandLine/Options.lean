import WarmStorage.Text.Amount
import WarmStorage.Text.Decimal

/-!
Commands and their options, and the reading of a command line. A command line is a path of
commands, each followed by options of its own. An option has a long name behind two hyphens and
perhaps a short one behind a single hyphen; a value is an argument of its own, or follows an equals
sign, or stands directly behind a short name. What is wrong is noticed from the front to the end,
and reading stops where help or the version is asked for.
-/

namespace WarmStorage.CommandLine

inductive ValueKind where
  | text
  | file
  | natural
  | amount
deriving DecidableEq, Repr

def ValueKind.accepts : ValueKind → String → Bool
  | text, _ => true
  | file, s => s != ""
  | natural, s => (Text.Natural.read? s).isSome
  | amount, s => (Text.Amount.read? s).isSome

inductive Effect where
  | takes (kind : ValueKind)
  | switch
  | help
  | version
deriving DecidableEq, Repr

structure Flag where
  name : String
  short : Option Char := none
  effect : Effect
deriving DecidableEq, Repr

inductive Command where
  | program
  | config
  | configCheck
  | schedule
  | inspect
  | arbitrate
deriving DecidableEq, Repr

namespace Command

def commonFlags : List Flag :=
  [⟨"log", none, .takes .text⟩, ⟨"help", some 'h', .help⟩]

def snapshotFlags : List Flag :=
  [⟨"snapshot", some 's', .takes .file⟩, ⟨"registry", none, .takes .file⟩,
   ⟨"epoch", none, .takes .natural⟩]

def ownFlags : Command → List Flag
  | program => [⟨"version", some 'V', .version⟩]
  | config => []
  | configCheck => [⟨"config", some 'c', .takes .file⟩]
  | schedule =>
    [⟨"config", some 'c', .takes .file⟩, ⟨"activation", none, .takes .natural⟩,
     ⟨"periods", some 'n', .takes .natural⟩, ⟨"json", none, .switch⟩]
  | inspect => ⟨"data-set", none, .takes .natural⟩ :: snapshotFlags
  | arbitrate =>
    [⟨"rail", none, .takes .natural⟩, ⟨"amount", none, .takes .amount⟩,
     ⟨"from", none, .takes .natural⟩, ⟨"to", none, .takes .natural⟩,
     ⟨"rate", none, .takes .amount⟩] ++ snapshotFlags

def flags (c : Command) : List Flag :=
  c.ownFlags ++ commonFlags

def flag? (c : Command) (name : String) : Option Flag :=
  c.flags.find? (·.name == name)

def shortFlag? (c : Command) (letter : Char) : Option Flag :=
  c.flags.find? (·.short == some letter)

def subcommands : Command → List (String × Command)
  | program =>
    [("config", config), ("schedule", schedule), ("inspect", inspect), ("arbitrate", arbitrate)]
  | config => [("check", configCheck)]
  | _ => []

def subcommand? (c : Command) (name : String) : Option Command :=
  (c.subcommands.find? (·.1 == name)).map (·.2)

def isGroup (c : Command) : Bool :=
  !c.subcommands.isEmpty

end Command

inductive Stop where
  | misuse
  | help
  | version
deriving DecidableEq, Repr

inductive Argument where
  | word (text : String)
  | endOfOptions
  | long (name : String) (value : Option String)
  | letters (cs : List Char)
deriving DecidableEq, Repr

def Argument.ofString (s : String) : Argument :=
  match s.toList with
  | ['-', '-'] => endOfOptions
  | '-' :: '-' :: cs =>
    match cs.span (· != '=') with
    | (name, []) => long (String.ofList name) none
    | (name, _ :: value) => long (String.ofList name) (some (String.ofList value))
  | '-' :: c :: cs => letters (c :: cs)
  | _ => word s

structure Settings where
  command : Command := .program
  own : List (String × String) := []
  inherited : List (String × String) := []
deriving DecidableEq, Repr

abbrev Pending := Option (Flag × ValueKind)

namespace Settings

def enter (s : Settings) (c : Command) : Settings :=
  ⟨c, [], s.own ++ s.inherited⟩

def set (s : Settings) (f : Flag) (value : String) : Except Stop Settings :=
  if s.own.any (·.1 == f.name) then .error .misuse
  else .ok { s with own := (f.name, value) :: s.own }

def assign (s : Settings) (f : Flag) (kind : ValueKind) (value : String) :
    Except Stop Settings :=
  if kind.accepts value then s.set f value else .error .misuse

def readLong (s : Settings) (name : String) (value : Option String) :
    Except Stop (Settings × Pending) :=
  match s.command.flag? name with
  | none => .error .misuse
  | some f =>
    match f.effect, value with
    | .takes kind, none => .ok (s, some (f, kind))
    | .takes kind, some value => (s.assign f kind value).map (·, none)
    | .switch, none => (s.set f "").map (·, none)
    | .help, none => .error .help
    | .version, none => .error .version
    | _, some _ => .error .misuse

def readLetters (s : Settings) : List Char → Except Stop (Settings × Pending)
  | [] => .ok (s, none)
  | c :: cs =>
    match s.command.shortFlag? c with
    | none => .error .misuse
    | some f =>
      match f.effect with
      | .takes kind =>
        match cs with
        | [] => .ok (s, some (f, kind))
        | '=' :: cs => (s.assign f kind (String.ofList cs)).map (·, none)
        | cs => (s.assign f kind (String.ofList cs)).map (·, none)
      | .switch => do readLetters (← s.set f "") cs
      | .help => .error .help
      | .version => .error .version

end Settings

def helpOn : Command → List String → Stop
  | _, [] => .help
  | c, name :: names =>
    match c.subcommand? name with
    | some c => helpOn c names
    | none => if c.isGroup && name == "help" && names.isEmpty then .help else .misuse

def isWordNext : List String → Bool
  | [] => false
  | arg :: _ => Argument.ofString arg matches .word _

def read (s : Settings) : Pending → List String → Except Stop Settings
  | none, [] => .ok s
  | some _, [] => .error .misuse
  | some (f, kind), arg :: args =>
    match Argument.ofString arg with
    | .word value =>
      match s.assign f kind value with
      | .ok s => read s none args
      | .error stop =>
        if isWordNext args then (read s none args).bind fun _ => .error stop else .error stop
    | _ => .error .misuse
  | none, arg :: args =>
    match Argument.ofString arg with
    | .word name =>
      match s.command.subcommand? name with
      | some c => read (s.enter c) none args
      | none => .error (if s.command.isGroup && name == "help" then helpOn s.command args
          else .misuse)
    | .endOfOptions => if args.isEmpty then .ok s else .error .misuse
    | .long name value => do
      let (s, pending) ← s.readLong name value
      read s pending args
    | .letters cs => do
      let (s, pending) ← s.readLetters cs
      read s pending args

namespace Settings

def ofArguments (args : List String) : Except Stop Settings :=
  read {} none args

def value? (s : Settings) (name : String) : Option String :=
  (s.own ++ s.inherited).lookup name

def isSet (s : Settings) (name : String) : Bool :=
  (s.value? name).isSome

def natural? (s : Settings) (name : String) : Option UInt64 :=
  (s.value? name).bind Text.Natural.read?

def amount? (s : Settings) (name : String) : Option UInt256 :=
  (s.value? name).bind Text.Amount.read?

end Settings

end WarmStorage.CommandLine
