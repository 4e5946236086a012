import BackendPolicy.Config.Basic

/-!
This module contains the arguments of the command line and their reading. Options stand before or after the
name of a command; each command has options of its own. An option with a value is settled only when the
next option is read or the arguments of its command end, so a complaint about its value gives way to one
about an argument that does not exist.
-/

namespace BackendPolicy.Command

inductive Opt where
  | chdir
  | verbose
  | help
  | version
  | config
  | format
  | var
  | quiet
deriving DecidableEq, Repr

namespace Opt

def long : Opt → String
  | chdir => "chdir"
  | verbose => "verbose"
  | help => "help"
  | version => "version"
  | config => "config"
  | format => "format"
  | var => "var"
  | quiet => "quiet"

def short? : Opt → Option Char
  | chdir => some 'C'
  | verbose => some 'v'
  | help => some 'h'
  | version => some 'V'
  | quiet => some 'q'
  | _ => none

def placeholder? : Opt → Option String
  | chdir => some "ROOT"
  | config => some "FILE"
  | format => some "FORMAT"
  | var => some "NAME=VALUE"
  | _ => none

def takesValue (o : Opt) : Bool :=
  o.placeholder?.isSome

/--
How messages name an option. Three dots stand for an option that counts.
-/
def display (o : Opt) : String :=
  match o.placeholder? with
  | some name => s!"--{o.long} <{name}>"
  | none => if o = verbose then s!"--{o.long}..." else s!"--{o.long}"

end Opt

inductive Level where
  | program
  | check
  | rules
deriving DecidableEq, Repr

namespace Level

def options : Level → List Opt
  | program => [.verbose, .chdir, .help, .version]
  | check => [.config, .format, .var, .quiet, .verbose, .chdir, .help]
  | rules => [.config, .verbose, .chdir, .help]

def long? (level : Level) (name : String) : Option Opt :=
  level.options.find? fun o => o.long = name

def short? (level : Level) (letter : Char) : Option Opt :=
  level.options.find? fun o => o.short? = some letter

end Level

inductive VarFault where
  | noEquals
  | noName
deriving DecidableEq, Repr

def VarFault.message (text : String) : VarFault → String
  | noEquals => s!"expected NAME=VALUE, found '{text}'"
  | noName => s!"missing variable name in '{text}'"

inductive ArgumentError where
  | missingValue (o : Opt)
  | repeated (o : Opt)
  | unneededValue (o : Opt) (value : String)
  | badFormat (value : String)
  | badVar (value : String) (fault : VarFault)
  | unknownCommand (name : String)
  | unexpected (argument : String)
deriving DecidableEq, Repr

def ArgumentError.message : ArgumentError → String
  | missingValue o => s!"a value is required for '{o.display}' but none was supplied"
  | repeated o => s!"the argument '{o.display}' cannot be used multiple times"
  | unneededValue o value =>
    s!"unexpected value '{value}' for '{o.display}' found; no more were expected"
  | badFormat value => s!"invalid value '{value}' for '{Opt.format.display}'"
  | badVar value fault => s!"invalid value '{value}' for '{Opt.var.display}': {fault.message value}"
  | unknownCommand name => s!"unrecognized subcommand '{name}'"
  | unexpected argument => s!"unexpected argument '{argument}' found"

structure Given where
  root : Option String := none
  config : Option String := none
  format : Option Format := none
  vars : List (String × String) := []
  quiet : Bool := false
deriving Repr, Inhabited

inductive Request where
  | help
  | version
  | check (root : String) (given : Given)
  | rules (root : String) (config : Option String)
deriving Repr

/--
Why the arguments of a level are not read to their end: something is wrong with them, or what is asked for
does not depend on the rest.
-/
inductive Stop where
  | error (e : ArgumentError)
  | request (r : Request)

def splitEquals (s : List Char) : Option (List Char × List Char) :=
  match s.dropWhile (· ≠ '=') with
  | [] => none
  | _ :: value => some (s.takeWhile (· ≠ '='), value)

def readVar (text : String) : Except VarFault (String × String) :=
  match splitEquals text.toList with
  | none => .error .noEquals
  | some ([], _) => .error .noName
  | some (name, value) => .ok (String.ofList name, String.ofList value)

def once (o : Opt) (value : String) (before : Option α) (after : α → Given) (read : Except ArgumentError α) :
    Except ArgumentError Given :=
  match before with
  | some _ => .error (.repeated o)
  | none => if value.isEmpty then .error (.missingValue o) else after <$> read

namespace Given

def setValue (given : Given) (o : Opt) (value : String) : Except ArgumentError Given :=
  match o with
  | .chdir => once o value given.root (fun root => { given with root := some root }) (.ok value)
  | .config => once o value given.config (fun path => { given with config := some path }) (.ok value)
  | .format =>
    once o value given.format (fun format => { given with format := some format }) <|
      match Format.ofName? value with
      | some format => .ok format
      | none => .error (.badFormat value)
  | .var =>
    match readVar value with
    | .ok var => .ok { given with vars := given.vars ++ [var] }
    | .error fault => .error (.badVar value fault)
  | _ => .ok given

def setFlag (given : Given) (o : Opt) : Except Stop Given :=
  match o with
  | .help => .error (.request .help)
  | .version => .error (.request .version)
  | .quiet => if given.quiet then .error (.error (.repeated o)) else .ok { given with quiet := true }
  | _ => .ok given

end Given

structure Pending where
  opt : Opt
  value : Option String
deriving DecidableEq, Repr

structure State where
  given : Given := {}
  pending : Option Pending := none

namespace State

def settle (s : State) : Except Stop Given :=
  match s.pending with
  | none => .ok s.given
  | some ⟨o, none⟩ => .error (.error (.missingValue o))
  | some ⟨o, some value⟩ => (s.given.setValue o value).mapError .error

def waiting? (s : State) : Option Opt :=
  match s.pending with
  | some ⟨o, none⟩ => some o
  | _ => none

def attached (s : State) (o : Opt) (value : String) : Except Stop State := do
  let given ← s.settle
  return { given := ← (given.setValue o value).mapError .error }

def awaiting (s : State) (o : Opt) : Except Stop State := do
  return { given := ← s.settle, pending := some ⟨o, none⟩ }

def flag (s : State) (o : Opt) : Except Stop State := do
  return { given := ← (← s.settle).setFlag o }

def readLong (level : Level) (s : State) (text : List Char) : Except Stop State :=
  let (name, value) :=
    match splitEquals text with
    | some (name, value) => (String.ofList name, some (String.ofList value))
    | none => (String.ofList text, none)
  match level.long? name, value with
  | none, _ => .error (.error (.unexpected s!"--{name}"))
  | some o, some value => if o.takesValue then s.attached o value else .error (.error (.unneededValue o value))
  | some o, none => if o.takesValue then s.awaiting o else s.flag o

/--
Read what follows one dash: letters of options. What follows an option with a value is that value, with or
without an equals sign before it.
-/
def readShort (level : Level) (s : State) : List Char → Except Stop State
  | [] => .ok s
  | letter :: rest =>
    match level.short? letter with
    | none => .error (.error (.unexpected (String.ofList ['-', letter])))
    | some o =>
      if o.takesValue then
        match rest with
        | [] => s.awaiting o
        | '=' :: value => s.attached o (String.ofList value)
        | value => s.attached o (String.ofList value)
      else do
        readShort level (← s.flag o) rest

end State

def commands : List (String × Level) := [("check", .check), ("rules", .rules)]

def helpName : String := "help"

/--
Complain about an argument that belongs to nothing. After two dashes a command is not taken as one.
-/
def misplaced (level : Level) (trailing : Bool) (argument : String) : Stop :=
  let isCommand := (commands.map Prod.fst ++ [helpName]).contains argument
  if level = .program ∧ ¬ (trailing ∧ isCommand) then
    .error (.unknownCommand argument)
  else
    .error (.unexpected argument)

def command? (level : Level) (s : State) (argument : String) : Option Level :=
  if level = .program ∧ s.waiting? = none then commands.lookup argument else none

def asksHelp (level : Level) (s : State) (argument : String) : Bool :=
  level = .program ∧ s.waiting? = none ∧ argument = helpName

def readHelp : List String → Stop
  | [] => .request .help
  | [name] =>
    if (commands.map Prod.fst ++ [helpName]).contains name then .request .help
    else .error (.unknownCommand name)
  | name :: next :: _ =>
    if (commands.map Prod.fst ++ [helpName]).contains name then .error (.unknownCommand next)
    else .error (.unknownCommand name)

def request (level : Level) (given : Given) : Request :=
  match level with
  | .rules => .rules (given.root.getD ".") given.config
  | _ => .check (given.root.getD ".") given

def readArguments (level : Level) (s : State) : List String → Except Stop (Level × Given)
  | [] => do return (level, ← s.settle)
  | argument :: rest =>
    match command? level s argument with
    | some command => do
      let (command, given) ← readArguments command {} rest
      -- An option before the command is settled last, so a complaint about the command comes first.
      let before ← s.settle
      return (command, { given with root := given.root <|> before.root })
    | none =>
      if asksHelp level s argument then
        .error (readHelp rest)
      else
        match argument.toList, s.waiting? with
        | ['-', '-'], _ =>
          match rest with
          | [] => do return (level, ← s.settle)
          | next :: _ => .error (misplaced level true next)
        | '-' :: '-' :: text, _ => do readArguments level (← s.readLong level text) rest
        | '-' :: letter :: letters, _ => do
          readArguments level (← s.readShort level (letter :: letters)) rest
        | _, some o => readArguments level { s with pending := some ⟨o, some argument⟩ } rest
        | _, none => .error (misplaced level false argument)

def Request.ofArguments (arguments : List String) : Except ArgumentError Request :=
  match readArguments .program {} arguments with
  | .ok (level, given) => .ok (request level given)
  | .error (.request r) => .ok r
  | .error (.error e) => .error e

end BackendPolicy.Command
