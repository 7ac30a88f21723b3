import WireSql.Config
import WireSql.Text.Ascii
import WireSql.Text.Search

/-!
# `WireSql.Options`: the command line of the server

The command line names files and overrides single settings. A flag has a long name and mostly a
short one, and takes a value: `--port 3306`, `--port=3306`, `-p 3306`, `-p3306`. Every flag may be
given once.

`Options.parse` reads the arguments and `Options.override` changes a configuration by them: what a
file says first, what the command line says over it.
-/

namespace WireSql

/-- The flags that take a value. -/
inductive Flag where
  | config
  | port
  | bind
  | password
  | logLevel
  /-- The file of the snapshot. -/
  | data
deriving DecidableEq, Repr

namespace Flag

/-- Every flag, in the order of the help text. -/
def all : List Flag := [config, port, bind, password, logLevel, data]

/-- The long name. -/
def long : Flag → String
  | config => "config"
  | port => "port"
  | bind => "bind"
  | password => "password"
  | logLevel => "log-level"
  | data => "data"

/-- The short name, where there is one. -/
def short? : Flag → Option Char
  | config => some 'c'
  | port => some 'p'
  | bind => some 'b'
  | password => none
  | logLevel => some 'l'
  | data => some 'd'

/-- What the value is called in texts. -/
def placeholder (f : Flag) : String :=
  String.ofList (f.long.toList.map fun c => if c == '-' then '_' else c.toUpper)

/-- The flag and its value as texts show them. -/
def usage (f : Flag) : String := s!"--{f.long} <{f.placeholder}>"

/-- What the flag does. -/
def purpose : Flag → String
  | config => "JSON configuration file"
  | port => "Port to listen on (overrides the config file)"
  | bind => "Address to bind (overrides the config file)"
  | password => "Password every user authenticates with (overrides the config file)"
  | logLevel => "Log level: off, error, warn, info, debug or trace"
  | data => "JSON snapshot of the databases, loaded at start and rewritten after every change"

/-- The flag at the front of an argument, and the value behind it in the same argument. -/
def ofArgument? (argument : String) : Option (Flag × Option String) :=
  match argument.toList with
  | '-' :: '-' :: r =>
    let (name, value) := match Text.splitAtFirst? '=' r with
      | some (name, value) => (name, some (String.ofList value))
      | none => (r, none)
    (all.find? (·.long.toList == name)).map (·, value)
  | '-' :: c :: r =>
    let value := match r with
      | [] => none
      | '=' :: r => some (String.ofList r)
      | r => some (String.ofList r)
    (all.find? (·.short? == some c)).map (·, value)
  | _ => none

end Flag

/-- How much the server reports of what it does. -/
inductive LogLevel where
  | off
  | error
  | warn
  | info
  | debug
  | trace
deriving DecidableEq, Repr

namespace LogLevel

/-- The place of a level, from nothing to everything. -/
def rank : LogLevel → Nat
  | off => 0
  | error => 1
  | warn => 2
  | info => 3
  | debug => 4
  | trace => 5

/-- The name of a level. -/
def name : LogLevel → String
  | off => "OFF"
  | error => "ERROR"
  | warn => "WARN"
  | info => "INFO"
  | debug => "DEBUG"
  | trace => "TRACE"

/-- The level with the given name, in any letter case. -/
def ofName? (s : String) : Option LogLevel :=
  [off, error, warn, info, debug, trace].find? (Text.sameIgnoringCase s ·.name)

/-- Does a server that reports up to `limit` report this? -/
def within (level limit : LogLevel) : Bool := level.rank ≤ limit.rank

end LogLevel

/-- Why a command line cannot be read. -/
inductive OptionError where
  /-- An argument is no flag. -/
  | unexpected (argument : String)
  | missingValue (flag : Flag)
  | repeated (flag : Flag)
  | badValue (flag : Flag) (value : String)
deriving DecidableEq, Repr

/-- The error in words. -/
def OptionError.message : OptionError → String
  | unexpected argument => s!"unexpected argument '{argument}' found"
  | missingValue flag => s!"a value is required for '{flag.usage}' but none was supplied"
  | repeated flag => s!"the argument '{flag.usage}' cannot be used multiple times"
  | badValue flag value => s!"invalid value '{value}' for '{flag.usage}'"

/-- What the command line says. -/
structure Options where
  config : Option String := none
  port : Option UInt16 := none
  bindAddress : Option String := none
  password : Option String := none
  logLevel : Option LogLevel := none
  /-- The file of the snapshot. -/
  data : Option String := none
deriving DecidableEq, Repr

/-- What is asked of the program. -/
inductive Request where
  | serve (options : Options)
  | help
  | version
deriving DecidableEq, Repr

namespace Options

/-- Give a flag its value, which it must not have yet. -/
def fill {α : Type} (flag : Flag) (value : String) (old new : Option α) :
    Except OptionError (Option α) :=
  match old, new with
  | some _, _ => .error (.repeated flag)
  | none, none => .error (.badValue flag value)
  | none, some a => .ok (some a)

/-- The options with one more flag. -/
def set (o : Options) (flag : Flag) (value : String) : Except OptionError Options :=
  match flag with
  | .config => do return { o with config := ← fill flag value o.config (some value) }
  | .port => do
    let port := (Decimal.unsigned? 16 value.toList).map UInt16.ofNat
    return { o with port := ← fill flag value o.port port }
  | .bind => do return { o with bindAddress := ← fill flag value o.bindAddress (some value) }
  | .password => do return { o with password := ← fill flag value o.password (some value) }
  | .logLevel => do
    return { o with logLevel := ← fill flag value o.logLevel (LogLevel.ofName? value) }
  | .data => do return { o with data := ← fill flag value o.data (some value) }

/-- Is the argument a flag by its looks, so that it is nobody's value? -/
def looksLikeFlag (argument : String) : Bool :=
  match argument.toList with
  | '-' :: _ :: _ => true
  | _ => false

/-- Read arguments on top of options already read. -/
def parseFrom (o : Options) : List String → Except OptionError Request
  | [] => .ok (.serve o)
  | argument :: rest =>
    if ["-h", "--help"].contains argument then .ok .help
    else if ["-V", "--version"].contains argument then .ok .version
    else match Flag.ofArgument? argument, rest with
      | none, _ => .error (.unexpected argument)
      | some (flag, some value), rest =>
        match o.set flag value with
        | .ok o => parseFrom o rest
        | .error e => .error e
      | some (flag, none), value :: rest =>
        if looksLikeFlag value then .error (.missingValue flag)
        else match o.set flag value with
          | .ok o => parseFrom o rest
          | .error e => .error e
      | some (flag, none), [] => .error (.missingValue flag)

/-- Read a command line. -/
def parse (arguments : List String) : Except OptionError Request := parseFrom {} arguments

/-- A configuration with what the command line says in place of its own. -/
def override (o : Options) (c : ServerConfig) : ServerConfig :=
  { c with
    port := o.port.getD c.port
    bindAddress := o.bindAddress.getD c.bindAddress
    password := o.password.getD c.password }

/-- How much to report where the command line does not say. -/
def level (o : Options) : LogLevel := o.logLevel.getD .info

/-- One line of the help text. -/
def helpLine (f : Flag) : String :=
  let short := match f.short? with
    | some c => s!"-{c}, "
    | none => "    "
  s!"  {short}{f.usage}\n          {f.purpose}\n"

/-- The help text. -/
def help (program : String) : String :=
  s!"Usage: {program} [OPTIONS]\n\nOptions:\n" ++ String.join (Flag.all.map helpLine) ++
    "  -h, --help\n          Print help\n  -V, --version\n          Print version\n"

@[simp] theorem override_empty (c : ServerConfig) : ({} : Options).override c = c := rfl

end Options

end WireSql
