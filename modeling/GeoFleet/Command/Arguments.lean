import GeoFleet.Command.Help
import GeoFleet.Daemon

/-! Reading the arguments of the program: a command, and options of its own. An option is given at
most once, with its value after an equals sign or as the next argument. Help ends the reading where
it is asked for, so that only mistakes before it count. -/
namespace GeoFleet

inductive Command where
  | run (o : Daemon.Options)
  | check (path : String)
  | init (path : String) (force : Bool)
  deriving DecidableEq, Repr

inductive Request where
  | help (lines : List String)
  | command (jsonLogs : Bool) (c : Command)
  deriving DecidableEq, Repr

namespace Command

inductive Verb where
  | run | check | init
  deriving DecidableEq, Repr

namespace Verb

def ofName? : String → Option Verb
  | "run" => some .run
  | "check" => some .check
  | "init" => some .init
  | _ => none

def help : Verb → List String
  | .run => Help.run
  | .check => Help.check
  | .init => Help.init

end Verb

inductive Form where
  | flag
  /-- With a value that is a path, and so not empty. -/
  | path
  | text
  deriving DecidableEq, Repr

def Verb.options : Verb → List (String × Form)
  | .run => [("json-logs", .flag), ("config", .path), ("data-dir", .path), ("interval", .text),
      ("dry-run", .flag)]
  | .check => [("json-logs", .flag), ("config", .path)]
  | .init => [("json-logs", .flag), ("output", .path), ("force", .flag)]

/-- What comes after two dashes: a name, and the value after an equals sign. -/
def long? (argument : String) : Option (String × Option String) :=
  match argument.toList with
  | '-' :: '-' :: cs =>
    some (String.ofList (cs.takeWhile (· ≠ '=')),
      match cs.dropWhile (· ≠ '=') with
      | [] => none
      | _ :: value => some (String.ofList value))
  | _ => none

def isShortHelp (argument : String) : Bool := ['-', 'h'].isPrefixOf argument.toList

/-- Whether an argument cannot be the value of an option. A dash on its own can. -/
def isDashed (argument : String) : Bool := argument.toList.head? = some '-' && argument ≠ "-"

abbrev Given := List (String × String)

inductive Scan where
  | help
  | given (options : Given)

def Form.admits : Form → String → Bool
  | .path, value => value ≠ ""
  | _, _ => true

def scan? (options : List (String × Form)) : Given → List String → Option Scan
  | given, [] => some (.given given)
  | given, "--" :: rest => if rest = [] then some (.given given) else none
  | given, argument :: rest =>
    if isShortHelp argument then some .help
    else match long? argument with
      | none => none
      | some (name, attached) =>
        if name = "help" then (if attached.isNone then some .help else none)
        else if (given.lookup name).isSome then none
        else match options.lookup name, attached, rest with
          | some .flag, none, rest => scan? options ((name, "") :: given) rest
          | some .flag, some _, _ => none
          | some form, some value, rest =>
            if form.admits value then scan? options ((name, value) :: given) rest else none
          | some form, none, value :: rest =>
            if form.admits value ∧ ¬isDashed value then scan? options ((name, value) :: given) rest
            else none
          | _, _, _ => none

def defaultConfig : String := "geoscale.toml"

def defaultDataFolder : String := "/var/lib/geoscale"

def ofGiven (g : Given) : Verb → Command
  | .run => .run
    { config := (g.lookup "config").getD defaultConfig
      dataFolder := (g.lookup "data-dir").getD defaultDataFolder
      interval := g.lookup "interval"
      dryRun := (g.lookup "dry-run").isSome }
  | .check => .check ((g.lookup "config").getD defaultConfig)
  | .init => .init ((g.lookup "output").getD defaultConfig) (g.lookup "force").isSome

def read? (jsonLogs : Bool) (verb : Verb) (arguments : List String) : Option Request :=
  (scan? verb.options [] arguments).map fun
    | .help => .help verb.help
    | .given g => .command (jsonLogs || (g.lookup "json-logs").isSome) (ofGiven g verb)

def helpOn? : List String → Option (List String)
  | [] => some Help.program
  | ["help"] => some Help.help
  | [name] => (Verb.ofName? name).map Verb.help
  | _ => none

end Command

/-- Reads all arguments of the program; mistakes of usage make no request. -/
def Request.ofArguments? (jsonLogs : Bool) : List String → Option Request
  | [] => none
  | "--json-logs" :: rest => if jsonLogs then none else ofArguments? true rest
  | "--help" :: _ => some (.help Command.Help.program)
  | "help" :: names => (Command.helpOn? names).map .help
  | argument :: rest =>
    if Command.isShortHelp argument then some (.help Command.Help.program)
    else (Command.Verb.ofName? argument).bind fun verb => Command.read? jsonLogs verb rest

end GeoFleet
