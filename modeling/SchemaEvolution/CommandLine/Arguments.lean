import SchemaEvolution.Settings

/-!
# Arguments

What the program is asked to do. The arguments are a few switches, the name of a command, and the
switches and operands of that command; the two switches for every command may stand in either place.
`Request.read` reads them from left to right, and whatever it does not understand refuses the whole.
-/

namespace SchemaEvolution.CommandLine

/-! ## Requests -/

/-- A plan whose script is to be printed, with what takes the place of settings. -/
structure ScriptRequest where
  plan : String
  format : Option OutputFormat := none
  terminator : Option String := none
deriving DecidableEq

/-- A command with its operands and switches. -/
inductive Command where
  | forward (script : ScriptRequest)
  | revert (script : ScriptRequest) (allowPartial : Bool)
  | explain (plan : String) (asJson : Bool)
  | new (name : String) (directory : Option String)
  | types
deriving DecidableEq

/-- A command with what holds for every command. -/
structure Invocation where
  settings : Option String := none
  verbose : Bool := false
  command : Command
deriving DecidableEq

/-- What the arguments ask for. -/
inductive Request where
  | run (invocation : Invocation)
  | version
  | help
deriving DecidableEq

/-! ## Switches -/

/-- The switches of the program and its commands. -/
inductive Switch where
  | config
  | verbose
  | version
  | help
  | format
  | terminator
  | allowPartial
  | json
  | directory
deriving DecidableEq

namespace Switch

/-- The name of a switch, which is written after two dashes. -/
def name : Switch → String
  | config => "config"
  | verbose => "verbose"
  | version => "version"
  | help => "help"
  | format => "format"
  | terminator => "terminator"
  | allowPartial => "allow-partial"
  | json => "json"
  | directory => "dir"

/-- The letter of a switch, which is written after one dash. -/
def letter? : Switch → Option Char
  | verbose => some 'v'
  | version => some 'V'
  | help => some 'h'
  | format => some 'f'
  | terminator => some 't'
  | directory => some 'd'
  | config | allowPartial | json => none

/-- Whether a value belongs to the switch. -/
def takesValue : Switch → Bool
  | config | format | terminator | directory => true
  | verbose | version | help | allowPartial | json => false

/-- Whether a value will do: a path is not empty, and a format is one of those there are. -/
def accepts : Switch → String → Bool
  | config, value | directory, value => !value.isEmpty
  | format, value => OutputFormat.all.any (·.name == value)
  | _, _ => true

/-- The switches for every command. -/
def shared : List Switch := [config, verbose, help]

end Switch

/-! ## Reading one level -/

/-- Why the arguments do not lead to a command. -/
inductive Halt where
  | refused
  | version
  | help
deriving DecidableEq

/-- What has been given at one level, at the front of the arguments or after the name of a command.
A switch without a value has an empty one here. -/
structure Given where
  values : List (Switch × String) := []
  operands : List String := []

namespace Given

/-- The value that has been given for a switch. -/
def value? (g : Given) (s : Switch) : Option String :=
  g.values.lookup s

/-- Whether a switch has been given. -/
def has (g : Given) (s : Switch) : Bool :=
  (g.value? s).isSome

/-- One more switch with its value. None may be given twice, and two of them end the reading. -/
def add (g : Given) (s : Switch) (value : String) : Except Halt Given :=
  match s with
  | .version => .error .version
  | .help => .error .help
  | s =>
    if g.has s || !s.accepts value then .error .refused
    else .ok { g with values := g.values ++ [(s, value)] }

end Given

/-- What may be given at one level. -/
structure Level where
  switches : List Switch
  /-- The operands, by whether each may be empty. -/
  operands : List Bool

namespace Level

/-- The switches after one dash: letters without a value, and perhaps one with a value, which is what
follows it or, if nothing does, the next argument. -/
def readLetters (l : Level) : Given → List Char → Except Halt (Given × Option Switch)
  | g, [] => .ok (g, none)
  | g, c :: rest =>
    match l.switches.find? fun s => s.letter? == some c with
    | none => .error .refused
    | some s =>
      if s.takesValue then
        match rest with
        | [] => .ok (g, some s)
        | '=' :: value => do return (← g.add s (String.ofList value), none)
        | value => do return (← g.add s (String.ofList value), none)
      else do l.readLetters (← g.add s "") rest

/-- The switch after two dashes, with its value behind an equals sign or in the next argument. -/
def readName (l : Level) (g : Given) (text : List Char) : Except Halt (Given × Option Switch) :=
  let name := text.takeWhile (· ≠ '=')
  match l.switches.find? fun s => s.name.toList == name with
  | none => .error .refused
  | some s =>
    match text.dropWhile (· ≠ '='), s.takesValue with
    | _ :: value, true => do return (← g.add s (String.ofList value), none)
    | _ :: _, false => .error .refused
    | [], true => .ok (g, some s)
    | [], false => do return (← g.add s "", none)

/-- One more operand, if there may be one. -/
def addOperand (l : Level) (g : Given) (text : String) : Except Halt Given :=
  match l.operands[g.operands.length]? with
  | some mayBeEmpty =>
    if text.isEmpty && !mayBeEmpty then .error .refused
    else .ok { g with operands := g.operands ++ [text] }
  | none => .error .refused

/-- Whether an argument is a switch and not an operand or a value. -/
def isSwitch (text : String) : Bool :=
  match text.toList with
  | '-' :: _ :: _ => true
  | _ => false

/-- Reads an argument that is a switch. -/
def readSwitch (l : Level) (g : Given) (text : String) : Except Halt (Given × Option Switch) :=
  match text.toList with
  | '-' :: '-' :: rest => l.readName g rest
  | _ :: rest => l.readLetters g rest
  | [] => .error .refused

/-- Reads the arguments after the name of a command. `waiting` is a switch that the next argument is
the value of. After two dashes by themselves there are only operands. -/
def read (l : Level) : Given → (waiting : Option Switch) → List String → Except Halt Given
  | g, none, [] => .ok g
  | _, some _, [] => .error .refused
  | g, some s, a :: rest =>
    if isSwitch a then .error .refused
    else do l.read (← g.add s a) none rest
  | g, none, a :: rest =>
    if a = "--" then rest.foldlM l.addOperand g
    else if isSwitch a then do
      let (g, waiting) ← l.readSwitch g a
      l.read g waiting rest
    else do l.read (← l.addOperand g a) none rest

/-- Reads the arguments up to the name of a command; that and what follows it is left. -/
def readFront (l : Level) : Given → (waiting : Option Switch) → List String →
    Except Halt (Given × String × List String)
  | _, _, [] => .error .refused
  | g, some s, a :: rest =>
    if isSwitch a then .error .refused
    else do l.readFront (← g.add s a) none rest
  | g, none, a :: rest =>
    if a = "--" then .error .refused
    else if isSwitch a then do
      let (g, waiting) ← l.readSwitch g a
      l.readFront g waiting rest
    else .ok (g, a, rest)

end Level

/-! ## Commands -/

/-- The names of the commands. -/
inductive CommandName where
  | forward
  | revert
  | explain
  | new
  | types
deriving DecidableEq

namespace CommandName

/-- All commands. -/
def all : List CommandName := [forward, revert, explain, new, types]

/-- The name as it is written. -/
def name : CommandName → String
  | forward => "forward"
  | revert => "revert"
  | explain => "explain"
  | new => "new"
  | types => "types"

/-- What may be given after the name. -/
def level : CommandName → Level
  | forward => { switches := Switch.shared ++ [.format, .terminator], operands := [false] }
  | revert =>
    { switches := Switch.shared ++ [.format, .terminator, .allowPartial], operands := [false] }
  | explain => { switches := Switch.shared ++ [.json], operands := [false] }
  | new => { switches := Switch.shared ++ [.directory], operands := [true] }
  | types => { switches := Switch.shared, operands := [] }

/-- The plan in question and how to print its script. -/
def script (g : Given) (plan : String) : ScriptRequest where
  plan := plan
  format := (g.value? .format).bind fun v => OutputFormat.all.find? (·.name == v)
  terminator := g.value? .terminator

/-- The command, if it has all of its operands. -/
def command (c : CommandName) (g : Given) : Except Halt Command :=
  match c, g.operands with
  | forward, [plan] => .ok (.forward (script g plan))
  | revert, [plan] => .ok (.revert (script g plan) (g.has .allowPartial))
  | explain, [plan] => .ok (.explain plan (g.has .json))
  | new, [name] => .ok (.new name (g.value? .directory))
  | types, [] => .ok .types
  | _, _ => .error .refused

end CommandName

/-! ## All arguments -/

namespace Request

/-- What may be given before the name of a command. -/
def front : Level where
  switches := Switch.shared ++ [.version]
  operands := []

/-- Asking for help on a command by the name of `help`. -/
def ofHelp (names : List String) : Halt :=
  match names with
  | [] => .help
  | [name] => if name = "help" || CommandName.all.any (·.name == name) then .help else .refused
  | _ => .refused

/-- The settings file that is named: after the command, before it, or else by the environment. A name
in the environment stands for what one of the two places does not say, and is never empty. -/
def settingsFile (environment : Option String) (before after : Given) :
    Except Halt (Option String) :=
  let places := [after.value? .config, before.value? .config]
  if environment == some "" && places.any Option.isNone then .error .refused
  else .ok ((after.value? .config).or ((before.value? .config).or environment))

/-- Reads the arguments as a command; `environment` may name a settings file. -/
def readInvocation (environment : Option String) (arguments : List String) :
    Except Halt Invocation := do
  let (before, name, rest) ← front.readFront {} none arguments
  if name = "help" then throw (ofHelp rest)
  match CommandName.all.find? (·.name == name) with
  | none => throw .refused
  | some c =>
    let after ← c.level.read {} none rest
    let settings ← settingsFile environment before after
    let command ← c.command after
    return { settings, verbose := before.has .verbose || after.has .verbose, command }

/-- Reads the arguments. There is no request if they are refused. -/
def read (environment : Option String) (arguments : List String) : Option Request :=
  match readInvocation environment arguments with
  | .ok invocation => some (.run invocation)
  | .error .version => some .version
  | .error .help => some .help
  | .error .refused => none

end Request

end SchemaEvolution.CommandLine
