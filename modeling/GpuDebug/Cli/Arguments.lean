/-!
# Arguments of the command line

The program has three commands. Options may stand on both sides of an argument of a command, and
the option that names the configuration may also stand before the command.

* `Cli.Command`: what the program is asked for;
* `Cli.Invocation.parse`: the command and the configuration that some arguments ask for.

An argument that starts with a hyphen is an option, unless it is a hyphen alone. Behind two
hyphens there are no more options. An option with a value has it behind an equals sign, behind its
letter, or in the next argument, and no option is given twice.
-/

namespace GpuDebug.Cli

/-- What the program is asked for. -/
inductive Command
  /-- Show how the text of a location is understood. -/
  | parseBreakpoint (text : String) (condition : Option String) (activeFile : String)
      (asJson : Bool)
  /-- Show the notifications in a capture. -/
  | decodeNotifications (file : String)
  /-- Show the load map. -/
  | loadMap
  deriving DecidableEq, Repr

/-- A command, and the file that holds the configuration. -/
structure Invocation where
  config : Option String
  command : Command
  deriving DecidableEq, Repr

/-- Why the program does not start. -/
inductive Refusal
  | helpWanted
  | versionWanted
  | wrongUsage (detail : String)
  deriving DecidableEq, Repr

/-! ## Options -/

/-- An option. -/
inductive Flag
  | config
  | condition
  | activeFile
  | json
  | help
  | version
  deriving DecidableEq, Repr

namespace Flag

def long : Flag → String
  | config => "config"
  | condition => "condition"
  | activeFile => "active-file"
  | json => "json"
  | help => "help"
  | version => "version"

def short? : Flag → Option Char
  | config => some 'c'
  | help => some 'h'
  | version => some 'V'
  | _ => none

def takesValue : Flag → Bool
  | config | condition | activeFile => true
  | _ => false

end Flag

/-- A part of the command line. -/
inductive Level
  /-- What stands before the name of the command. -/
  | top
  | parseBreakpoint
  | decodeNotifications
  | loadMap
  deriving DecidableEq, Repr

namespace Level

/-- The commands by name. -/
def named? : String → Option Level
  | "parse-breakpoint" => some parseBreakpoint
  | "decode-notifications" => some decodeNotifications
  | "loadmap" => some loadMap
  | _ => none

/-- The options of a level. -/
def flags : Level → List Flag
  | top => [.config, .help, .version]
  | parseBreakpoint => [.config, .condition, .activeFile, .json, .help]
  | decodeNotifications | loadMap => [.config, .help]

/-- Whether a command has an argument, which may be empty only if it is not a path. -/
def admits (level : Level) (argument : String) : Bool :=
  match level with
  | parseBreakpoint => true
  | decodeNotifications => argument != ""
  | top | loadMap => false

end Level

/-! ## Words -/

/-- An argument by itself. -/
inductive Word
  | plain (text : String)
  | flag (flag : Flag) (value : Option String)
  /-- The end of the options. -/
  | separator
  | unknown
  deriving DecidableEq, Repr

/-- Whether an argument is meant as an option, or as the end of the options. -/
def isHyphenated (argument : String) : Bool :=
  match argument.toList with
  | '-' :: _ :: _ => true
  | _ => false

/-- The word that an argument is at a level. -/
def Level.word (level : Level) (argument : String) : Word :=
  match argument.toList with
  | ['-', '-'] => .separator
  | '-' :: '-' :: name =>
    let value :=
      match name.dropWhile (· != '=') with
      | _ :: value => some (String.ofList value)
      | [] => none
    match level.flags.find? (·.long.toList == name.takeWhile (· != '=')) with
    | some flag => .flag flag value
    | none => .unknown
  | '-' :: letter :: rest =>
    match level.flags.find? (·.short? == some letter) with
    | none => .unknown
    | some flag =>
      if !flag.takesValue then .flag flag none
      else
        match rest with
        | [] => .flag flag none
        | '=' :: value => .flag flag (some (String.ofList value))
        | value => .flag flag (some (String.ofList value))
  | _ => .plain argument

/-! ## Reading the arguments -/

/-- The values that were given at a level. -/
structure Given where
  config : Option String
  condition : Option String
  activeFile : Option String
  json : Bool
  argument : Option String
  deriving DecidableEq, Repr

namespace Given

def none : Given := ⟨.none, .none, .none, false, .none⟩

/-- A value of an option that may be given once. -/
def once (flag : Flag) (earlier : Option String) (value : String) :
    Except Refusal (Option String) :=
  if earlier.isSome then
    .error (.wrongUsage s!"the option --{flag.long} cannot be used more than once")
  else .ok (some value)

/-- Takes an option and its value. -/
def take (g : Given) (flag : Flag) (value : Option String) : Except Refusal Given :=
  match flag, value with
  | .help, .none => .error .helpWanted
  | .version, .none => .error .versionWanted
  | .json, .none =>
    if g.json then .error (.wrongUsage "the option --json cannot be used more than once")
    else .ok { g with json := true }
  | .config, some value => do
    if value.isEmpty then throw (.wrongUsage "the option --config needs a value")
    return { g with config := ← once .config g.config value }
  | .condition, some value => return { g with condition := ← once .condition g.condition value }
  | .activeFile, some value =>
    return { g with activeFile := ← once .activeFile g.activeFile value }
  | flag, .none => .error (.wrongUsage s!"the option --{flag.long} needs a value")
  | flag, some _ => .error (.wrongUsage s!"the option --{flag.long} has no value")

/-- Takes an argument of the command itself. -/
def position (g : Given) (level : Level) (argument : String) : Except Refusal Given :=
  if g.argument.isNone && level.admits argument then .ok { g with argument := some argument }
  else .error (.wrongUsage s!"unexpected argument {argument}")

end Given

/-- Reads the arguments of a level: what they give, and at the top the arguments from the name of
the command on. -/
def Level.read (level : Level) (g : Given) : List String →
    Except Refusal (Given × List String)
  | [] => .ok (g, [])
  | argument :: rest =>
    match level.word argument with
    | .plain text =>
      if level = .top then .ok (g, text :: rest)
      else do level.read (← g.position level text) rest
    | .separator => do return (← rest.foldlM (·.position level ·) g, [])
    | .unknown => .error (.wrongUsage s!"unexpected argument {argument}")
    | .flag flag value =>
      match rest with
      | next :: later =>
        if flag.takesValue && value.isNone && !isHyphenated next then do
          level.read (← g.take flag (some next)) later
        else do level.read (← g.take flag value) (next :: later)
      | [] => do return (← g.take flag value, [])

/-- The file that a line without a file belongs to. -/
def standardFile : String := "temp_source"

/-- The command that its name and the given values describe. -/
def Given.command (g : Given) (level : Level) : Except Refusal Command :=
  match level, g.argument with
  | .parseBreakpoint, some text =>
    .ok (.parseBreakpoint text g.condition (g.activeFile.getD standardFile) g.json)
  | .decodeNotifications, some file => .ok (.decodeNotifications file)
  | .loadMap, _ => .ok .loadMap
  | _, _ => .error (.wrongUsage "an argument is missing")

namespace Invocation

/-- The answer to a request for help on the commands with the given names. -/
def help : List String → Refusal
  | [] => .helpWanted
  | [name] =>
    if name = "help" || (Level.named? name).isSome then .helpWanted
    else .wrongUsage s!"unknown command {name}"
  | _ => .wrongUsage "help is given on one command"

/-- The invocation that some arguments describe. A configuration that is named behind the command
goes before one that is named in front of it. -/
def parse (arguments : List String) : Except Refusal Invocation := do
  match ← Level.top.read Given.none arguments with
  | (_, []) => throw (.wrongUsage "a command is missing")
  | (top, name :: rest) =>
    match Level.named? name with
    | none => throw (if name = "help" then help rest else .wrongUsage s!"unknown command {name}")
    | some level =>
      let (given, _) ← level.read Given.none rest
      return ⟨given.config <|> top.config, ← given.command level⟩

end Invocation

end GpuDebug.Cli
