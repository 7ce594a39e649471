import GuestDisks.Document.Basic
import GuestDisks.Text.Plain

/-!
# Arguments of the command

The command takes the options `--debug`, `--help` and `--version` and then a subcommand:
`decode FILE`, `encode FILE [--surface SURFACE]`, `schema` or `help`. `Invocation.ofArguments`
reads a list of arguments; where they do not ask for a run, it says why (`Stop`).

A value that stands in a word of its own is looked at only when the next option or value is met or
the arguments end. Until then it is `Pending`, and an unknown argument is refused before it.
-/

namespace GuestDisks.Command

/-- What the command is to do. -/
inductive Action
  | decode (file : String)
  | encode (file : String) (surface : Surface)
  | schema
  deriving DecidableEq

/-- A run of the command. -/
structure Invocation where
  /-- Whether the log shows debug records. -/
  debug : Bool
  action : Action
  deriving DecidableEq

/-- The subcommands that act. -/
inductive Subcommand
  | decode
  | encode
  | schema
  deriving DecidableEq

namespace Subcommand

def all : List Subcommand := [decode, encode, schema]

def label : Subcommand → String
  | decode => "decode"
  | encode => "encode"
  | schema => "schema"

/-- Whether the subcommand takes a file. -/
def takesFile : Subcommand → Bool
  | decode | encode => true
  | schema => false

/-- Whether the subcommand takes a surface. -/
def takesSurface : Subcommand → Bool
  | encode => true
  | decode | schema => false

end Subcommand

/-- What is wrong with arguments. -/
inductive Refusal
  | unknownSubcommand (word : String)
  | noSubcommand
  | unexpected (argument : String)
  | unexpectedValue (value option : String)
  | repeated (option : String)
  | valueRequired (argument : String)
  | invalidValue (value argument reason : String)
  | missing (argument : String)
  deriving DecidableEq

/-- The text about a refusal. It repeats words of the arguments as plain text. -/
def Refusal.message : Refusal → String
  | .unknownSubcommand word => "unrecognized subcommand '" ++ Text.plain word ++ "'"
  | .noSubcommand => "'guest-storage' requires a subcommand but one was not provided"
  | .unexpected argument => "unexpected argument '" ++ Text.plain argument ++ "' found"
  | .unexpectedValue value option =>
    "unexpected value '" ++ Text.plain value ++ "' for '" ++ option ++
      "' found; no more were expected"
  | .repeated option => "the argument '" ++ option ++ "' cannot be used multiple times"
  | .valueRequired argument =>
    "a value is required for '" ++ argument ++ "' but none was supplied"
  | .invalidValue value argument reason =>
    "invalid value '" ++ Text.plain value ++ "' for '" ++ argument ++ "': " ++ reason
  | .missing _ => "the following required arguments were not provided:"

/-- What help can be about. -/
inductive Topic
  /-- The whole command. -/
  | command
  | subcommand (c : Subcommand)
  /-- The subcommand `help` itself. -/
  | help
  deriving DecidableEq

/-- Why arguments ask for no run. -/
inductive Stop
  | help (topic : Topic)
  /-- There is nothing to go by, so help is shown as for a mistake. -/
  | nothing
  | version
  | refused (r : Refusal)
  deriving DecidableEq

/-- A word among the arguments. -/
inductive Word
  /-- The words after this one are no options. -/
  | escape
  /-- A long option, with the value after its equals sign. -/
  | long (name : String) (value : Option String)
  /-- Short options in a row. -/
  | shorts (cs : List Char)
  | plain (s : String)
  deriving DecidableEq

/-- The parts of a long option. -/
def Word.ofLong (cs : List Char) : Word :=
  let name := cs.takeWhile (· != '=')
  match cs.dropWhile (· != '=') with
  | [] => .long (String.ofList name) none
  | _ :: value => .long (String.ofList name) (some (String.ofList value))

/-- The word that an argument is. A lone hyphen is no option. -/
def Word.ofArgument (s : String) : Word :=
  match s.toList with
  | ['-', '-'] => .escape
  | '-' :: '-' :: cs => .ofLong cs
  | ['-'] => .plain s
  | '-' :: cs => .shorts cs
  | _ => .plain s

/-! ## Arguments of a subcommand -/

/-- How messages name the file. -/
def fileName : String := "<FILE>"

/-- How messages name the surface. -/
def surfaceName : String := "--surface <SURFACE>"

/-- A value not yet looked at. -/
inductive Pending
  | file (s : String)
  /-- The surface's option stands without its value. -/
  | surfaceOption
  | surface (s : String)

/-- What was read so far of a subcommand's arguments. -/
structure Progress where
  file : Option String := none
  surface : Option Surface := none
  pending : Option Pending := none
  /-- Whether the word for the file was met. -/
  hasFile : Bool := false
  /-- Whether options are over. -/
  escaped : Bool := false

namespace Progress

/-- Takes the value of the surface, which may be given once. -/
def setSurface (p : Progress) (s : String) : Except Refusal Progress :=
  match p.surface, Surface.ofName s with
  | some _, _ => .error (.repeated surfaceName)
  | none, .ok surface => .ok { p with surface := some surface }
  | none, .error unknown => .error (.invalidValue s surfaceName unknown.message)

/-- Looks at the value that is pending. -/
def settle (p : Progress) : Except Refusal Progress :=
  let q := { p with pending := none }
  match p.pending with
  | none => .ok q
  | some (.file s) =>
    if s = "" then .error (.valueRequired fileName) else .ok { q with file := some s }
  | some .surfaceOption => .error (.valueRequired surfaceName)
  | some (.surface s) => q.setSurface s

/-- Takes a word that is the value of no option. -/
def positional (c : Subcommand) (p : Progress) (s : String) : Except Refusal Progress :=
  if c.takesFile && !p.hasFile then do
    let p ← p.settle
    return { p with pending := some (.file s), hasFile := true }
  else .error (.unexpected s)

/-- Takes a word that is neither an option nor after the escape. -/
def plain (c : Subcommand) (p : Progress) (s : String) : Except Refusal Progress :=
  match p.pending with
  | some .surfaceOption => .ok { p with pending := some (.surface s) }
  | _ => positional c p s

/-- Ends with help, after the pending value. -/
def help (c : Subcommand) (p : Progress) : Except Stop Progress :=
  match p.settle with
  | .ok _ => .error (.help (.subcommand c))
  | .error r => .error (.refused r)

/-- Takes the surface's option, with its value if that is in the same word. -/
def surfaceOption (p : Progress) (value : Option String) : Except Refusal Progress := do
  let p ← p.settle
  match value with
  | some s => p.setSurface s
  | none => return { p with pending := some .surfaceOption }

/-- The value that follows a short option in its word, an equals sign before it apart. -/
def attached : List Char → Option String
  | [] => none
  | '=' :: cs => some (String.ofList cs)
  | cs => some (String.ofList cs)

/-- Takes short options in a row. -/
def shorts (c : Subcommand) (p : Progress) (cs : List Char) : Except Stop Progress :=
  match cs with
  | [] => .ok p
  | 'h' :: _ => help c p
  | x :: cs =>
    if x = 's' && c.takesSurface then (p.surfaceOption (attached cs)).mapError .refused
    else .error (.refused (.unexpected (String.ofList ['-', x])))

/-- Takes an argument. -/
def take (c : Subcommand) (p : Progress) (argument : String) : Except Stop Progress :=
  if p.escaped then (positional c p argument).mapError .refused
  else match Word.ofArgument argument with
    | .escape => .ok { p with escaped := true }
    | .plain s => (plain c p s).mapError .refused
    | .shorts cs => shorts c p cs
    | .long name value =>
      if name = "surface" && c.takesSurface then (p.surfaceOption value).mapError .refused
      else if name = "help" then
        match value with
        | some v => .error (.refused (.unexpectedValue v "--help"))
        | none => help c p
      else .error (.refused (.unexpected ("--" ++ name)))

end Progress

/-- The action of a subcommand with its arguments. Without a surface, it is the list. -/
def Subcommand.action (c : Subcommand) (arguments : List String) : Except Stop Action := do
  let p ← arguments.foldlM (Progress.take c) {}
  let p ← p.settle.mapError .refused
  match c, p.file with
  | .schema, _ => return .schema
  | .decode, some file => return .decode file
  | .encode, some file => return .encode file (p.surface.getD .list)
  | _, none => .error (.refused (.missing fileName))

/-! ## Arguments of the command -/

/-- The topic with a name. -/
def Topic.ofName? (name : String) : Option Topic :=
  if name = "help" then some .help
  else (ofLabel? Subcommand.label Subcommand.all name).map .subcommand

/-- What is shown for the words after `help`. No topic has topics of its own. -/
def helpOn : List String → Stop
  | [] => .help .command
  | word :: more =>
    match Topic.ofName? word, more with
    | some topic, [] => .help topic
    | some _, next :: _ => .refused (.unknownSubcommand next)
    | none, _ => .refused (.unknownSubcommand word)

/-- Takes the short options of the command: whether `--debug` was met, now or before. -/
def shortOptions (debug : Bool) : List Char → Except Stop Bool
  | [] => .ok debug
  | 'd' :: cs =>
    if debug then .error (.refused (.repeated "--debug")) else shortOptions true cs
  | 'h' :: _ => .error (.help .command)
  | 'V' :: _ => .error .version
  | c :: _ => .error (.refused (.unexpected (String.ofList ['-', c])))

/-- Takes a long option of the command. -/
def longOption (debug : Bool) (name : String) (value : Option String) : Except Stop Bool :=
  if name = "debug" ∨ name = "help" ∨ name = "version" then
    match value with
    | some v => .error (.refused (.unexpectedValue v ("--" ++ name)))
    | none =>
      if name = "help" then .error (.help .command)
      else if name = "version" then .error .version
      else if debug then .error (.refused (.repeated "--debug"))
      else .ok true
  else .error (.refused (.unexpected ("--" ++ name)))

/-- The end of the arguments without a subcommand. -/
def withoutSubcommand (debug : Bool) : Stop :=
  if debug then .refused .noSubcommand else .nothing

/-- A word after the escape, where no subcommand may stand. -/
def escapedWord (word : String) : Refusal :=
  if (Topic.ofName? word).isSome then .unexpected word else .unknownSubcommand word

/-- Reads the arguments, given whether `--debug` was met. -/
def readArguments (debug : Bool) : List String → Except Stop Invocation
  | [] => .error (withoutSubcommand debug)
  | argument :: rest =>
    match Word.ofArgument argument with
    | .escape =>
      match rest with
      | [] => .error (withoutSubcommand debug)
      | word :: _ => .error (.refused (escapedWord word))
    | .long name value => do readArguments (← longOption debug name value) rest
    | .shorts cs => do readArguments (← shortOptions debug cs) rest
    | .plain word =>
      match ofLabel? Subcommand.label Subcommand.all word with
      | some c => do return ⟨debug, ← c.action rest⟩
      | none =>
        if word = "help" then .error (helpOn rest)
        else .error (.refused (.unknownSubcommand word))

/-- The run that arguments ask for. -/
def Invocation.ofArguments (arguments : List String) : Except Stop Invocation :=
  readArguments false arguments

end GuestDisks.Command
