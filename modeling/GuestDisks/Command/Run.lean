import GuestDisks.Command.Arguments
import GuestDisks.Document.Decoded
import GuestDisks.Json.Printer
import GuestDisks.Json.Reader
import GuestDisks.Schema.Definitions

/-!
# Runs of the command

What a run of the command shows: its exit code, its output, the complaint it ends with, and the
records of its log. `decode` prints the configuration of a document as JSON, unless the document
has errors; `encode` prints the document of a configuration; `schema` prints the schema of
configurations. A run that fails prints nothing.
-/

namespace GuestDisks.Command

/-- What a run shows. -/
structure Outcome where
  exit : Nat
  output : String := ""
  /-- The first line of what is wrong. -/
  complaint : Option String := none
  log : List LogRecord := []

/-- A run that fails at its file. -/
def failure (reason : String) (log : List LogRecord) : Outcome :=
  { exit := 1, complaint := some ("Error: " ++ reason), log }

/-- A file that cannot be read, or does not hold what it should. -/
def unloadable (file : String) : Outcome := failure ("failed to load " ++ file) []

/-- Prints the configuration of a document. -/
def decode (file : String) (contents : Option String) : Outcome :=
  match contents.map Document.read with
  | none | some (.error _) => unloadable file
  | some (.ok d) =>
    let decoded := d.decode
    if decoded.report.hasErrors then
      failure (file ++ " contains " ++ Decimal.ofNat decoded.report.errors.length ++
        " invalid slot(s)") decoded.log
    else { exit := 0, output := decoded.config.json.pretty ++ "\n", log := decoded.log }

/-- The record that tells of a cloud-init drive, for which contents must be generated. -/
def cloudInitRecord : LogRecord := ⟨.info, "configuration includes a cloud-init disk", []⟩

/-- Prints the document of a configuration. -/
def encode (file : String) (surface : Surface) (contents : Option String) : Outcome :=
  match contents.map (Json.readDocument Configuration.read) with
  | none | some (.error _) => unloadable file
  | some (.ok config) =>
    let encoded := Document.encode surface config
    { exit := 0
      output := encoded.output.write
      log := encoded.log surface ++ if encoded.cloudInitPresent then [cloudInitRecord] else [] }

/-- The file that an action reads. -/
def Action.file? : Action → Option String
  | .decode file | .encode file _ => some file
  | .schema => none

/-- Carries out an action, given the contents of its file if it can be read. -/
def Action.run (contents : Option String) : Action → Outcome
  | .decode file => Command.decode file contents
  | .encode file surface => Command.encode file surface contents
  | .schema =>
    { exit := 0, output := (Schema.document Schema.configuration).pretty ++ "\n" }

/-- The records that the log shows. -/
def shown (debug : Bool) (log : List LogRecord) : List LogRecord :=
  log.filter fun r => debug || r.level != .debug

/-- The help on a topic. -/
def usage : Topic → String
  | .command =>
    "Decode and render guest storage configuration\n\n" ++
    "Usage: guest-storage [OPTIONS] <COMMAND>\n\n" ++
    "Commands:\n" ++
    "  decode  Decode a TOML storage document and print the resulting configuration as JSON\n" ++
    "  encode  Render a JSON storage configuration as a TOML document\n" ++
    "  schema  Print the JSON schema of a storage configuration\n" ++
    "  help    Print this message or the help of the given subcommand(s)\n\n" ++
    "Options:\n" ++
    "  -d, --debug    Enable debugging\n" ++
    "  -h, --help     Print help\n" ++
    "  -V, --version  Print version\n"
  | .subcommand .decode =>
    "Decode a TOML storage document and print the resulting configuration as JSON\n\n" ++
    "Usage: guest-storage decode <FILE>\n\n" ++
    "Arguments:\n  <FILE>  Path to the TOML document\n\n" ++
    "Options:\n  -h, --help  Print help\n"
  | .subcommand .encode =>
    "Render a JSON storage configuration as a TOML document\n\n" ++
    "Usage: guest-storage encode [OPTIONS] <FILE>\n\n" ++
    "Arguments:\n  <FILE>  Path to the JSON configuration\n\n" ++
    "Options:\n" ++
    "  -s, --surface <SURFACE>  Syntax to render: \"list\" or \"expanded\" [default: list]\n" ++
    "  -h, --help               Print help\n"
  | .subcommand .schema =>
    "Print the JSON schema of a storage configuration\n\n" ++
    "Usage: guest-storage schema\n\n" ++
    "Options:\n  -h, --help  Print help\n"
  | .help =>
    "Print this message or the help of the given subcommand(s)\n\n" ++
    "Usage: guest-storage help [COMMAND]...\n\n" ++
    "Arguments:\n  [COMMAND]...  Print help for the subcommand(s)\n"

/-- What arguments show that ask for no run. -/
def Stop.outcome : Stop → Outcome
  | .help topic => { exit := 0, output := usage topic }
  | .nothing => { exit := 2 }
  | .version => { exit := 0, output := "guest-storage-cli 0.0.0\n" }
  | .refused r => { exit := 2, complaint := some ("error: " ++ r.message) }

/-- The outcome of arguments, where `contents` gives the contents of the files that can be read. -/
def respond (arguments : List String) (contents : String → Option String) : Outcome :=
  match Invocation.ofArguments arguments with
  | .error stop => stop.outcome
  | .ok invocation =>
    let outcome := invocation.action.run (invocation.action.file?.bind contents)
    { outcome with log := shown invocation.debug outcome.log }

end GuestDisks.Command
