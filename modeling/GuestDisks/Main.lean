import GuestDisks.Command.Run

/-!
# The command `guest-storage`

Reads the file that the arguments name, and shows the outcome: output on the standard output, the
log and the complaint on the standard error.
-/

namespace GuestDisks.Command

/-- The text of a file, if it can be read. -/
def readText (file : String) : IO (Option String) :=
  try return some (← IO.FS.readFile file) catch _ => return none

/-- One line of the log. -/
def logLine (r : LogRecord) : String :=
  r.level.label ++ " " ++ r.message ++
    String.join (r.values.map fun v => ", " ++ v.1 ++ ": " ++ v.2)

end GuestDisks.Command

open GuestDisks Command

/-- Exits with 0 after a run, with 1 if its file would not do, and with 2 if the arguments ask for
none. -/
def main (arguments : List String) : IO UInt32 := do
  let file := (Invocation.ofArguments arguments).toOption.bind (·.action.file?)
  let contents ← match file with
    | some file => readText file
    | none => pure none
  let outcome := respond arguments fun _ => contents
  outcome.log.forM fun r => IO.eprintln (logLine r)
  outcome.complaint.forM IO.eprintln
  if outcome.exit = 2 ∧ outcome.complaint.isNone then IO.eprint (usage .command)
  IO.print outcome.output
  return outcome.exit.toUInt32
