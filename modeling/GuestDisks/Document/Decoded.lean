import GuestDisks.Document.Expanded

/-!
# From documents to configurations and back

A document becomes a configuration of all slots with a report of what was found
(`Document.decode`), and a configuration becomes a document on either surface (`Document.encode`).
The report decides whether the configuration may be applied: with an error in it, it may not.
-/

namespace GuestDisks

/-- What a document says. -/
structure Decoded where
  surface : Surface
  config : Configuration
  report : Report
  /-- What the log is told, in order. -/
  events : List Event

/-- A configuration as a document. -/
structure Encoded where
  output : Document
  /-- Whether contents must be generated for a cloud-init drive. -/
  cloudInitPresent : Bool

namespace Document

/-- Carries out what a document says. An absent map is an empty one. -/
def assign (d : Document) : Assignment × List Event :=
  match d.surface with
  | .list => DiskList.decode d.disk
  | .expanded => (d.disks.getD {}).decode

/-- The events after all entries or tables: every finding, and the totals. -/
def closing (config : Configuration) (report : Report) : List Event :=
  report.map .finding ++
    [.decoded config.devices.length report.errors.length report.warnings.length]

/-- Reads a configuration from a document. -/
def decode (d : Document) : Decoded :=
  let (a, events) := d.assign
  { surface := d.surface
    config := a.config
    report := a.report
    events := events ++ closing a.config a.report }

/-- Writes a configuration on a surface. -/
def encode (surface : Surface) (config : Configuration) : Encoded where
  output :=
    match surface with
    | .list => { disk := DiskList.encode config }
    | .expanded => { disks := some (BusTables.encode config) }
  cloudInitPresent := config.hasCloudInit

end Document

/-- The records of reading a document. -/
def Decoded.log (d : Decoded) : List LogRecord := d.events.map (Event.record (some d.surface))

/-- The record of writing a configuration. -/
def Encoded.log (e : Encoded) (surface : Surface) : List LogRecord :=
  [Event.record none (.encoded surface e.cloudInitPresent)]

end GuestDisks
